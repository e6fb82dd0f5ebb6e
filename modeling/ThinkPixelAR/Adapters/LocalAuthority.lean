import ThinkPixelAR.Ports.Authority

/-!
The local authority (`internal/adapters/authority/local/policy.go`, `evaluate` of
`admission.go`) and the profile registry it resolves names with
(`internal/config/runtimeprofiles/registry.go`).

Profiles are objects in memory: the policy holds one for every enabled name, and an
evaluation narrows a clone through pointers. Memory is a list of profiles to which
objects are only added, and a pointer is a position. JSON is used by the code to clone,
to measure and to hash; a clone equals the original.
-/
namespace ThinkPixelAR.LocalAuthority

open Authority
open RuntimeProfile (errInvalidProfile RequestLimit)

/-- The JSON and hashing libraries, as far as their results are compared or measured:
canonical texts (RFC 8785), digests, and the size of a marshalled grant. -/
structure Encoding where
  canonical : String → Option String
  sha256 : String → Digest
  grantSize : Session.RawBinding → Profile → String → Nat

/-! ### The profile registry -/

/-- A registered profile with its evidence. -/
structure Entry where
  profile : Profile
  digest : Digest
  implementation : String
  implementationDigest : Digest

/-- Registered profiles by name; every one satisfies its cross-field constraints. -/
structure Registry where
  entries : List (String × Entry)
  constrained : ∀ e ∈ entries, e.2.profile.validateConstraints = .ok ()

namespace Registry

def empty : Registry := { entries := [], constrained := by simp }

/-- `Lookup`. -/
def lookup (r : Registry) (name : String) : Option Entry := r.entries.lookup name

def insert (r : Registry) (e : Entry) (valid : e.profile.validateConstraints = .ok ()) :
    Registry where
  entries := (e.profile.name, e) :: r.entries
  constrained := by
    intro other member
    rcases List.mem_cons.mp member with rfl | earlier
    · exact valid
    · exact r.constrained other earlier

theorem lookup_constrained {r : Registry} {name : String} {e : Entry}
    (found : r.lookup name = some e) : e.profile.validateConstraints = .ok () := by
  obtain ⟨before, after, split, -⟩ := List.lookup_eq_some_iff.mp found
  exact r.constrained (name, e) (split ▸ List.mem_append_right _ List.mem_cons_self)

/-- What the operator's `resolve` returned, in canonical form. -/
def evidence (encoding : Encoding) (resolved : Option String) : Except Error String :=
  match resolved with
  | none => .error (.new "runtime profile implementation unavailable")
  | some raw =>
    if raw = "" || 65536 < raw.utf8ByteSize then
      .error (.new "runtime profile implementation unavailable")
    else match encoding.canonical raw with
      | none => .error (.new "invalid runtime profile implementation evidence")
      | some text =>
        if text.startsWith "\x7b" then .ok text
        else .error (.new "invalid runtime profile implementation evidence")

/-- One document of `Reload`. `read` is the schema library followed by the decoder. -/
def register (encoding : Encoding) (read : String → Option Profile)
    (resolve : Profile → Option String) (next : Registry) (raw : String) :
    Except Error Registry :=
  if 65536 < raw.utf8ByteSize then .error errInvalidProfile
  else match encoding.canonical raw with
    | none => .error errInvalidProfile
    | some normalized =>
      match read normalized with
      | none => .error errInvalidProfile
      | some p =>
        if valid : p.validateConstraints = .ok () then
          if (next.lookup p.name).isSome then .error errInvalidProfile
          else match evidence encoding (resolve p) with
            | .error e => .error e
            | .ok implementation => .ok (next.insert
                { profile := p, digest := encoding.sha256 normalized, implementation
                  implementationDigest := encoding.sha256 implementation } valid)
        else .error errInvalidProfile

end Registry

/-! ### Configuration -/

structure ApprovedRuntime where
  binding : Session.RawBinding
  profiles : List String
  capabilities : List String
deriving DecidableEq

structure Config where
  mode : String
  revision : Option Digest
  defaultProfile : String
  profiles : List String
  defaultDuration : Int
  maximumDuration : Int
  cpu : Int
  memory : Int
  ephemeralStorage : Int
  workspaceBytes : Int
  maxProcesses : Int
  architectures : List String
  networks : List String
  runtimes : List ApprovedRuntime
  tenants : List ID
  principals : List (Option Digest)
deriving DecidableEq

def errConfiguration : Error := .new "invalid local authority configuration"

/-- `subset` with the values seen so far: no value twice, every value allowed. -/
def subsetFrom (allowed seen : List String) : List String → Bool
  | [] => true
  | v :: rest =>
    if seen.contains v || !allowed.contains v then false else subsetFrom allowed (v :: seen) rest

def subset (values allowed : List String) : Bool := subsetFrom allowed [] values

theorem subsetFrom_iff {allowed seen values : List String} :
    subsetFrom allowed seen values = true ↔
      values.Nodup ∧ ∀ v ∈ values, v ∈ allowed ∧ v ∉ seen := by
  induction values generalizing seen with
  | nil => simp [subsetFrom]
  | cons v rest ih =>
    simp only [subsetFrom, List.contains_eq_mem, Bool.if_false_left, Bool.and_eq_true, ih,
      List.nodup_cons, List.forall_mem_cons]
    constructor
    · rintro ⟨fresh, nodup, others⟩
      simp at fresh
      refine ⟨⟨fun again => (others v again).2 List.mem_cons_self, nodup⟩, ⟨fresh.2, fresh.1⟩,
        fun u member => ⟨(others u member).1, fun seen => (others u member).2 ?_⟩⟩
      exact List.mem_cons_of_mem _ seen
    · rintro ⟨⟨fresh, nodup⟩, ⟨allowed, unseen⟩, others⟩
      refine ⟨by simp [unseen, allowed], nodup, fun u member => ⟨(others u member).1, ?_⟩⟩
      rintro seen
      rcases List.mem_cons.mp seen with rfl | earlier
      · exact fresh member
      · exact (others u member).2 earlier

theorem subset_iff {values allowed : List String} :
    subset values allowed = true ↔ values.Nodup ∧ ∀ v ∈ values, v ∈ allowed := by
  simp [subset, subsetFrom_iff]

/-- `canonicalDigest`: an object whose canonical text has the digest. -/
def canonicalDigest (encoding : Encoding) (raw : String) (digest : Option Digest) : Bool :=
  digest.isSome && raw.startsWith "\x7b" &&
    (encoding.canonical raw).any fun text => some (encoding.sha256 text) = digest

/-- A binding without its two documents. -/
def identity (b : Session.RawBinding) : Session.RawBinding :=
  { b with runtimeSpec := "", runtimeProfileSnapshot := "" }

/-- `sameBinding`: the documents of `b` have their digests, and all other fields agree. -/
def sameBinding (encoding : Encoding) (a b : Session.RawBinding) : Bool :=
  canonicalDigest encoding b.runtimeSpec b.runtimeSpecDigest &&
    canonicalDigest encoding b.runtimeProfileSnapshot b.runtimeProfileDigest &&
    identity a = identity b

/-! ### Construction -/

/-- A profile of the policy: its object in memory and its evidence. -/
structure Resolved where
  profile : Nat
  digest : Digest
  implementationDigest : Digest
  implementation : String
deriving DecidableEq

/-- The profile objects of the process; a pointer is a position. -/
abbrev Memory := List Profile

/-- `Authority`, without its store, clock and instruments. -/
structure Authority where
  config : Config
  profiles : List (String × Resolved)
  revision : Digest
deriving DecidableEq

/-- The scalar checks of `New`, before the configuration is frozen. -/
def Config.acceptable (c : Config) : Bool :=
  c.mode = "local" && c.revision.isSome && 0 < c.defaultDuration &&
    c.defaultDuration ≤ c.maximumDuration &&
    c.maximumDuration ≤ 365 * 24 * 3600 * 1000000000 &&
    !c.profiles.isEmpty && c.profiles.length ≤ 128 && c.profiles.contains c.defaultProfile &&
    !c.runtimes.isEmpty && c.runtimes.length ≤ 128 &&
    [c.cpu, c.memory, c.ephemeralStorage, c.workspaceBytes, c.maxProcesses].all (0 < ·) &&
    subset c.architectures ["amd64", "arm64"] && !c.architectures.isEmpty &&
    !c.networks.isEmpty &&
    subset c.networks ["none", "thinkpixel-only", "restricted-development", "package-mirrors",
      "unrestricted-standalone"] &&
    c.principals.all Option.isSome && c.tenants.all validID

/-- Whether a profile is within the global ceilings. -/
def Config.fits (c : Config) (p : Profile) : Bool :=
  p.resources.cpu.limit ≤ c.cpu && p.resources.memory.limit ≤ c.memory &&
    p.resources.ephemeralStorage.limit ≤ c.ephemeralStorage &&
    p.workspaceBytes ≤ c.workspaceBytes && p.maxProcesses ≤ c.maxProcesses &&
    subset p.architectures c.architectures && c.networks.contains p.network.profile &&
    p.resources.gpuCount = 0 && !p.gpuAllowed

/-- One round of the loop over the enabled profiles; `Lookup` returns a fresh object. -/
def enable (c : Config) (registry : Registry) (policy : List (String × Resolved) × Memory)
    (name : String) : Except Error (List (String × Resolved) × Memory) :=
  match registry.lookup name with
  | none => .error errConfiguration
  | some e =>
    if (policy.1.lookup name).isSome || !c.fits e.profile then .error errConfiguration
    else .ok ((name,
        { profile := policy.2.length, digest := e.digest
          implementationDigest := e.implementationDigest, implementation := e.implementation })
        :: policy.1,
      policy.2 ++ [e.profile])

/-- The size of the grant that the replay record has to hold. -/
def Encoding.replaySize (encoding : Encoding) (policy : List (String × Resolved) × Memory)
    (b : Session.RawBinding) (name : String) : Option Nat := do
  let entry ← policy.1.lookup name
  let p ← policy.2[entry.profile]?
  return encoding.grantSize b p entry.implementation

/-- The checks of one approved runtime, against those before it. -/
def approvable (encoding : Encoding) (c : Config) (policy : List (String × Resolved) × Memory)
    (previous : List ApprovedRuntime) (r : ApprovedRuntime) : Bool :=
  let b := r.binding
  b.authorityMode = some .localAuthority && b.authorityNamespace = "thinkpixelar/local" &&
    b.agentID ≠ "" && b.agentVersionID ≠ "" && b.runtimeSpecSchemaVersion ≠ "" &&
    b.runtimeProfileSchemaVersion ≠ "" && b.runtimeSpec.utf8ByteSize ≤ 32768 &&
    b.runtimeProfileSnapshot.utf8ByteSize ≤ 16384 &&
    canonicalDigest encoding b.runtimeSpec b.runtimeSpecDigest &&
    canonicalDigest encoding b.runtimeProfileSnapshot b.runtimeProfileDigest &&
    !r.profiles.isEmpty && subset r.profiles c.profiles &&
    subset r.capabilities ["shell", "process", "fork"] &&
    !previous.any (fun earlier => sameBinding encoding earlier.binding b) &&
    r.profiles.all fun name => !(encoding.replaySize policy b name).any (60000 < ·)

/-- The loop over the approved runtimes. -/
def approve (encoding : Encoding) (c : Config) (policy : List (String × Resolved) × Memory)
    (previous : List ApprovedRuntime) : List ApprovedRuntime → Bool
  | [] => true
  | r :: rest =>
    approvable encoding c policy previous r && approve encoding c policy (previous ++ [r]) rest

/-- `New`. The frozen copy of the configuration equals it; `none` is a nil registry, and
`evidence` is the digest of the configuration with the resolved profiles. -/
def newAuthority (encoding : Encoding)
    (evidence : Config → List (String × Resolved) × Memory → Digest) (c : Config)
    (registry : Option Registry) : Except Error (Authority × Memory) :=
  match registry with
  | none => .error errConfiguration
  | some registry =>
    if !c.acceptable then .error errConfiguration
    else match c.profiles.foldlM (enable c registry) ([], []) with
      | .error e => .error e
      | .ok policy =>
        if approve encoding c policy [] c.runtimes then
          .ok ({ config := c, profiles := policy.1, revision := evidence c policy }, policy.2)
        else .error errConfiguration

/-! ### Evaluation -/

/-- A Session as the repository returns it, with the tenant it belongs to. -/
structure Presented where
  tenantID : ID
  session : Session

/-- The Session checks of `evaluate`. -/
def admissible (c : Caller) (r : Request) (s : Presented) : Bool :=
  s.tenantID = c.tenantID && s.session.id = r.sessionID &&
    s.session.stateVersion = r.sessionVersion && s.session.executionGeneration < maxInt64 &&
    r.generation = s.session.executionGeneration + 1 &&
    (s.session.state = .ready || s.session.state = .idle)

/-- `narrowLimit`: what `*base` holds afterwards, or a refusal that leaves it. -/
def narrowLimit (base : RequestLimit)
    (requested : Option RequestLimit) : Option RequestLimit :=
  match requested with
  | none => some base
  | some v =>
    if v.request ≤ 0 || v.limit ≤ 0 || v.limit < v.request || base.request < v.request ||
      base.limit < v.limit then none else some v

/-- `narrowValue`. -/
def narrowValue (base : Int) (requested : Option Int) : Option Int :=
  match requested with
  | none => some base
  | some v => if v ≤ 0 || base < v then none else some v

/-- An architecture of the profile, or all of them. -/
def narrowArchitectures (base : List String) (requested : String) : Option (List String) :=
  if requested = "" then some base
  else if base.contains requested then some [requested] else none

/-- The writes of `evaluate` through pointers into the clone, in order. -/
def narrowings (r : Request) : List (Profile → Option Profile) :=
  [fun p => (narrowLimit p.resources.cpu r.cpu).map fun v =>
      { p with resources := { p.resources with cpu := v } },
    fun p => (narrowLimit p.resources.memory r.memory).map fun v =>
      { p with resources := { p.resources with memory := v } },
    fun p => (narrowLimit p.resources.ephemeralStorage r.ephemeralStorage).map fun v =>
      { p with resources := { p.resources with ephemeralStorage := v } },
    fun p => (narrowValue p.workspaceBytes r.workspaceBytes).map fun v =>
      { p with workspaceBytes := v },
    fun p => (narrowValue p.maxProcesses r.maxProcesses).map fun v =>
      { p with maxProcesses := v }]

/-- One write through a pointer; a refusal leaves memory as it is. -/
def narrow (cell : Nat) (write : Profile → Option Profile) (memory : Memory) : Bool × Memory :=
  match memory[cell]?.bind write with
  | none => (false, memory)
  | some p => (true, memory.set cell p)

/-- The writes in order, up to the first refusal. -/
def narrowAll (cell : Nat) : List (Profile → Option Profile) → Memory → Bool × Memory
  | [], memory => (true, memory)
  | write :: rest, memory =>
    match narrow cell write memory with
    | (true, memory) => narrowAll cell rest memory
    | refused => refused

/-- The approved runtime, the profile and its object that a request selects. -/
def select (encoding : Encoding) (a : Authority) (r : Request) (b : Session.RawBinding)
    (memory : Memory) : Option (ApprovedRuntime × Resolved × Profile) :=
  match a.config.runtimes.find? fun v => sameBinding encoding v.binding b with
  | none => none
  | some approved =>
    let name := if r.profile = "" then a.config.defaultProfile else r.profile
    match a.profiles.lookup name with
    | none => none
    | some entry =>
      if approved.profiles.contains name then
        memory[entry.profile]?.map fun p => (approved, entry, p)
      else none

/-- When a grant expires: after the duration, or at an earlier deadline. -/
def expiry (c : Config) (caller : Caller) (r : Request) (now : Time) : Option Time :=
  let duration := if r.duration = 0 then c.defaultDuration else r.duration
  if duration ≤ 0 || c.maximumDuration < duration then none
  else
    let expires := now + duration
    let expires :=
      if caller.deadline ≠ 0 && caller.deadline < expires then caller.deadline else expires
    if now < expires then some expires else none

/-- The write that restricts the clone to a requested architecture. -/
def restrict (r : Request) (p : Profile) : Option Profile :=
  (narrowArchitectures p.architectures r.architecture).map fun v => { p with architectures := v }

/-- `evaluate` once a runtime and a profile object are selected: the object is cloned
behind the others, the clone is narrowed, and the grant carries the clone. -/
def issue (a : Authority) (c : Caller) (r : Request) (s : Session) (id : ID) (now : Time)
    (approved : ApprovedRuntime) (entry : Resolved) (p : Profile) (memory : Memory) :
    Except Error Grant × Memory :=
  match narrowAll memory.length (narrowings r) (memory ++ [p]) with
  | (false, written) => (.error errDenied, written)
  | (true, written) =>
    if (r.network ≠ "" && r.network ≠ p.network.profile) ||
        !subset r.capabilities approved.capabilities then (.error errDenied, written)
    else match narrow memory.length (restrict r) written with
      | (false, written) => (.error errDenied, written)
      | (true, written) =>
        match expiry a.config c r now, written[memory.length]? with
        | some expires, some effective => (.ok
            { id, mode := "local", issuer := "thinkpixelar/local"
              policyDigest := a.revision, reason := "LOCAL_POLICY_ADMITTED"
              tenantID := c.tenantID, principalDigest := c.principalDigest
              sessionID := s.id, sessionVersion := s.stateVersion
              generation := r.generation, requestDigest := r.requestDigest
              runtime := s.binding.raw, profile := effective
              profileDigest := entry.digest
              implementationDigest := entry.implementationDigest
              implementation := entry.implementation, capabilities := r.capabilities
              issuedAt := now, expiresAt := expires }, written)
        | _, _ => (.error errDenied, written)

/-- `evaluate`: a grant or `ErrDenied`, and memory with the clone. -/
def evaluate (encoding : Encoding) (a : Authority) (c : Caller) (r : Request)
    (s : Option Presented) (id : ID) (now : Time) (memory : Memory) :
    Except Error Grant × Memory :=
  match s with
  | none => (.error errDenied, memory)
  | some s =>
    if !admissible c r s then (.error errDenied, memory)
    else match select encoding a r s.session.binding.raw memory with
      | none => (.error errDenied, memory)
      | some (approved, entry, p) => issue a c r s.session id now approved entry p memory

end ThinkPixelAR.LocalAuthority
