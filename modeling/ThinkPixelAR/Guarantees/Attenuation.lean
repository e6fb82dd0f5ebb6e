import ThinkPixelAR.Adapters.LocalAuthority

/-!
Attenuation by the local authority. A grant carries a profile that is at most the
registered one in every quantity and set; the registered one fits the ceilings of the
configuration; the Session's binding is that of exactly one approved runtime.

Three checks at three times carry this: `New` compares the enabled profiles with the
ceilings, an evaluation selects one of them, and the writes to the clone only narrow it.
The policy itself is never written: an evaluation adds a clone to memory and writes there.
-/
namespace ThinkPixelAR.Guarantees

open Authority LocalAuthority

variable {p : Profile} {memory after more : Memory} {c : Config} {registry : Registry}
  {policy : List (String × Resolved) × Memory} {encoding : Encoding} {a : Authority}
  {approved : ApprovedRuntime} {r : Request}

/-! ### Narrower profiles -/

/-- A request and a limit at most those of another pair. -/
def AtMost (v base : RuntimeProfile.RequestLimit) : Prop :=
  v.request ≤ base.request ∧ v.limit ≤ base.limit

/-- A profile that asks for no more than `base` and is `base` in everything else. -/
structure Narrower (p base : Profile) : Prop where
  cpu : AtMost p.resources.cpu base.resources.cpu
  memory : AtMost p.resources.memory base.resources.memory
  ephemeralStorage : AtMost p.resources.ephemeralStorage base.resources.ephemeralStorage
  workspaceBytes : p.workspaceBytes ≤ base.workspaceBytes
  maxProcesses : p.maxProcesses ≤ base.maxProcesses
  architectures : ∀ a ∈ p.architectures, a ∈ base.architectures
  others : p = { base with
    resources := { base.resources with
      cpu := p.resources.cpu, memory := p.resources.memory
      ephemeralStorage := p.resources.ephemeralStorage }
    workspaceBytes := p.workspaceBytes, maxProcesses := p.maxProcesses
    architectures := p.architectures }

/-- Requests are at most limits. -/
def Bounded (p : Profile) : Prop :=
  ∀ r ∈ [p.resources.cpu, p.resources.memory, p.resources.ephemeralStorage], r.request ≤ r.limit

theorem AtMost.refl (v : RuntimeProfile.RequestLimit) : AtMost v v := ⟨Int.le_refl _, Int.le_refl _⟩

theorem AtMost.trans {u v w : RuntimeProfile.RequestLimit} (first : AtMost u v)
    (second : AtMost v w) : AtMost u w :=
  ⟨Int.le_trans first.1 second.1, Int.le_trans first.2 second.2⟩

theorem Narrower.refl (p : Profile) : Narrower p p where
  cpu := .refl _
  memory := .refl _
  ephemeralStorage := .refl _
  workspaceBytes := Int.le_refl _
  maxProcesses := Int.le_refl _
  architectures := fun _ member => member
  others := rfl

theorem Narrower.trans {q base : Profile} (first : Narrower p q) (second : Narrower q base) :
    Narrower p base where
  cpu := first.cpu.trans second.cpu
  memory := first.memory.trans second.memory
  ephemeralStorage := first.ephemeralStorage.trans second.ephemeralStorage
  workspaceBytes := Int.le_trans first.workspaceBytes second.workspaceBytes
  maxProcesses := Int.le_trans first.maxProcesses second.maxProcesses
  architectures := fun a member => second.architectures a (first.architectures a member)
  others := by
    have same := first.others
    rw [second.others] at same
    exact same

/-- The constraints of the registry include the bounds of the three resources. -/
theorem bounded_of_validateConstraints (valid : p.validateConstraints = .ok ()) : Bounded p := by
  intro r member
  obtain ⟨none_above, valid⟩ := unless_ok.mp valid
  simp only [List.any_eq_true, not_exists, not_and, decide_eq_true_eq] at none_above
  exact Int.not_lt.mp (none_above r member)

/-! ### Writes to the clone -/

theorem narrowLimit_some {base v : RuntimeProfile.RequestLimit}
    {requested : Option RuntimeProfile.RequestLimit}
    (narrowed : narrowLimit base requested = some v) :
    AtMost v base ∧ (base.request ≤ base.limit → v.request ≤ v.limit) := by
  cases requested with
  | none =>
    obtain rfl : base = v := Option.some.inj narrowed
    exact ⟨.refl _, id⟩
  | some asked =>
    simp only [narrowLimit, Bool.or_eq_true, decide_eq_true_eq] at narrowed
    split at narrowed
    · cases narrowed
    · obtain rfl : asked = v := Option.some.inj narrowed
      exact ⟨⟨by omega, by omega⟩, fun _ => by omega⟩

theorem narrowValue_some {base v : Int} {requested : Option Int}
    (narrowed : narrowValue base requested = some v) : v ≤ base := by
  cases requested with
  | none => exact Int.le_of_eq (Option.some.inj narrowed).symm
  | some asked =>
    simp only [narrowValue, Bool.or_eq_true, decide_eq_true_eq] at narrowed
    split at narrowed
    · cases narrowed
    · obtain rfl : asked = v := Option.some.inj narrowed
      omega

theorem narrowArchitectures_some {base v : List String} {requested : String}
    (narrowed : narrowArchitectures base requested = some v) : ∀ a ∈ v, a ∈ base := by
  simp only [narrowArchitectures, List.contains_eq_mem, decide_eq_true_eq] at narrowed
  split at narrowed
  · obtain rfl : base = v := Option.some.inj narrowed
    exact fun _ member => member
  · split at narrowed
    · obtain rfl : [requested] = v := Option.some.inj narrowed
      simpa
    · cases narrowed

/-- A write that only narrows, and keeps requests at most limits. -/
def Narrows (write : Profile → Option Profile) : Prop :=
  ∀ p q, write p = some q → Narrower q p ∧ (Bounded p → Bounded q)

theorem narrows_narrowings (r : Request) : ∀ write ∈ narrowings r, Narrows write := by
  simp only [narrowings, List.forall_mem_cons, List.not_mem_nil, false_implies, implies_true,
    and_true]
  refine ⟨?cpu, ?memory, ?ephemeral, ?workspace, ?processes⟩
  case cpu | memory | ephemeral =>
    intro p q written
    obtain ⟨v, narrowed, rfl⟩ := Option.map_eq_some_iff.mp written
    obtain ⟨atMost, ordered⟩ := narrowLimit_some narrowed
    constructor
    · constructor <;> first | exact atMost | exact .refl _ | exact Int.le_refl _ | simp
    · simp only [Bounded, List.forall_mem_cons, List.not_mem_nil, false_implies, implies_true,
        and_true]
      rintro ⟨cpu, memory, ephemeral⟩
      exact ⟨by first | assumption | exact ordered cpu,
        by first | assumption | exact ordered memory,
        by first | assumption | exact ordered ephemeral⟩
  case workspace | processes =>
    intro p q written
    obtain ⟨v, narrowed, rfl⟩ := Option.map_eq_some_iff.mp written
    refine ⟨?_, id⟩
    constructor <;> first
      | exact narrowValue_some narrowed | exact .refl _ | exact Int.le_refl _ | simp

theorem narrows_restrict (r : Request) : Narrows (restrict r) := by
  intro p q written
  obtain ⟨v, narrowed, rfl⟩ := Option.map_eq_some_iff.mp written
  refine ⟨?_, id⟩
  constructor <;> first
    | exact narrowArchitectures_some narrowed | exact .refl _ | exact Int.le_refl _

/-- One write to the last object of memory leaves the others and narrows it. -/
theorem narrow_last {write : Profile → Option Profile} {kept : Bool} (narrows : Narrows write)
    (written : narrow memory.length write (memory ++ [p]) = (kept, after)) :
    ∃ q, after = memory ++ [q] ∧ Narrower q p ∧ (Bounded p → Bounded q) := by
  simp only [narrow, List.getElem?_concat_length, Option.bind_some] at written
  split at written
  · obtain ⟨-, rfl⟩ := Prod.mk.inj written
    exact ⟨p, rfl, .refl p, id⟩
  · rename_i q accepted
    obtain ⟨-, rfl⟩ := Prod.mk.inj written
    exact ⟨q, by simp, narrows p q accepted⟩

/-- All writes to the clone, up to the first refusal. -/
theorem narrowAll_last {writes : List (Profile → Option Profile)} {kept : Bool}
    (narrows : ∀ write ∈ writes, Narrows write)
    (written : narrowAll memory.length writes (memory ++ [p]) = (kept, after)) :
    ∃ q, after = memory ++ [q] ∧ Narrower q p ∧ (Bounded p → Bounded q) := by
  induction writes generalizing p with
  | nil =>
    obtain ⟨-, rfl⟩ := Prod.mk.inj written
    exact ⟨p, rfl, .refl p, id⟩
  | cons write rest ih =>
    obtain ⟨first, later⟩ := List.forall_mem_cons.mp narrows
    rw [narrowAll] at written
    split at written
    · rename_i between accepted
      obtain ⟨q, rfl, narrower, bounded⟩ := narrow_last first accepted
      obtain ⟨last, rfl, more, still⟩ := ih later written
      exact ⟨last, rfl, more.trans narrower, still ∘ bounded⟩
    · exact narrow_last first written

/-! ### The policy that `New` builds -/

/-- A profile within the global ceilings. -/
structure WithinCeilings (c : Config) (p : Profile) : Prop where
  cpu : p.resources.cpu.limit ≤ c.cpu
  memory : p.resources.memory.limit ≤ c.memory
  ephemeralStorage : p.resources.ephemeralStorage.limit ≤ c.ephemeralStorage
  workspaceBytes : p.workspaceBytes ≤ c.workspaceBytes
  maxProcesses : p.maxProcesses ≤ c.maxProcesses
  architectures : ∀ a ∈ p.architectures, a ∈ c.architectures
  network : p.network.profile ∈ c.networks
  gpu : p.resources.gpuCount = 0 ∧ p.gpuAllowed = false

theorem fits_iff : c.fits p = true ↔ WithinCeilings c p ∧ p.architectures.Nodup := by
  simp only [Config.fits, Bool.and_eq_true, decide_eq_true_eq, subset_iff, List.contains_eq_mem,
    Bool.not_eq_true']
  constructor
  · rintro ⟨⟨⟨⟨⟨⟨⟨⟨cpu, memory⟩, ephemeral⟩, workspace⟩, processes⟩, nodup, architectures⟩,
      network⟩, gpu⟩, refused⟩
    exact ⟨⟨cpu, memory, ephemeral, workspace, processes, architectures, network, gpu, refused⟩,
      nodup⟩
  · rintro ⟨⟨cpu, memory, ephemeral, workspace, processes, architectures, network, gpu, refused⟩,
      nodup⟩
    exact ⟨⟨⟨⟨⟨⟨⟨⟨cpu, memory⟩, ephemeral⟩, workspace⟩, processes⟩, nodup, architectures⟩,
      network⟩, gpu⟩, refused⟩

/-- The policy resolves a name to the registered profile, which is within the ceilings. -/
def Resolves (c : Config) (registry : Registry) (profiles : List (String × Resolved))
    (memory : Memory) : Prop :=
  ∀ name entry, profiles.lookup name = some entry →
    ∃ e, registry.lookup name = some e ∧ memory[entry.profile]? = some e.profile ∧
      WithinCeilings c e.profile

/-- Objects added to memory do not change what the policy resolves to. -/
theorem Resolves.grows {profiles : List (String × Resolved)}
    (resolves : Resolves c registry profiles memory) (grown : memory <+: more) :
    Resolves c registry profiles more := by
  intro name entry found
  obtain ⟨e, registered, stored, within⟩ := resolves name entry found
  obtain ⟨added, rfl⟩ := grown
  have inside : entry.profile < memory.length := (List.getElem?_eq_some_iff.mp stored).1
  exact ⟨e, registered, by rw [List.getElem?_append_left inside, stored], within⟩

variable {next : List (String × Resolved) × Memory}

/-- One round of the loop over the enabled profiles. -/
theorem enable_resolves {name : String} (resolves : Resolves c registry policy.1 policy.2)
    (enabled : enable c registry policy name = .ok next) : Resolves c registry next.1 next.2 := by
  unfold enable at enabled
  split at enabled
  · cases enabled
  · rename_i e registered
    split at enabled
    · cases enabled
    · rename_i accepted
      obtain rfl := Except.ok.inj enabled
      simp only [Bool.or_eq_true, not_or, Bool.not_eq_true', Bool.not_eq_false] at accepted
      intro other entry found
      rw [List.lookup_cons] at found
      split at found
      · rename_i same
        obtain rfl : other = name := by simpa using same
        obtain rfl := Option.some.inj found
        exact ⟨e, registered, by simp, (fits_iff.mp accepted.2).1⟩
      · exact resolves.grows (List.prefix_append _ _) other entry found

/-- The whole loop. -/
theorem enabled_resolves {names : List String} (resolves : Resolves c registry policy.1 policy.2)
    (enabled : names.foldlM (enable c registry) policy = .ok next) :
    Resolves c registry next.1 next.2 := by
  induction names generalizing policy with
  | nil =>
    obtain rfl : policy = next := Except.ok.inj enabled
    exact resolves
  | cons name rest ih =>
    rw [List.foldlM_cons] at enabled
    cases first : enable c registry policy name with
    | error e => rw [first] at enabled; cases enabled
    | ok between =>
      rw [first] at enabled
      exact ih (enable_resolves resolves first) enabled

/-- Every approved runtime passed its checks against those before it. -/
theorem approvable_of_approve {previous before after : List ApprovedRuntime} {r : ApprovedRuntime}
    (approved : approve encoding c policy previous (before ++ r :: after) = true) :
    approvable encoding c policy (previous ++ before) r = true := by
  induction before generalizing previous with
  | nil =>
    rw [List.append_nil]
    exact (Bool.and_eq_true_iff.mp approved).1
  | cons first rest ih =>
    have later := ih (Bool.and_eq_true_iff.mp approved).2
    rwa [List.append_assoc, List.singleton_append] at later

/-- The facts about an approved runtime that evaluations rely on. -/
structure Approved (encoding : Encoding) (c : Config) (previous : List ApprovedRuntime)
    (r : ApprovedRuntime) : Prop where
  profiles : ∀ name ∈ r.profiles, name ∈ c.profiles
  capabilities : ∀ v ∈ r.capabilities, v ∈ ["shell", "process", "fork"]
  fresh : ∀ earlier ∈ previous, identity earlier.binding ≠ identity r.binding

theorem approved_of_approvable {previous : List ApprovedRuntime} {r : ApprovedRuntime}
    (checked : approvable encoding c policy previous r = true) :
    Approved encoding c previous r := by
  simp only [approvable, Bool.and_eq_true, subset_iff, Bool.not_eq_true'] at checked
  obtain ⟨⟨⟨⟨⟨⟨⟨-, spec⟩, snapshot⟩, -⟩, -, profiles⟩, -, capabilities⟩, unmatched⟩, -⟩ := checked
  refine ⟨profiles, capabilities, fun earlier member same => ?_⟩
  have matched : sameBinding encoding earlier.binding r.binding = true := by
    simp [sameBinding, spec, snapshot, same]
  exact Bool.false_ne_true (unmatched.symm.trans
    (List.any_eq_true.mpr ⟨earlier, member, matched⟩))

/-- What `New` guarantees about the policy it returns. -/
structure Policy (encoding : Encoding) (c : Config) (registry : Registry) (a : Authority)
    (memory : Memory) : Prop where
  config : a.config = c
  resolves : Resolves c registry a.profiles memory
  approved : ∀ before r after, c.runtimes = before ++ r :: after → Approved encoding c before r

theorem policy_of_newAuthority {evidence : Config → List (String × Resolved) × Memory → Digest}
    (created : newAuthority encoding evidence c (some registry) = .ok (a, memory)) :
    Policy encoding c registry a memory := by
  simp only [newAuthority] at created
  obtain ⟨-, created⟩ := unless_ok.mp created
  split at created
  · cases created
  · rename_i policy enabled
    split at created
    · rename_i approved
      obtain ⟨rfl, rfl⟩ := Prod.mk.inj (Except.ok.inj created)
      refine ⟨rfl, enabled_resolves (by simp [Resolves]) enabled, fun before r after split => ?_⟩
      rw [split] at approved
      exact approved_of_approvable (approvable_of_approve approved)
    · cases created

theorem Policy.grows (policy : Policy encoding c registry a memory) (grown : memory <+: more) :
    Policy encoding c registry a more :=
  ⟨policy.config, policy.resolves.grows grown, policy.approved⟩

/-- The runtime that an evaluation finds is the only one with the Session's binding. -/
theorem Policy.only_approved {b : Session.RawBinding} (policy : Policy encoding c registry a memory)
    (found : c.runtimes.find? (fun v => sameBinding encoding v.binding b) = some approved) :
    c.runtimes.filter (fun v => sameBinding encoding v.binding b) = [approved] := by
  obtain ⟨matched, before, after, split, unmatched⟩ := List.find?_eq_some_iff_append.mp found
  have same : identity approved.binding = identity b := by
    simpa using (Bool.and_eq_true_iff.mp matched).2
  have later : ∀ v ∈ after, sameBinding encoding v.binding b = false := by
    intro v member
    obtain ⟨between, beyond, rfl⟩ := List.append_of_mem member
    have fresh := (policy.approved (before ++ approved :: between) v beyond (by simp [split])).fresh
      approved (by simp)
    rw [same] at fresh
    simp [sameBinding, Ne.symm fresh]
  have none_before : before.filter (fun v => sameBinding encoding v.binding b) = [] :=
    List.filter_eq_nil_iff.mpr fun v member => by simpa using unmatched v member
  have none_after : after.filter (fun v => sameBinding encoding v.binding b) = [] :=
    List.filter_eq_nil_iff.mpr fun v member => by simp [later v member]
  rw [split, List.filter_append, List.filter_cons, if_pos matched, none_before, none_after,
    List.nil_append]

/-! ### Evaluations -/

/-- The arguments of one evaluation. -/
structure Evaluation where
  caller : Caller
  request : Request
  session : Option Presented
  id : ID
  now : Time

/-- Evaluations one after another, with what each returned. -/
def evaluations (encoding : Encoding) (a : Authority) :
    List Evaluation → Memory → List (Except Error Grant) × Memory
  | [], memory => ([], memory)
  | call :: rest, memory =>
    let (result, memory) :=
      evaluate encoding a call.caller call.request call.session call.id call.now memory
    let (results, memory) := evaluations encoding a rest memory
    (result :: results, memory)

/-- The policy as it stands in memory: the configuration, and every profile by name. -/
def storedPolicy (a : Authority) (memory : Memory) :
    Config × (String → Option (Resolved × Option Profile)) :=
  (a.config, fun name => (a.profiles.lookup name).map fun entry => (entry, memory[entry.profile]?))

/-- A grant issued from a registered profile `e` under an approved runtime. -/
structure IssuedFrom (encoding : Encoding) (c : Config) (registry : Registry) (call : Evaluation)
    (approved : ApprovedRuntime) (name : String) (e : Entry) (g : Grant) : Prop where
  binding : c.runtimes.filter (fun v => sameBinding encoding v.binding g.runtime) = [approved]
  selected : name ∈ approved.profiles
  registered : registry.lookup name = some e
  bounded : Bounded g.profile
  narrower : Narrower g.profile e.profile
  capabilities : ∀ v ∈ g.capabilities, v ∈ approved.capabilities
  profileCeilings : WithinCeilings c e.profile
  runtimeProfiles : ∀ name ∈ approved.profiles, name ∈ c.profiles
  runtimeCapabilities : ∀ v ∈ approved.capabilities, v ∈ ["shell", "process", "fork"]
  issued : g.issuedAt = call.now
  lasts : g.issuedAt < g.expiresAt
  maximum : (g.expiresAt : Int) ≤ g.issuedAt + c.maximumDuration
  deadline : call.caller.deadline ≠ 0 → g.expiresAt ≤ call.caller.deadline

/-- The end of a duration, cut short by a deadline. -/
theorem cut_short {now deadline duration maximum : Int} (allowed : duration ≤ maximum) :
    let expires := if deadline ≠ 0 ∧ deadline < now + duration then deadline else now + duration
    expires ≤ now + maximum ∧ (deadline ≠ 0 → expires ≤ deadline) := by
  intro expires
  by_cases sooner : deadline ≠ 0 ∧ deadline < now + duration
  · rw [show expires = deadline from if_pos sooner]
    omega
  · rw [show expires = now + duration from if_neg sooner]
    omega

theorem expiry_some {caller : Caller} {now expires : Time}
    (granted : expiry c caller r now = some expires) :
    now < expires ∧ (expires : Int) ≤ now + c.maximumDuration ∧
      (caller.deadline ≠ 0 → expires ≤ caller.deadline) := by
  unfold expiry at granted
  generalize (if r.duration = 0 then c.defaultDuration else r.duration) = duration at granted
  simp only [Bool.or_eq_true, decide_eq_true_eq, Bool.and_eq_true] at granted
  split at granted
  · cases granted
  · rename_i allowed
    rw [not_or, Int.not_le, Int.not_lt] at allowed
    have within := @cut_short now caller.deadline duration c.maximumDuration allowed.2
    rw [Option.ite_none_right_eq_some] at granted
    obtain ⟨after, same⟩ := granted
    obtain rfl := Option.some.inj same
    exact ⟨after, within⟩

/-- A refusal is no grant. -/
theorem not_granted {e : Error} {P : Grant → Prop} (g : Grant)
    (granted : (Except.error e : Except Error Grant) = .ok g) : P g := by
  cases granted

theorem select_some {b : Session.RawBinding} {entry : Resolved}
    (selected : select encoding a r b memory = some (approved, entry, p)) :
    a.config.runtimes.find? (fun v => sameBinding encoding v.binding b) = some approved ∧
      ∃ name ∈ approved.profiles, a.profiles.lookup name = some entry ∧
        memory[entry.profile]? = some p := by
  simp only [select] at selected
  generalize (if r.profile = "" then a.config.defaultProfile else r.profile) = name at selected
  split at selected
  · cases selected
  · rename_i runtime found
    split at selected
    · cases selected
    · rename_i resolved listed
      split at selected
      · rename_i contained
        obtain ⟨object, held, same⟩ := Option.map_eq_some_iff.mp selected
        obtain ⟨rfl, rest⟩ := Prod.mk.inj same
        obtain ⟨rfl, rfl⟩ := Prod.mk.inj rest
        exact ⟨found, _, by simpa using contained, listed, held⟩
      · cases selected

/-- The clone of a selected profile: memory keeps its objects, and a grant carries a
narrower profile, the capabilities of the request and an instant within its bounds. -/
theorem issue_narrows {caller : Caller} {s : Session} {id : ID} {now : Time} {entry : Resolved}
    {result : Except Error Grant}
    (issued : issue a caller r s id now approved entry p memory = (result, after)) :
    memory <+: after ∧ ∀ g, result = .ok g →
      g.runtime = s.binding.raw ∧ g.issuedAt = now ∧
      Narrower g.profile p ∧ (Bounded p → Bounded g.profile) ∧
      (∀ v ∈ g.capabilities, v ∈ approved.capabilities) ∧
      expiry a.config caller r now = some g.expiresAt := by
  unfold issue at issued
  -- In every branch memory is the old one with the clone behind it.
  split at issued
  · rename_i written
    obtain ⟨q, rfl, -⟩ := narrowAll_last (narrows_narrowings r) written
    obtain ⟨rfl, rfl⟩ := Prod.mk.inj issued
    exact ⟨List.prefix_append _ _, not_granted⟩
  · rename_i written
    obtain ⟨q, rfl, narrower, bounded⟩ := narrowAll_last (narrows_narrowings r) written
    split at issued
    · obtain ⟨rfl, rfl⟩ := Prod.mk.inj issued
      exact ⟨List.prefix_append _ _, not_granted⟩
    · rename_i allowed
      simp only [Bool.or_eq_true, not_or, Bool.not_eq_true', Bool.not_eq_false, subset_iff]
        at allowed
      split at issued
      · rename_i restricted
        obtain ⟨last, rfl, -⟩ := narrow_last (narrows_restrict r) restricted
        obtain ⟨rfl, rfl⟩ := Prod.mk.inj issued
        exact ⟨List.prefix_append _ _, not_granted⟩
      · rename_i restricted
        obtain ⟨last, rfl, narrowest, still⟩ := narrow_last (narrows_restrict r) restricted
        split at issued
        · rename_i expires effective granted held
          obtain ⟨rfl, rfl⟩ := Prod.mk.inj issued
          refine ⟨List.prefix_append _ _, fun g same => ?_⟩
          obtain rfl := Except.ok.inj same
          rw [List.getElem?_concat_length] at held
          obtain rfl := Option.some.inj held
          exact ⟨rfl, rfl, narrowest.trans narrower, still ∘ bounded, allowed.2.2, granted⟩
        · obtain ⟨rfl, rfl⟩ := Prod.mk.inj issued
          exact ⟨List.prefix_append _ _, not_granted⟩

/-- One evaluation: memory keeps its objects, and a grant is issued from the policy. -/
theorem evaluate_issues {result : Except Error Grant} (call : Evaluation)
    (policy : Policy encoding c registry a memory)
    (evaluated : evaluate encoding a call.caller call.request call.session call.id call.now memory =
      (result, after)) :
    memory <+: after ∧ ∀ g, result = .ok g →
      ∃ approved name e, IssuedFrom encoding c registry call approved name e g := by
  unfold evaluate at evaluated
  split at evaluated
  · obtain ⟨rfl, rfl⟩ := Prod.mk.inj evaluated
    exact ⟨List.prefix_rfl, not_granted⟩
  · split at evaluated
    · obtain ⟨rfl, rfl⟩ := Prod.mk.inj evaluated
      exact ⟨List.prefix_rfl, not_granted⟩
    · split at evaluated
      · obtain ⟨rfl, rfl⟩ := Prod.mk.inj evaluated
        exact ⟨List.prefix_rfl, not_granted⟩
      · rename_i approved entry p selected
        obtain ⟨grown, carried⟩ := issue_narrows evaluated
        refine ⟨grown, fun g granted => ?_⟩
        obtain ⟨runtime, now, narrower, bounded, capabilities, expires⟩ := carried g granted
        obtain ⟨found, name, listed, resolved, stored⟩ := select_some selected
        obtain ⟨e, registered, atCell, within⟩ := policy.resolves name entry resolved
        obtain rfl : p = e.profile := Option.some.inj (stored.symm.trans atCell)
        rw [policy.config] at found expires
        obtain ⟨before, later, split, -⟩ := (List.find?_eq_some_iff_append.mp found).2
        have checked := policy.approved before approved later split
        obtain ⟨lasts, maximum, deadline⟩ := expiry_some expires
        exact ⟨approved, name, e,
          { binding := runtime ▸ policy.only_approved found
            selected := listed
            registered := registered
            bounded := bounded (bounded_of_validateConstraints
              (Registry.lookup_constrained registered))
            narrower := narrower
            capabilities := capabilities
            profileCeilings := within
            runtimeProfiles := checked.profiles
            runtimeCapabilities := checked.capabilities
            issued := now
            lasts := now ▸ lasts
            maximum := now ▸ maximum
            deadline := deadline }⟩

/-- Any number of evaluations. -/
theorem evaluations_issue (calls : List Evaluation) (policy : Policy encoding c registry a memory) :
    memory <+: (evaluations encoding a calls memory).2 ∧
      List.Forall₂ (fun call result => ∀ g, result = .ok g →
        ∃ approved name e, IssuedFrom encoding c registry call approved name e g)
        calls (evaluations encoding a calls memory).1 := by
  induction calls generalizing memory with
  | nil => exact ⟨List.prefix_rfl, .nil⟩
  | cons call rest ih =>
    obtain ⟨grown, issued⟩ := evaluate_issues call policy rfl
    obtain ⟨further, others⟩ := ih (policy.grows grown)
    exact ⟨grown.trans further, .cons issued others⟩

/-- Objects added to memory leave the stored policy as it is. -/
theorem Policy.stored_grows (policy : Policy encoding c registry a memory) (grown : memory <+: more)
    : storedPolicy a more = storedPolicy a memory := by
  refine Prod.ext rfl (funext fun name => Option.map_congr fun entry found => ?_)
  obtain ⟨e, registered, stored, -⟩ := policy.resolves name entry found
  obtain ⟨same, registeredToo, storedToo, -⟩ := (policy.grows grown).resolves name entry found
  obtain rfl : e = same := Option.some.inj (registered.symm.trans registeredToo)
  rw [stored, storedToo]

/-- Grants attenuate. Under a configuration that `New` accepts, every grant of any
sequence of evaluations is issued from a registered profile and the one approved runtime
of the Session's binding, asks for no more than they allow, and lives no longer than the
configuration and the caller allow; the stored policy is never changed. -/
theorem evaluations_attenuate (encoding : Encoding)
    (evidence : Config → List (String × Resolved) × Memory → Digest) (c : Config)
    (registry : Registry) (a : Authority) (memory : Memory)
    (created : newAuthority encoding evidence c (some registry) = .ok (a, memory))
    (calls : List Evaluation) :
    List.Forall₂ (fun call result => ∀ g, result = .ok g →
        ∃ approved name e, IssuedFrom encoding c registry call approved name e g)
      calls (evaluations encoding a calls memory).1 ∧
    storedPolicy a (evaluations encoding a calls memory).2 = storedPolicy a memory := by
  have policy := policy_of_newAuthority created
  obtain ⟨grown, issued⟩ := evaluations_issue calls policy
  exact ⟨issued, policy.stored_grows grown⟩

/-! A configuration with one profile and one runtime, a request for half of the profile,
and the same request with twice the processes. -/

/-- Every text is canonical, and its digest is its length. -/
def lengthEncoding : Encoding where
  canonical := some
  sha256 := fun text => ⟨BitVec.ofNat 256 text.length⟩
  grantSize := fun _ _ _ => 0

def localBinding : Session.RawBinding where
  authorityMode := some .localAuthority
  authorityNamespace := "thinkpixelar/local"
  agentID := "agent"
  agentVersionID := "v1"
  runtimeSpecSchemaVersion := "1"
  runtimeSpec := "\x7b\x7d"
  runtimeSpecDigest := some ⟨2⟩
  runtimeProfileSchemaVersion := "1"
  runtimeProfileSnapshot := "\x7b\x7d"
  runtimeProfileDigest := some ⟨2⟩

def standardProfile : Profile where
  isolationClass := "container-standard"
  resources :=
    { cpu := ⟨500, 1000⟩, memory := ⟨1024, 2048⟩, ephemeralStorage := ⟨1024, 4096⟩
      gpuCount := 0, gpuClasses := [] }
  network := ⟨"none", true, true, true, true⟩
  gpuAllowed := false
  security := ⟨false, true, true, false, false, false, false, false, false, false, []⟩
  providerKind := "agent-sandbox"
  terminationGraceSeconds := 30
  document := ""
  name := "standard"
  maxProcesses := 64
  workspaceBytes := 8192
  architectures := ["amd64", "arm64"]

def standardRegistry : Registry :=
  Registry.empty.insert
    { profile := standardProfile, digest := ⟨1⟩, implementation := "\x7b\x7d"
      implementationDigest := ⟨2⟩ } (by decide)

def standardConfig : Config where
  mode := "local"
  revision := some ⟨1⟩
  defaultProfile := "standard"
  profiles := ["standard"]
  defaultDuration := 60000000000
  maximumDuration := 3600000000000
  cpu := 1000
  memory := 2048
  ephemeralStorage := 4096
  workspaceBytes := 8192
  maxProcesses := 64
  architectures := ["amd64", "arm64"]
  networks := ["none"]
  runtimes := [{ binding := localBinding, profiles := ["standard"], capabilities := ["shell"] }]
  tenants := []
  principals := []

def standardAuthority : Authority where
  config := standardConfig
  profiles := [("standard", ⟨0, ⟨1⟩, ⟨2⟩, "\x7b\x7d"⟩)]
  revision := ⟨0⟩

def readySession : Session where
  id := ID.v7 1
  state := .ready
  stateVersion := 1
  executionGeneration := 0
  binding := ⟨localBinding, by decide +kernel⟩
  recoveryState := none
  createdAt := 1
  updatedAt := 1
  closedAt := none

def askFor (processes : Int) : Evaluation where
  caller := ⟨ID.v7 9, some ⟨7⟩, 0⟩
  request :=
    { sessionID := ID.v7 1, sessionVersion := 1, generation := 1, keyDigest := some ⟨3⟩
      requestDigest := some ⟨4⟩, profile := "", network := "", architecture := "arm64"
      duration := 0, cpu := some ⟨250, 500⟩, memory := none, ephemeralStorage := none
      workspaceBytes := none, maxProcesses := some processes, capabilities := ["shell"] }
  session := some ⟨ID.v7 9, readySession⟩
  id := ID.v7 2
  now := 1000

/-- The first request is granted with half of the processes and one architecture, the
second is denied, and a third finds the policy as it was. -/
theorem evaluations_attenuate_standard :
    newAuthority lengthEncoding (fun _ _ => ⟨0⟩) standardConfig (some standardRegistry) =
        .ok (standardAuthority, [standardProfile]) ∧
      (evaluations lengthEncoding standardAuthority [askFor 32, askFor 128, askFor 64]
          [standardProfile]).1.map (fun result => result.toOption.map fun g =>
            (g.profile.maxProcesses, g.profile.architectures)) =
        [some (32, ["arm64"]), none, some (64, ["arm64"])] ∧
      storedPolicy standardAuthority (evaluations lengthEncoding standardAuthority
          [askFor 32, askFor 128, askFor 64] [standardProfile]).2 =
        storedPolicy standardAuthority [standardProfile] := by
  have created : newAuthority lengthEncoding (fun _ _ => ⟨0⟩) standardConfig
      (some standardRegistry) = .ok (standardAuthority, [standardProfile]) := by
    decide +kernel
  exact ⟨created, by decide +kernel,
    (evaluations_attenuate lengthEncoding _ standardConfig standardRegistry standardAuthority
      [standardProfile] created [askFor 32, askFor 128, askFor 64]).2⟩

end ThinkPixelAR.Guarantees
