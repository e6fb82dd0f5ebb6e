import ThinkPixelAR.Adapters.LocalAuthority
import ThinkPixelAR.Postgres.Store

/-!
Issuance and status of local grants (`Admit` of `admission.go`, `Validate` and `Cancel`
of `lifecycle.go`). Each is one transaction of the store. The checks made before the
transaction begins stand in front of its first statement.
-/
namespace ThinkPixelAR.LocalAuthority

open ThinkPixelAR.Authority Relational Postgres

/-! ### Snapshots -/

/-- The fields of a grant that its stored form keeps as one document. -/
structure GrantRest where
  tenantID : ID
  policyDigest : Digest
  profile : Profile
  profileDigest : Digest
  implementationDigest : Digest
  implementation : String
  capabilities : List String

/-- `encoding/json` and SHA-256 for grants. What was encoded is decoded again, so a stored
grant is kept as its snapshot. -/
structure GrantJson where
  text : GrantRest → String
  marshal : App.Grant → Option (List UInt8)
  unmarshal : List UInt8 → Option App.Grant
  digest : App.Grant → Digest
  admissionDigest : Caller → Request → Option Digest
  unmarshal_marshal : ∀ {g bytes}, marshal g = some bytes → unmarshal bytes = some g

/-- The encoding of a grant, of at most 65536 bytes. -/
def GrantJson.payload (json : GrantJson) (g : App.Grant) : Option (List UInt8) :=
  (json.marshal g).filter (·.length ≤ 65536)

/-- A grant as `json.Marshal` sees it. -/
def GrantJson.snapshot (json : GrantJson) (g : Grant) : App.Grant where
  id := g.id
  mode := g.mode
  issuer := g.issuer
  policyDigest := digestText (some g.policyDigest)
  reason := g.reason
  principalDigest := g.principalDigest
  sessionID := g.sessionID
  sessionVersion := g.sessionVersion
  generation := g.generation
  requestDigest := g.requestDigest
  runtime := g.runtime
  document := json.text ⟨g.tenantID, g.policyDigest, g.profile, g.profileDigest,
    g.implementationDigest, g.implementation, g.capabilities⟩
  issuedAt := g.issuedAt
  expiresAt := g.expiresAt

/-! ### Admit -/

def admitAction : String := "authority.local.admit.v1"

/-- The identity under which an admission is replayed. -/
def admissionScope (principal key : Digest) : Idempotency.Scope :=
  { principalDigest := principal, action := admitAction, keyDigest := key }

/-- The arguments of `Admit` and what it takes from its process: the authority with its
memory, the clock, and a fresh identifier unless none can be made. -/
structure AdmitCall where
  encoding : Encoding
  authority : Authority
  memory : Memory
  caller : Caller
  request : Request
  id : Option ID
  now : Time

/-- The checks before anything is read. -/
def AdmitCall.allowed (call : AdmitCall) : Bool :=
  let c := call.caller
  let r := call.request
  let config := call.authority.config
  validID c.tenantID && c.principalDigest.isSome && validID r.sessionID && r.keyDigest.isSome &&
    r.requestDigest.isSome && 0 < r.generation && r.generation ≤ maxInt64 &&
    r.sessionVersion ≤ maxInt64 && subset r.capabilities ["shell", "process", "fork"] &&
    r.profile.utf8ByteSize ≤ 128 && r.network.utf8ByteSize ≤ 128 &&
    r.architecture.utf8ByteSize ≤ 16 &&
    (config.tenants.isEmpty || config.tenants.contains c.tenantID) &&
    (config.principals.isEmpty || config.principals.contains c.principalDigest)

def day : Int := 24 * 3600 * 1000000000

/-- The record that reserves the key, or why there is none. -/
def AdmitCall.candidate (json : GrantJson) (call : AdmitCall) :
    Except Error Idempotency.Record :=
  if !call.allowed then .error errDenied
  else if call.now = 0 then .error errUnavailable
  else match json.admissionDigest call.caller call.request, call.id,
      call.caller.principalDigest, call.request.keyDigest with
    | none, _, _, _ => .error errDenied
    | some _, none, _, _ => .error errUnavailable
    | some digest, some id, some principal, some key =>
      match Idempotency.Record.create id (admissionScope principal key) "local-admission-v1" digest
          id (some call.request.sessionID) id id (call.now + 60000000000)
          (call.now + (call.authority.config.maximumDuration + day)) call.now with
      | .error _ => .error errUnavailable
      | .ok record => .ok record
    -- Not reached: `allowed` requires both digests.
    | some _, some _, _, _ => .error errDenied

/-- The grant that a record of an earlier admission holds. -/
def replayed (json : GrantJson) (record : Idempotency.Record) : Option App.Grant :=
  if record.state = .succeeded then record.response.bind fun v => json.unmarshal v.payload
  else none

/-- The transaction after the key has been reserved. -/
def AdmitCall.issue (json : GrantJson) (call : AdmitCall) (record : Idempotency.Record) :
    Transaction App.Grant := do
  let db ← Tx.get
  let row ← Tx.expect ((db .sessions).find? (·.id = call.request.sessionID)) errDenied
  let session ← Tx.lift (Sessions.restore row)
  let g ← Tx.lift (evaluate call.encoding call.authority call.caller call.request
    (some ⟨call.caller.tenantID, session⟩) record.id call.now call.memory).1
  let payload ← Tx.expect (json.payload (json.snapshot g)) errDenied
  LocalGrants.add g.id g.sessionID (json.snapshot g) (json.digest (json.snapshot g))
  let done ← Tx.lift (record.succeed { httpStatus := 201, payload, reference := g.id.text }
    record.id record.ownerFence call.now)
  IdempotencyRecords.update done done.ownerFence
  return json.snapshot g

/-- The body of `Admit`. -/
def AdmitCall.transaction (json : GrantJson) (call : AdmitCall) : Transaction App.Grant := do
  let candidate ← Tx.lift (call.candidate json)
  let reserved ← IdempotencyRecords.reserve candidate
  Tx.require (reserved.1.requestDigest = candidate.requestDigest) Authority.errConflict
  -- A replay returns the original snapshot even after expiry; it renews nothing.
  if reserved.2 then call.issue json reserved.1
  else Tx.expect (replayed json reserved.1) errUnavailable

def admitError (e : Error) : Error :=
  if e.is errDenied then errDenied
  else if e.is Authority.errConflict || e.is errRequestDigestMismatch ||
      e.is Postgres.errConflict then
    Authority.errConflict
  else errUnavailable

/-- `Admit` with the grant as its snapshot; `clock` is the transaction timestamp of the database. -/
def admitGrant (json : GrantJson) (call : AdmitCall) (clock : Time) (db : Db) :
    Except Error (App.Grant × Db) :=
  (withinTransaction clock (call.transaction json) db).mapError admitError

/-! ### Validate and Cancel -/

structure Status where
  state : GrantState
  observedAt : Time

/-- The body of `status`. -/
def statusTransaction (json : GrantJson) (c : Caller) (g : Grant) (cancel : Bool) (now : Time) :
    Transaction Status := do
  Tx.require (validID c.tenantID = true ∧ c.principalDigest.isSome = true) errDenied
  Tx.require (validID g.id = true ∧ c.tenantID = g.tenantID ∧
    c.principalDigest = g.principalDigest ∧ g.mode = "local" ∧ g.issuer = "thinkpixelar/local")
    errInvalidGrant
  Tx.require ((json.payload (json.snapshot g)).isSome = true) errInvalidGrant
  let db ← Tx.get
  let record ← Tx.expect ((db .localAuthorityGrants).find? (·.id = g.id)) errInvalidGrant
  Tx.require (record.id = g.id ∧ record.sessionID = g.sessionID ∧
    json.digest record.snapshot = record.snapshotDigest ∧ json.snapshot g = record.snapshot)
    errInvalidGrant
  -- The clock is read under the row lock.
  Tx.require (now ≠ 0) errUnavailable
  Tx.require (g.issuedAt ≤ now ∧ g.issuedAt < g.expiresAt) errInvalidGrant
  if record.state = .active then do
    Tx.require (record.stateVersion = 0) errInvalidGrant
    let state := if g.expiresAt ≤ now then GrantState.expired
      else if cancel then GrantState.cancelled else GrantState.active
    Tx.onlyIf (state ≠ .active) (LocalGrants.transition g.id record.stateVersion state now)
    return ⟨state, now⟩
  else do
    Tx.require (record.stateVersion = 1) errInvalidGrant
    return ⟨record.state, now⟩

def statusError (e : Error) : Error :=
  if e.is errDenied then errDenied
  else if e.is errInvalidGrant then errInvalidGrant else errUnavailable

/-- `status`: `Validate` without `cancel`, `Cancel` with it. -/
def status (json : GrantJson) (c : Caller) (g : Grant) (cancel : Bool) (now clock : Time)
    (db : Db) : Except Error (Status × Db) :=
  (withinTransaction clock (statusTransaction json c g cancel now) db).mapError statusError

end ThinkPixelAR.LocalAuthority
