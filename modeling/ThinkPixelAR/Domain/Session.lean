import ThinkPixelAR.Relational.Methods
import ThinkPixelAR.Domain.Json

/-!
The Session aggregate (`internal/domain/session/session.go`): creation, restoring
from storage and the versioned lifecycle transitions. Fields are private in Go,
so a Session always carries a validated runtime binding.
-/
namespace ThinkPixelAR.Session

inductive State where
  | provisioning
  | ready
  | active
  | idle
  | suspended
  | degraded
  | closing
  | closed
deriving DecidableEq

def errInvalidSession : Error := .new "invalid session"
def errIllegalTransition : Error := .new "illegal session transition"
def errVersionConflict : Error := .new "session state version conflict"
def errGenerationExhausted : Error := .new "session execution generation exhausted"

/-- Fields of the runtime binding before `validateBinding`; `none` is a digest
text outside the pattern or an authority mode outside the two known ones. -/
structure RawBinding where
  authorityMode : Option AuthorityMode
  authorityNamespace : String
  agentID : String
  agentVersionID : String
  runtimeSpecSchemaVersion : String
  runtimeSpec : String
  runtimeSpecDigest : Option Digest
  runtimeProfileSchemaVersion : String
  runtimeProfileSnapshot : String
  runtimeProfileDigest : Option Digest
deriving DecidableEq

def authorityModeText : Option AuthorityMode → String
  | some .localAuthority => "LOCAL"
  | some .thinkpixelAG => "THINKPIXEL_AG"
  | none => ""

/-- `json.Marshal` of a binding; field names are the Go names. -/
def RawBinding.json (b : RawBinding) : Json :=
  .object [("AuthorityMode", .string (authorityModeText b.authorityMode)),
    ("AuthorityNamespace", .string b.authorityNamespace), ("AgentID", .string b.agentID),
    ("AgentVersionID", .string b.agentVersionID),
    ("RuntimeSpecSchemaVersion", .string b.runtimeSpecSchemaVersion),
    ("RuntimeSpec", .bytes b.runtimeSpec),
    ("RuntimeSpecDigest", .string (digestText b.runtimeSpecDigest)),
    ("RuntimeProfileSchemaVersion", .string b.runtimeProfileSchemaVersion),
    ("RuntimeProfileSnapshot", .bytes b.runtimeProfileSnapshot),
    ("RuntimeProfileDigest", .string (digestText b.runtimeProfileDigest))]

/-- `validateBinding`. The text of the authority mode is within bounds for both
known modes, so the bounds check of the mode is part of the mode check. -/
def validateBinding (b : RawBinding) : Except Error Unit := do
  let values := [b.authorityNamespace, b.agentID, b.agentVersionID,
    b.runtimeSpecSchemaVersion, b.runtimeProfileSchemaVersion]
  if !values.all (boundedString 255) then
    .error (.wrap "invalid session" (.new "runtime binding"))
  if b.authorityMode.isNone then
    .error (.wrap "invalid session" (.new "authority mode"))
  if b.runtimeSpecDigest.isNone || b.runtimeProfileDigest.isNone then
    .error (.wrap "invalid session" (.new "binding digest"))
  if !validJSONObject b.runtimeSpec || !validJSONObject b.runtimeProfileSnapshot then
    .error (.wrap "invalid session" (.new "binding snapshot"))

/-- The immutable runtime identity captured at Session creation. -/
structure RuntimeBinding where
  raw : RawBinding
  valid : validateBinding raw = .ok ()

instance : DecidableEq RuntimeBinding := fun a b =>
  decidable_of_iff (a.raw = b.raw) ⟨fun h => by cases a; cases b; cases h; rfl, fun h => h ▸ rfl⟩

end ThinkPixelAR.Session

namespace ThinkPixelAR

/-- The authoritative lifecycle aggregate. `recoveryState` is the empty state of
the source when `none`. -/
structure Session where
  id : ID
  state : Session.State
  stateVersion : Nat
  executionGeneration : Nat
  binding : Session.RuntimeBinding
  recoveryState : Option Session.State
  createdAt : Time
  updatedAt : Time
  closedAt : Option Time
deriving DecidableEq

namespace Session

/-- `New`: PROVISIONING with version and generation zero. -/
def create (sessionID : ID) (binding : RawBinding) (now : Time) : Except Error Session :=
  if !validID sessionID then .error (.wrap "invalid session" (.new "session ID"))
  else match h : validateBinding binding with
    | .error e => .error e
    | .ok () =>
      if now = 0 then .error (.wrap "invalid session" (.new "creation time"))
      else .ok
        { id := sessionID, state := .provisioning, stateVersion := 0, executionGeneration := 0
          binding := ⟨binding, h⟩, recoveryState := none, createdAt := now, updatedAt := now
          closedAt := none }

/-- `Restore` from authoritative storage. -/
def restore (sessionID : ID) (binding : RuntimeBinding) (state : State)
    (recoveryState : Option State) (stateVersion executionGeneration : Nat)
    (createdAt updatedAt : Time) (closedAt : Option Time) : Except Error Session :=
  if !validID sessionID || createdAt = 0 || updatedAt < createdAt || maxInt64 < stateVersion ||
      maxInt64 < executionGeneration then .error errInvalidSession
  else if recoveryState = some .degraded || recoveryState = some .closed then
    .error errInvalidSession
  else if decide (state = .closed) != closedAt.isSome || closedAt.any (· < createdAt) ||
      decide (state = .degraded) != recoveryState.isSome then .error errInvalidSession
  else .ok { id := sessionID, state, stateVersion, executionGeneration, binding, recoveryState,
             createdAt, updatedAt, closedAt }

/-- The edges of the lifecycle table, without the detour through DEGRADED. -/
def allowed : State → State → Bool
  | .provisioning, .ready => true
  | .provisioning, .degraded => true
  | .ready, .active => true
  | .ready, .suspended => true
  | .ready, .degraded => true
  | .active, .idle => true
  | .active, .degraded => true
  | .idle, .active => true
  | .idle, .suspended => true
  | .idle, .degraded => true
  | .suspended, .ready => true
  | .suspended, .idle => true
  | .suspended, .degraded => true
  | .closing, .closed => true
  | _, _ => false

def canTransition (s : Session) (next : State) : Bool :=
  if s.state ≠ .closed ∧ next = .closing then true
  else if s.state = .degraded then some next = s.recoveryState
  else allowed s.state next

/-- Whether the edge admits an Execution. -/
def admission (previous next : State) : Bool :=
  (previous = .ready || previous = .idle) && next = .active

/-- `Transition`: one lifecycle edge with optimistic versioning. Admission to
ACTIVE also advances the execution generation. -/
def transition (s : Session) (next : State) (expectedVersion : Nat) (now : Time) :
    Except Error Session :=
  if expectedVersion ≠ s.stateVersion then .error errVersionConflict
  else if now = 0 ∨ now < s.updatedAt then .error errInvalidSession
  else if next = s.state then
    if next = .closing ∨ next = .closed then .ok s else .error errIllegalTransition
  else if !s.canTransition next then .error errIllegalTransition
  else if admission s.state next ∧ s.executionGeneration = maxInt64 then
    .error errGenerationExhausted
  else .ok
    { s with
      recoveryState :=
        if next = .degraded then some s.state
        else if s.state = .degraded then none
        else s.recoveryState
      executionGeneration :=
        if admission s.state next then increment s.executionGeneration else s.executionGeneration
      state := next
      stateVersion := increment s.stateVersion
      updatedAt := now
      closedAt := if next = .closed then some now else s.closedAt }

/-! ### The method in place -/

open Relational (Method)

/-- The arguments of one call of `Transition`; `none` is a target text that
`ParseState` refuses. -/
structure Call where
  target : Option State
  expectedVersion : Nat
  now : Time

/-- `Transition` as the source writes it: the checks read the receiver, the
assignments change it one after the other. -/
def Call.method (c : Call) : Method Session Error Unit := do
  let s ← get
  if c.expectedVersion ≠ s.stateVersion then throw errVersionConflict
  match c.target with
  | none => throw errInvalidSession
  | some next =>
    if c.now = 0 ∨ c.now < s.updatedAt then throw errInvalidSession
    if next = s.state then
      if next = .closing ∨ next = .closed then return
      throw errIllegalTransition
    if !s.canTransition next then throw errIllegalTransition
    let previous := s.state
    if admission previous next ∧ s.executionGeneration = maxInt64 then
      throw errGenerationExhausted
    if next = .degraded then modify ({ · with recoveryState := some previous })
    else if previous = .degraded then modify ({ · with recoveryState := none })
    if admission previous next then
      modify fun s => { s with executionGeneration := increment s.executionGeneration }
    modify ({ · with state := next })
    modify fun s => { s with stateVersion := increment s.stateVersion }
    modify ({ · with updatedAt := c.now })
    if next = .closed then modify ({ · with closedAt := some c.now })

def Call.attempt (c : Call) (s : Session) : Except Error Session :=
  match c.target with
  | none => if c.expectedVersion ≠ s.stateVersion then .error errVersionConflict
    else .error errInvalidSession
  | some next => s.transition next c.expectedVersion c.now

/-- Every check precedes every assignment. -/
theorem Call.method_call (c : Call) (s : Session) :
    c.method.call s = Method.atomically (c.attempt s) s := by
  obtain ⟨target, expectedVersion, now⟩ := c
  unfold method attempt
  by_cases conflict : expectedVersion ≠ s.stateVersion
  · cases target <;> simp [conflict, transition, Method.atomically]
  cases target with
  | none => simp [not_ne_iff.mp conflict, Method.atomically]
  | some next =>
    unfold transition
    simp only [Method.call_get_bind, Method.call_ite, Method.call_throw_bind,
      Method.call_modify_bind, Method.call_modify, Method.call_pure, if_neg conflict]
    by_cases stale : now = 0 ∨ now < s.updatedAt
    · simp only [if_pos stale, Method.atomically]
    simp only [if_neg stale]
    by_cases same : next = s.state
    · simp only [if_pos same]
      split <;> rfl
    simp only [if_neg same]
    by_cases barred : (!s.canTransition next) = true
    · simp only [if_pos barred, Method.atomically]
    simp only [if_neg barred]
    by_cases exhausted : admission s.state next = true ∧ s.executionGeneration = maxInt64
    · simp only [if_pos exhausted, Method.atomically]
    simp only [if_neg exhausted, Method.atomically]
    -- only the assignments are left
    split_ifs <;> rfl

end Session
end ThinkPixelAR
