import ThinkPixelAR.Domain.Json
import ThinkPixelAR.Relational.Methods

/-!
The Execution aggregate (`internal/domain/execution/execution.go`): one bounded
authorized operation of a Session generation.
-/
namespace ThinkPixelAR.Execution

inductive State where
  | queued
  | materializing
  | running
  | cancelling
  | timingOut
  | succeeded
  | failed
  | cancelled
  | timedOut
deriving DecidableEq

def State.isTerminal : State → Bool
  | .succeeded | .failed | .cancelled | .timedOut => true
  | _ => false

/-- The states of `executions_one_mutable_per_session_idx`. -/
def State.isMutable : State → Bool
  | .queued | .materializing | .running | .cancelling | .timingOut => true
  | _ => false

/-- The states in which an Attempt of the Execution may be written. -/
def State.isWorking : State → Bool
  | .materializing | .running | .cancelling | .timingOut => true
  | _ => false

def errInvalidExecution : Error := .new "invalid execution"
def errIllegalTransition : Error := .new "illegal execution transition"
def errVersionConflict : Error := .new "execution state version conflict"

/-- The immutable Session, authority and agent evidence before `validBinding`.
`externalRunID` is the empty text of the source when `none`. -/
structure RawBinding where
  sessionID : ID
  sessionGeneration : Nat
  authorityMode : Option AuthorityMode
  authorityNamespace : String
  authorityReference : String
  externalRunID : Option String
  grantDigest : Option Digest
  agentID : String
  agentVersionID : String
  agentEvidence : String
  agentEvidenceDigest : Option Digest
deriving DecidableEq

def validBinding (b : RawBinding) : Bool :=
  [b.authorityNamespace, b.authorityReference, b.agentID, b.agentVersionID].all
      (boundedString 255) &&
    b.externalRunID.all (boundedString 255) && b.authorityMode.isSome &&
    b.grantDigest.isSome && validJSONObject b.agentEvidence && b.agentEvidenceDigest.isSome

/-- A binding that passed the checks of `New` and `Restore`. -/
structure Binding where
  raw : RawBinding
  session : validID raw.sessionID = true
  generation : 0 < raw.sessionGeneration
  valid : validBinding raw = true

instance : DecidableEq Binding := fun a b =>
  decidable_of_iff (a.raw = b.raw) ⟨fun h => by cases a; cases b; cases h; rfl, fun h => h ▸ rfl⟩

/-- A bounded reference to the terminal outcome evidence. -/
structure TerminalResult where
  reference : String
  digest : Digest
deriving DecidableEq

def validResult (result : TerminalResult) : Bool := boundedString 2048 result.reference

end ThinkPixelAR.Execution

namespace ThinkPixelAR

structure Execution where
  id : ID
  binding : Execution.Binding
  deadline : Time
  state : Execution.State
  stateVersion : Nat
  terminalResult : Option Execution.TerminalResult
  createdAt : Time
  updatedAt : Time
  terminalAt : Option Time
deriving DecidableEq

namespace Execution

/-- `New`: QUEUED, bound to a grant that has not expired. -/
def create (executionID : ID) (binding : RawBinding) (deadline now : Time) :
    Except Error Execution :=
  if h : validID binding.sessionID = true ∧ 0 < binding.sessionGeneration ∧
      validBinding binding = true then
    if !validID executionID || now = 0 || deadline = 0 || !(now < deadline) then
      .error errInvalidExecution
    else .ok
      { id := executionID, binding := ⟨binding, h.1, h.2.1, h.2.2⟩, deadline, state := .queued
        stateVersion := 0, terminalResult := none, createdAt := now, updatedAt := now
        terminalAt := none }
  else .error errInvalidExecution

/-- `Restore` from authoritative storage. -/
def restore (executionID : ID) (binding : Binding) (deadline : Time) (state : State)
    (stateVersion : Nat) (result : Option TerminalResult) (createdAt updatedAt : Time)
    (terminalAt : Option Time) : Except Error Execution :=
  if !validID executionID || deadline = 0 || createdAt = 0 || !(createdAt < deadline) ||
      updatedAt < createdAt then .error errInvalidExecution
  else if state.isTerminal != (result.isSome && terminalAt.isSome) ||
      result.any (fun r => !validResult r) then .error errInvalidExecution
  else .ok { id := executionID, binding, deadline, state, stateVersion, terminalResult := result,
             createdAt, updatedAt, terminalAt }

def legal : State → State → Bool
  | .queued, .materializing | .queued, .cancelling | .queued, .timingOut | .queued, .failed => true
  | .materializing, .running | .materializing, .cancelling | .materializing, .timingOut
  | .materializing, .failed => true
  | .running, .materializing | .running, .cancelling | .running, .timingOut
  | .running, .succeeded | .running, .failed => true
  | .cancelling, .cancelled | .cancelling, .failed => true
  | .timingOut, .timedOut | .timingOut, .failed => true
  | _, _ => false

/-! ### The method in place -/

open Relational (Method)

/-- A `TerminalResult` before its digest is checked; `none` is a text that does not match
the pattern. -/
structure RawResult where
  reference : String
  digest : Option Digest

def RawResult.parsed (r : RawResult) : Option TerminalResult := r.digest.map (⟨r.reference, ·⟩)

/-- `validResult` before the digest is checked. -/
def RawResult.valid (r : RawResult) : Bool := boundedString 2048 r.reference && r.digest.isSome

/-- A result that is checked already. -/
def TerminalResult.raw (r : TerminalResult) : RawResult := ⟨r.reference, some r.digest⟩

def sameResult : Option TerminalResult → Option RawResult → Bool
  | some left, some right => right.parsed = some left
  | _, _ => false

/-- The arguments of one call of `Transition`; `none` is a target text that `ParseState`
refuses. -/
structure Call where
  target : Option State
  expectedVersion : Nat
  result : Option RawResult
  now : Time

/-- `Transition` as the source writes it: the checks read the receiver, the assignments
change it one after the other. -/
def Call.method (c : Call) : Method Execution Error Unit := do
  let e ← get
  if c.expectedVersion ≠ e.stateVersion then throw errVersionConflict
  match c.target with
  | none => throw errInvalidExecution
  | some next =>
    if c.now = 0 ∨ c.now < e.updatedAt then throw errInvalidExecution
    if next = e.state then
      if next.isTerminal && sameResult e.terminalResult c.result then return
      throw errIllegalTransition
    if !legal e.state next then throw errIllegalTransition
    if next.isTerminal != c.result.isSome || c.result.any (fun r => !r.valid) then
      throw errInvalidExecution
    modify ({ · with state := next })
    modify fun e => { e with stateVersion := increment e.stateVersion }
    modify ({ · with updatedAt := c.now })
    if c.result.isSome then
      modify ({ · with terminalResult := c.result.bind (·.parsed) })
      modify ({ · with terminalAt := some c.now })

end Execution
end ThinkPixelAR
