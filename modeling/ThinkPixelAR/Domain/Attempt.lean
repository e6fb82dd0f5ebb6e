import ThinkPixelAR.Domain.Execution

/-!
The Attempt aggregate (`internal/domain/attempt/attempt.go`): one physical try of
an Execution. Terminalization removes its current designation.
-/
namespace ThinkPixelAR.Attempt

inductive State where
  | pending
  | acquiring
  | starting
  | running
  | interrupting
  | succeeded
  | failed
  | cancelled
  | timedOut
  | replaced
deriving DecidableEq

def State.isTerminal : State → Bool
  | .succeeded | .failed | .cancelled | .timedOut | .replaced => true
  | _ => false

def errInvalidAttempt : Error := .new "invalid attempt"
def errIllegalTransition : Error := .new "illegal attempt transition"
def errVersionConflict : Error := .new "attempt state version conflict"

/-- The immutable Execution generation and ordinal fence. -/
structure Binding where
  executionID : ID
  executionGeneration : Nat
  number : Nat
deriving DecidableEq

abbrev TerminalResult := Execution.TerminalResult

end ThinkPixelAR.Attempt

namespace ThinkPixelAR

/-- Unset references and heartbeats are `none`; the version is a `uint64`. -/
structure Attempt where
  id : ID
  binding : Attempt.Binding
  state : Attempt.State
  stateVersion : Nat
  current : Bool
  sandboxReference : Option ID
  harnessReference : Option ID
  sandboxHeartbeatAt : Option Time
  harnessHeartbeatAt : Option Time
  terminalResult : Option Attempt.TerminalResult
  createdAt : Time
  updatedAt : Time
  terminalAt : Option Time
deriving DecidableEq

namespace Attempt

/-- `New`: the newly designated current Attempt, PENDING. -/
def create (attemptID : ID) (binding : Binding) (now : Time) : Except Error Attempt :=
  if !validID attemptID || !validID binding.executionID || binding.executionGeneration = 0 ||
      binding.number = 0 || now = 0 then .error errInvalidAttempt
  else .ok
    { id := attemptID, binding, state := .pending, stateVersion := 0, current := true
      sandboxReference := none, harnessReference := none, sandboxHeartbeatAt := none
      harnessHeartbeatAt := none, terminalResult := none, createdAt := now, updatedAt := now
      terminalAt := none }

/-- `Restore` from authoritative storage. -/
def restore (attemptID : ID) (binding : Binding) (state : State) (stateVersion : Nat)
    (current : Bool) (sandboxReference harnessReference : Option ID)
    (sandboxHeartbeatAt harnessHeartbeatAt : Option Time) (result : Option TerminalResult)
    (createdAt updatedAt : Time) (terminalAt : Option Time) : Except Error Attempt :=
  if !validID attemptID || !validID binding.executionID || binding.executionGeneration = 0 ||
      binding.number = 0 || createdAt = 0 || updatedAt < createdAt ||
      sandboxReference.any (fun id => !validID id) ||
      harnessReference.any (fun id => !validID id) then .error errInvalidAttempt
  else if state.isTerminal != (result.isSome && terminalAt.isSome) ||
      (state.isTerminal && current) || result.any (fun r => !Execution.validResult r) then
    .error errInvalidAttempt
  else .ok { id := attemptID, binding, state, stateVersion, current, sandboxReference
             harnessReference, sandboxHeartbeatAt, harnessHeartbeatAt, terminalResult := result
             createdAt, updatedAt, terminalAt }

def validateMutation (a : Attempt) (expectedVersion : Nat) (now : Time) : Except Error Unit :=
  if now = 0 then .error errInvalidAttempt
  else if expectedVersion ≠ a.stateVersion then .error errVersionConflict
  else if now < a.updatedAt then .error errInvalidAttempt
  else .ok ()

/-- The references and heartbeats a mutation may target. -/
inductive Peer where
  | sandbox
  | harness
deriving DecidableEq

def reference (a : Attempt) : Peer → Option ID
  | .sandbox => a.sandboxReference
  | .harness => a.harnessReference

def heartbeatAt (a : Attempt) : Peer → Option Time
  | .sandbox => a.sandboxHeartbeatAt
  | .harness => a.harnessHeartbeatAt

/-- `BindSandbox` and `BindHarness`: record an opaque reference once. -/
def bind (a : Attempt) (peer : Peer) (reference : ID) (expectedVersion : Nat) (now : Time) :
    Except Error Attempt := do
  a.validateMutation expectedVersion now
  if !validID reference || a.state.isTerminal then .error errInvalidAttempt
  else match a.reference peer with
    | some bound => if bound = reference then .ok a else .error errInvalidAttempt
    | none =>
      let moved := { a with stateVersion := increment a.stateVersion, updatedAt := now }
      match peer with
      | .sandbox => .ok { moved with sandboxReference := some reference }
      | .harness => .ok { moved with harnessReference := some reference }

def legal : State → State → Bool
  | .pending, .acquiring | .pending, .failed | .pending, .interrupting => true
  | .acquiring, .starting | .acquiring, .failed | .acquiring, .interrupting => true
  | .starting, .running | .starting, .failed | .starting, .interrupting => true
  | .running, .succeeded | .running, .failed | .running, .interrupting => true
  | .interrupting, .cancelled | .interrupting, .timedOut | .interrupting, .replaced
  | .interrupting, .failed => true
  | _, _ => false

/-- `Transition`: a terminal edge requires evidence and ends the designation. -/
def transition (a : Attempt) (next : State) (expectedVersion : Nat)
    (result : Option TerminalResult) (now : Time) : Except Error Attempt := do
  a.validateMutation expectedVersion now
  if next = a.state then
    if next.isTerminal ∧ result.isSome ∧ a.terminalResult = result then .ok a
    else .error errIllegalTransition
  else if !legal a.state next then .error errIllegalTransition
  else if next.isTerminal != result.isSome || result.any (fun r => !Execution.validResult r) then
    .error errInvalidAttempt
  else .ok { a with
    state := next
    stateVersion := increment a.stateVersion
    updatedAt := now
    terminalResult := if result.isSome then result else a.terminalResult
    terminalAt := if result.isSome then some now else a.terminalAt
    current := if result.isSome then false else a.current }

/-! ### The methods in place -/

open Relational (Method)

/-- `*target = reference`. -/
def setReference (peer : Peer) (reference : ID) (a : Attempt) : Attempt :=
  match peer with
  | .sandbox => { a with sandboxReference := some reference }
  | .harness => { a with harnessReference := some reference }

/-- `*target = &copy`. -/
def setHeartbeat (peer : Peer) (observedAt : Time) (a : Attempt) : Attempt :=
  match peer with
  | .sandbox => { a with sandboxHeartbeatAt := some observedAt }
  | .harness => { a with harnessHeartbeatAt := some observedAt }

def advance (now : Time) (a : Attempt) : Attempt :=
  { a with stateVersion := increment a.stateVersion, updatedAt := now }

def bindInPlace (peer : Peer) (reference : ID) (expectedVersion : Nat) (now : Time) :
    Method Attempt Error Unit := do
  let a ← get
  match a.validateMutation expectedVersion now with
  | .error e => throw e
  | .ok () =>
    if !validID reference || a.state.isTerminal then throw errInvalidAttempt
    match a.reference peer with
    | some bound =>
      if bound = reference then return
      throw errInvalidAttempt
    | none =>
      modify (setReference peer reference)
      modify (advance now)

def observeHeartbeatInPlace (peer : Peer) (expectedVersion : Nat) (observedAt now : Time) :
    Method Attempt Error Unit := do
  let a ← get
  match a.validateMutation expectedVersion now with
  | .error e => throw e
  | .ok () =>
    if !a.current || a.state.isTerminal || observedAt = 0 || observedAt < a.createdAt ||
        now < observedAt || (a.heartbeatAt peer).any (observedAt < ·) then throw errInvalidAttempt
    modify (setHeartbeat peer observedAt)
    modify (advance now)

/-- `none` is a target text that `ParseState` refuses. -/
def transitionInPlace (target : Option State) (expectedVersion : Nat)
    (result : Option Execution.RawResult) (now : Time) : Method Attempt Error Unit := do
  let a ← get
  match a.validateMutation expectedVersion now with
  | .error e => throw e
  | .ok () =>
    match target with
    | none => throw errInvalidAttempt
    | some next =>
      if next = a.state then
        if next.isTerminal && Execution.sameResult a.terminalResult result then return
        throw errIllegalTransition
      if !legal a.state next then throw errIllegalTransition
      if next.isTerminal != result.isSome || result.any (fun r => !r.valid) then
        throw errInvalidAttempt
      modify ({ · with state := next })
      modify (advance now)
      if result.isSome then
        modify ({ · with terminalResult := result.bind (·.parsed) })
        modify ({ · with terminalAt := some now })
        modify ({ · with current := false })

/-- A call of one of the five methods. -/
inductive Call where
  | bind (peer : Peer) (reference : ID) (expectedVersion : Nat) (now : Time)
  | observeHeartbeat (peer : Peer) (expectedVersion : Nat) (observedAt now : Time)
  | transition (target : Option State) (expectedVersion : Nat)
      (result : Option Execution.RawResult) (now : Time)

def Call.method : Call → Method Attempt Error Unit
  | .bind peer reference expectedVersion now => bindInPlace peer reference expectedVersion now
  | .observeHeartbeat peer expectedVersion observedAt now =>
    observeHeartbeatInPlace peer expectedVersion observedAt now
  | .transition target expectedVersion result now =>
    transitionInPlace target expectedVersion result now

end Attempt
end ThinkPixelAR
