import ThinkPixelAR.Domain.Primitives
import ThinkPixelAR.Relational.Methods

/-!
Cleanup intents (`internal/domain/cleanup/intent.go`): exact, retryable intents to
remove one external resource. An intent stays as a tombstone once absence is
confirmed or its target is quarantined.
-/
namespace ThinkPixelAR.Cleanup

inductive State where
  | pending
  | confirmed
  | quarantined
deriving DecidableEq

def errInvalidIntent : Error := .new "invalid cleanup intent"
def errVersionConflict : Error := .new "cleanup intent version conflict"

/-- The identity and the target are immutable; `cleanupOperationID` is the operation
of the target. The version and the attempts are `uint64` counters. -/
structure Intent where
  id : ID
  ownerType : String
  ownerID : ID
  targetType : String
  providerKind : String
  externalReference : String
  cleanupOperationID : ID
  requestDigest : Digest
  ownershipProofDigest : Digest
  isOrphan : Bool
  state : State
  stateVersion : Nat
  attempts : Nat
  nextAttemptAt : Time
  lastErrorCode : Option String
  createdAt : Time
  updatedAt : Time
  confirmedAt : Option Time
  quarantinedAt : Option Time
deriving DecidableEq

namespace Intent

def valid (i : Intent) : Bool :=
  validID i.id && validID i.ownerID && validID i.cleanupOperationID &&
    boundedName 64 i.ownerType && boundedName 64 i.targetType && boundedName 128 i.providerKind &&
    boundedString 2048 i.externalReference && i.nextAttemptAt ≠ 0 && i.createdAt ≠ 0 &&
    !(i.updatedAt < i.createdAt) && i.lastErrorCode.all (boundedName 128) &&
    match i.state with
    | .pending => i.confirmedAt.isNone && i.quarantinedAt.isNone
    | .confirmed => 0 < i.attempts && i.confirmedAt = some i.updatedAt &&
        i.quarantinedAt.isNone && i.lastErrorCode.isNone
    | .quarantined => 0 < i.attempts && i.quarantinedAt = some i.updatedAt &&
        i.confirmedAt.isNone && i.lastErrorCode.isSome

/-- `New` accepts the target of a pending intent. -/
def create (i : Intent) (now : Time) : Except Error Intent :=
  let fresh : Intent :=
    { i with
      state := .pending, stateVersion := 0, attempts := 0, lastErrorCode := none, createdAt := now
      updatedAt := now, confirmedAt := none, quarantinedAt := none }
  if !fresh.valid || now = 0 || i.nextAttemptAt = 0 then .error errInvalidIntent else .ok fresh

/-- `Restore` accepts exactly the valid field combinations. -/
def restore (i : Intent) : Except Error Intent := if i.valid then .ok i else .error errInvalidIntent

/-- `mutable`: a pending intent at the expected version. -/
def isMutable (i : Intent) (expected : Nat) (now : Time) : Except Error Unit :=
  if expected ≠ i.stateVersion then .error errVersionConflict
  else if i.state ≠ .pending || now = 0 || now < i.updatedAt then .error errInvalidIntent
  else .ok ()

def retry (i : Intent) (expected : Nat) (next : Time) (errorCode : String) (now : Time) :
    Except Error Intent := do
  i.isMutable expected now
  if !(now < next) || !boundedName 128 errorCode then .error errInvalidIntent
  else .ok { i with
    attempts := increment i.attempts
    stateVersion := increment i.stateVersion
    nextAttemptAt := next
    lastErrorCode := some errorCode
    updatedAt := now }

def confirm (i : Intent) (expected : Nat) (now : Time) : Except Error Intent := do
  i.isMutable expected now
  .ok { i with
    attempts := increment i.attempts
    stateVersion := increment i.stateVersion
    state := .confirmed
    lastErrorCode := none
    updatedAt := now
    confirmedAt := some now }

def quarantine (i : Intent) (expected : Nat) (reasonCode : String) (now : Time) :
    Except Error Intent := do
  i.isMutable expected now
  if !boundedName 128 reasonCode then .error errInvalidIntent
  else .ok { i with
    attempts := increment i.attempts
    stateVersion := increment i.stateVersion
    state := .quarantined
    lastErrorCode := some reasonCode
    updatedAt := now
    quarantinedAt := some now }

/-! ### The methods in place -/

open Relational (Method)

def retryInPlace (expected : Nat) (next : Time) (errorCode : String) (now : Time) :
    Method Intent Error Unit := do
  let i ← get
  match i.isMutable expected now with
  | .error e => throw e
  | .ok () =>
    if !(now < next) || !boundedName 128 errorCode then throw errInvalidIntent
    modify fun i => { i with attempts := increment i.attempts }
    modify fun i => { i with stateVersion := increment i.stateVersion }
    modify ({ · with nextAttemptAt := next })
    modify ({ · with lastErrorCode := some errorCode })
    modify ({ · with updatedAt := now })

def confirmInPlace (expected : Nat) (now : Time) : Method Intent Error Unit := do
  let i ← get
  match i.isMutable expected now with
  | .error e => throw e
  | .ok () =>
    modify fun i => { i with attempts := increment i.attempts }
    modify fun i => { i with stateVersion := increment i.stateVersion }
    modify ({ · with state := .confirmed })
    modify ({ · with lastErrorCode := none })
    modify ({ · with updatedAt := now })
    modify fun i => { i with confirmedAt := some i.updatedAt }

def quarantineInPlace (expected : Nat) (reasonCode : String) (now : Time) :
    Method Intent Error Unit := do
  let i ← get
  match i.isMutable expected now with
  | .error e => throw e
  | .ok () =>
    if !boundedName 128 reasonCode then throw errInvalidIntent
    modify fun i => { i with attempts := increment i.attempts }
    modify fun i => { i with stateVersion := increment i.stateVersion }
    modify ({ · with state := .quarantined })
    modify ({ · with lastErrorCode := some reasonCode })
    modify ({ · with updatedAt := now })
    modify fun i => { i with quarantinedAt := some i.updatedAt }

/-- A call of one of the methods. -/
inductive Call where
  | retry (expected : Nat) (next : Time) (errorCode : String) (now : Time)
  | confirm (expected : Nat) (now : Time)
  | quarantine (expected : Nat) (reasonCode : String) (now : Time)

def Call.method : Call → Method Intent Error Unit
  | .retry expected next errorCode now => retryInPlace expected next errorCode now
  | .confirm expected now => confirmInPlace expected now
  | .quarantine expected reasonCode now => quarantineInPlace expected reasonCode now

def Call.attempt : Call → Intent → Except Error Intent
  | .retry expected next errorCode now, i => i.retry expected next errorCode now
  | .confirm expected now, i => i.confirm expected now
  | .quarantine expected reasonCode now, i => i.quarantine expected reasonCode now

/-- The tests precede the assignments in every method. -/
theorem Call.method_call (c : Call) (i : Intent) :
    c.method.call i = Method.atomically (c.attempt i) i := by
  cases c with
  | retry expected next errorCode now =>
    unfold method attempt retryInPlace Intent.retry
    simp only [Method.call_get_bind]
    cases i.isMutable expected now with
    | error e => rfl
    | ok =>
      simp only [Method.call_ite]
      show _ = Method.atomically (if _ then _ else _) i
      split <;> rfl
  | confirm expected now =>
    unfold method attempt confirmInPlace Intent.confirm
    simp only [Method.call_get_bind]
    cases i.isMutable expected now with
    | error e => rfl
    | ok => rfl
  | quarantine expected reasonCode now =>
    unfold method attempt quarantineInPlace Intent.quarantine
    simp only [Method.call_get_bind]
    cases i.isMutable expected now with
    | error e => rfl
    | ok =>
      simp only [Method.call_ite]
      show _ = Method.atomically (if _ then _ else _) i
      split <;> rfl

end Intent
end ThinkPixelAR.Cleanup
