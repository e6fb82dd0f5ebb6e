import ThinkPixelAR.Relational.Methods
import ThinkPixelAR.Domain.Primitives

/-!
Durable reconciler coordination (`internal/domain/reconciliation/work.go`). The
lease coordinates workers only; aggregate fences are applied by the callers.
-/
namespace ThinkPixelAR.Reconciliation

inductive State where
  | pending
  | claimed
  | completed
deriving DecidableEq

def errInvalidWork : Error := .new "invalid reconciliation work"
def errClaimConflict : Error := .new "reconciliation claim conflict"

structure Work where
  id : ID
  targetID : ID
  ownerID : Option ID
  kind : String
  targetType : String
  lastErrorCode : Option String
  state : State
  attempts : Nat
  claimFence : Nat
  nextAttemptAt : Time
  claimExpiresAt : Option Time
  completedAt : Option Time
  createdAt : Time
  updatedAt : Time
deriving DecidableEq

namespace Work

def valid (w : Work) : Bool :=
  validID w.id && validID w.targetID && boundedName 128 w.kind && boundedName 64 w.targetType &&
    w.nextAttemptAt ≠ 0 && w.createdAt ≠ 0 && !(w.updatedAt < w.createdAt) &&
    w.lastErrorCode.all (boundedName 128) &&
    match w.state with
    | .pending => w.ownerID.isNone && w.claimExpiresAt.isNone && w.completedAt.isNone
    | .claimed => w.ownerID.any validID && 0 < w.attempts && 0 < w.claimFence &&
        w.claimExpiresAt.any (w.updatedAt < ·) && w.completedAt.isNone
    | .completed => w.ownerID.isNone && w.claimExpiresAt.isNone && 0 < w.attempts &&
        0 < w.claimFence && w.completedAt = some w.updatedAt

/-- `New`: PENDING, never claimed. -/
def create (id : ID) (kind targetType : String) (targetID : ID) (nextAttemptAt now : Time) :
    Except Error Work :=
  let w : Work :=
    { id, targetID, ownerID := none, kind, targetType, lastErrorCode := none, state := .pending
      attempts := 0, claimFence := 0, nextAttemptAt, claimExpiresAt := none, completedAt := none
      createdAt := now, updatedAt := now }
  if !w.valid || now = 0 || nextAttemptAt = 0 then .error errInvalidWork else .ok w

/-- `Restore` accepts exactly the valid field combinations. -/
def restore (w : Work) : Except Error Work :=
  if w.valid then .ok w else .error errInvalidWork

def claim (w : Work) (ownerID : ID) (leaseExpiresAt now : Time) : Except Error Work :=
  if !validID ownerID || now = 0 || !(now < leaseExpiresAt) || now < w.nextAttemptAt ||
      (w.state ≠ .pending && (w.state ≠ .claimed || w.claimExpiresAt.all (now < ·))) then
    .error errClaimConflict
  else .ok { w with
    state := .claimed
    ownerID := some ownerID
    attempts := increment w.attempts
    claimFence := increment w.claimFence
    claimExpiresAt := some leaseExpiresAt
    updatedAt := now }

def owns (w : Work) (ownerID : ID) (fence : Nat) (now : Time) : Bool :=
  w.state = .claimed && w.ownerID = some ownerID && w.claimFence = fence && now ≠ 0 &&
    w.claimExpiresAt.any (fun lease => !(lease < now)) && !(now < w.updatedAt)

def renew (w : Work) (ownerID : ID) (fence : Nat) (leaseExpiresAt now : Time) :
    Except Error Work :=
  if !w.owns ownerID fence now || !w.claimExpiresAt.any (· < leaseExpiresAt) then
    .error errClaimConflict
  else .ok { w with claimExpiresAt := some leaseExpiresAt, updatedAt := now }

def reschedule (w : Work) (ownerID : ID) (fence : Nat) (nextAttemptAt : Time)
    (errorCode : String) (now : Time) : Except Error Work :=
  if !w.owns ownerID fence now || !(now < nextAttemptAt) || !boundedName 128 errorCode then
    .error errClaimConflict
  else .ok { w with
    state := .pending
    ownerID := none
    claimExpiresAt := none
    nextAttemptAt := nextAttemptAt
    lastErrorCode := some errorCode
    updatedAt := now }

def complete (w : Work) (ownerID : ID) (fence : Nat) (now : Time) : Except Error Work :=
  if !w.owns ownerID fence now then .error errClaimConflict
  else .ok { w with
    state := .completed
    ownerID := none
    claimExpiresAt := none
    updatedAt := now
    completedAt := some now }

/-! ### The methods in place

Each method of the source tests the receiver once and then assigns. -/

open Relational (Method)

def claimInPlace (ownerID : ID) (leaseExpiresAt now : Time) : Method Work Error Unit := do
  let w ← get
  if !validID ownerID || now = 0 || !(now < leaseExpiresAt) || now < w.nextAttemptAt ||
      (w.state ≠ .pending && (w.state ≠ .claimed || w.claimExpiresAt.all (now < ·))) then
    throw errClaimConflict
  modify ({ · with state := .claimed, ownerID := some ownerID })
  modify fun w => { w with attempts := increment w.attempts }
  modify fun w => { w with claimFence := increment w.claimFence }
  modify ({ · with claimExpiresAt := some leaseExpiresAt, updatedAt := now })

def renewInPlace (ownerID : ID) (fence : Nat) (leaseExpiresAt now : Time) :
    Method Work Error Unit := do
  let w ← get
  if !w.owns ownerID fence now || !w.claimExpiresAt.any (· < leaseExpiresAt) then
    throw errClaimConflict
  modify ({ · with claimExpiresAt := some leaseExpiresAt, updatedAt := now })

def rescheduleInPlace (ownerID : ID) (fence : Nat) (nextAttemptAt : Time) (errorCode : String)
    (now : Time) : Method Work Error Unit := do
  let w ← get
  if !w.owns ownerID fence now || !(now < nextAttemptAt) || !boundedName 128 errorCode then
    throw errClaimConflict
  modify ({ · with state := .pending, ownerID := none, claimExpiresAt := none })
  modify ({ · with
    nextAttemptAt := nextAttemptAt, lastErrorCode := some errorCode, updatedAt := now })

def completeInPlace (ownerID : ID) (fence : Nat) (now : Time) : Method Work Error Unit := do
  let w ← get
  if !w.owns ownerID fence now then throw errClaimConflict
  modify ({ · with state := .completed, ownerID := none, claimExpiresAt := none })
  modify ({ · with updatedAt := now })
  modify fun w => { w with completedAt := some w.updatedAt }

/-- A call of one of the methods. -/
inductive Call where
  | claim (ownerID : ID) (leaseExpiresAt now : Time)
  | renew (ownerID : ID) (fence : Nat) (leaseExpiresAt now : Time)
  | reschedule (ownerID : ID) (fence : Nat) (nextAttemptAt : Time) (errorCode : String)
      (now : Time)
  | complete (ownerID : ID) (fence : Nat) (now : Time)

def Call.method : Call → Method Work Error Unit
  | .claim ownerID leaseExpiresAt now => claimInPlace ownerID leaseExpiresAt now
  | .renew ownerID fence leaseExpiresAt now => renewInPlace ownerID fence leaseExpiresAt now
  | .reschedule ownerID fence nextAttemptAt errorCode now =>
    rescheduleInPlace ownerID fence nextAttemptAt errorCode now
  | .complete ownerID fence now => completeInPlace ownerID fence now

def Call.attempt : Call → Work → Except Error Work
  | .claim ownerID leaseExpiresAt now, w => w.claim ownerID leaseExpiresAt now
  | .renew ownerID fence leaseExpiresAt now, w => w.renew ownerID fence leaseExpiresAt now
  | .reschedule ownerID fence nextAttemptAt errorCode now, w =>
    w.reschedule ownerID fence nextAttemptAt errorCode now
  | .complete ownerID fence now, w => w.complete ownerID fence now

/-- The test precedes the assignments in every method. -/
theorem Call.method_call (c : Call) (w : Work) :
    c.method.call w = Method.atomically (c.attempt w) w := by
  cases c with
  | claim | renew | reschedule | complete => exact Method.call_guarded (by rfl)

end Work
end ThinkPixelAR.Reconciliation
