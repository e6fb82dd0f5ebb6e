import ThinkPixelAR.Relational.Methods
import ThinkPixelAR.Domain.Primitives

/-!
Durable, scoped mutation identity and replay state
(`internal/domain/idempotency/record.go`). The payload of a response is the encoding of
whatever the operation that reserved the record returned; the record sees its bytes.
-/
namespace ThinkPixelAR.Idempotency

inductive State where
  | inProgress
  | succeeded
  | failed
deriving DecidableEq

def errInvalidRecord : Error := .new "invalid idempotency record"
def errOwnership : Error := .new "idempotency ownership conflict"

structure Scope where
  principalDigest : Digest
  action : String
  keyDigest : Digest
deriving DecidableEq

structure Response where
  httpStatus : Int
  payload : List UInt8
  reference : String
deriving DecidableEq

structure Failure where
  httpStatus : Int
  problemType : String
  problemCode : String
deriving DecidableEq

/-- One durable logical mutation. The owner fence keeps a stale worker from
completing it after a lease takeover. -/
structure Record where
  id : ID
  operationID : ID
  resourceID : Option ID
  ownerID : ID
  auditCorrelationID : ID
  scope : Scope
  normalizationVersion : String
  requestDigest : Digest
  state : State
  ownerFence : Nat
  leaseExpiresAt : Option Time
  completedAt : Option Time
  response : Option Response
  failure : Option Failure
  createdAt : Time
  updatedAt : Time
  expiresAt : Time
deriving DecidableEq

def validScope (s : Scope) : Bool := boundedName 255 s.action

def validResponse (v : Response) : Bool :=
  200 ≤ v.httpStatus && v.httpStatus ≤ 399 && v.payload.length ≤ 65536 &&
    (0 < v.payload.length || v.reference ≠ "") && (v.reference = "" || boundedText 2048 v.reference)

def validFailure (v : Failure) : Bool :=
  400 ≤ v.httpStatus && v.httpStatus ≤ 499 && boundedName 255 v.problemType &&
    boundedName 128 v.problemCode

namespace Record

def valid (r : Record) : Bool :=
  [r.id, r.operationID, r.ownerID, r.auditCorrelationID].all validID && r.resourceID.all validID &&
    validScope r.scope && boundedName 64 r.normalizationVersion && 0 < r.ownerFence &&
    r.createdAt ≠ 0 && !(r.updatedAt < r.createdAt) && r.createdAt < r.expiresAt &&
    match r.state with
    | .inProgress => r.leaseExpiresAt.any (· < r.expiresAt) && r.completedAt.isNone &&
        r.response.isNone && r.failure.isNone
    | .succeeded => r.leaseExpiresAt.isNone && r.completedAt.isSome &&
        r.response.any validResponse && r.failure.isNone
    | .failed => r.leaseExpiresAt.isNone && r.completedAt.isSome && r.response.isNone &&
        r.failure.any validFailure

/-- `New`: IN_PROGRESS with owner fence one. -/
def create (id : ID) (scope : Scope) (normalizationVersion : String) (requestDigest : Digest)
    (operationID : ID) (resourceID : Option ID) (ownerID auditCorrelationID : ID)
    (leaseExpiresAt expiresAt now : Time) : Except Error Record :=
  if !([id, operationID, ownerID, auditCorrelationID].all validID) || !resourceID.all validID ||
      !validScope scope || !boundedName 64 normalizationVersion || now = 0 ||
      !(now < leaseExpiresAt) || !(leaseExpiresAt < expiresAt) then .error errInvalidRecord
  else .ok
    { id, operationID, resourceID, ownerID, auditCorrelationID, scope, normalizationVersion
      requestDigest, state := .inProgress, ownerFence := 1, leaseExpiresAt := some leaseExpiresAt
      completedAt := none, response := none, failure := none, createdAt := now, updatedAt := now
      expiresAt }

/-- `Restore` accepts exactly the valid field combinations. -/
def restore (r : Record) : Except Error Record :=
  if r.valid then .ok r else .error errInvalidRecord

def canComplete (r : Record) (ownerID : ID) (fence : Nat) (now : Time) : Bool :=
  r.state = .inProgress && r.ownerID = ownerID && r.ownerFence = fence && now ≠ 0 &&
    r.leaseExpiresAt.any (fun lease => !(lease < now)) && !(now < r.updatedAt)

def takeOwnership (r : Record) (ownerID : ID) (expectedFence : Nat)
    (leaseExpiresAt now : Time) : Except Error Record :=
  if r.state ≠ .inProgress || expectedFence ≠ r.ownerFence || !validID ownerID || now = 0 ||
      r.leaseExpiresAt.all (now < ·) || !(now < leaseExpiresAt) ||
      !(leaseExpiresAt < r.expiresAt) then .error errOwnership
  else .ok { r with
    ownerID := ownerID
    ownerFence := increment r.ownerFence
    leaseExpiresAt := some leaseExpiresAt
    updatedAt := now }

def renew (r : Record) (ownerID : ID) (fence : Nat) (leaseExpiresAt now : Time) :
    Except Error Record :=
  if r.state ≠ .inProgress || r.ownerID ≠ ownerID || r.ownerFence ≠ fence || now = 0 ||
      r.leaseExpiresAt.all (· < now) || !(now < leaseExpiresAt) ||
      !r.leaseExpiresAt.any (· < leaseExpiresAt) || !(leaseExpiresAt < r.expiresAt) then
    .error errOwnership
  else .ok { r with leaseExpiresAt := some leaseExpiresAt, updatedAt := now }

def succeed (r : Record) (response : Response) (ownerID : ID) (fence : Nat) (now : Time) :
    Except Error Record :=
  if !r.canComplete ownerID fence now then .error errOwnership
  else if !validResponse response then .error errInvalidRecord
  else .ok { r with
    state := .succeeded
    response := some response
    leaseExpiresAt := none
    updatedAt := now
    completedAt := some now }

def fail (r : Record) (failure : Failure) (ownerID : ID) (fence : Nat) (now : Time) :
    Except Error Record :=
  if !r.canComplete ownerID fence now then .error errOwnership
  else if !validFailure failure then .error errInvalidRecord
  else .ok { r with
    state := .failed
    failure := some failure
    leaseExpiresAt := none
    updatedAt := now
    completedAt := some now }

/-! ### The methods in place

Each method of the source tests the receiver and then assigns. -/

open Relational (Method)

def takeOwnershipInPlace (ownerID : ID) (expectedFence : Nat) (leaseExpiresAt now : Time) :
    Method Record Error Unit := do
  let r ← get
  if r.state ≠ .inProgress || expectedFence ≠ r.ownerFence || !validID ownerID || now = 0 ||
      r.leaseExpiresAt.all (now < ·) || !(now < leaseExpiresAt) ||
      !(leaseExpiresAt < r.expiresAt) then throw errOwnership
  modify fun r => { r with ownerID := ownerID, ownerFence := increment r.ownerFence }
  modify ({ · with leaseExpiresAt := some leaseExpiresAt, updatedAt := now })

def renewInPlace (ownerID : ID) (fence : Nat) (leaseExpiresAt now : Time) :
    Method Record Error Unit := do
  let r ← get
  if r.state ≠ .inProgress || r.ownerID ≠ ownerID || r.ownerFence ≠ fence || now = 0 ||
      r.leaseExpiresAt.all (· < now) || !(now < leaseExpiresAt) ||
      !r.leaseExpiresAt.any (· < leaseExpiresAt) || !(leaseExpiresAt < r.expiresAt) then
    throw errOwnership
  modify ({ · with leaseExpiresAt := some leaseExpiresAt, updatedAt := now })

def succeedInPlace (response : Response) (ownerID : ID) (fence : Nat) (now : Time) :
    Method Record Error Unit := do
  let r ← get
  if !r.canComplete ownerID fence now then throw errOwnership
  if !validResponse response then throw errInvalidRecord
  modify ({ · with state := .succeeded })
  modify ({ · with response := some response })
  modify ({ · with leaseExpiresAt := none })
  modify ({ · with updatedAt := now })
  modify fun r => { r with completedAt := some r.updatedAt }

def failInPlace (failure : Failure) (ownerID : ID) (fence : Nat) (now : Time) :
    Method Record Error Unit := do
  let r ← get
  if !r.canComplete ownerID fence now then throw errOwnership
  if !validFailure failure then throw errInvalidRecord
  modify ({ · with state := .failed })
  modify ({ · with failure := some failure })
  modify ({ · with leaseExpiresAt := none })
  modify ({ · with updatedAt := now })
  modify fun r => { r with completedAt := some r.updatedAt }

/-- A call of one of the methods. -/
inductive Call where
  | takeOwnership (ownerID : ID) (expectedFence : Nat) (leaseExpiresAt now : Time)
  | renew (ownerID : ID) (fence : Nat) (leaseExpiresAt now : Time)
  | succeed (response : Response) (ownerID : ID) (fence : Nat) (now : Time)
  | fail (failure : Failure) (ownerID : ID) (fence : Nat) (now : Time)

def Call.method : Call → Method Record Error Unit
  | .takeOwnership ownerID expectedFence leaseExpiresAt now =>
    takeOwnershipInPlace ownerID expectedFence leaseExpiresAt now
  | .renew ownerID fence leaseExpiresAt now => renewInPlace ownerID fence leaseExpiresAt now
  | .succeed response ownerID fence now => succeedInPlace response ownerID fence now
  | .fail failure ownerID fence now => failInPlace failure ownerID fence now

def Call.attempt : Call → Record → Except Error Record
  | .takeOwnership ownerID expectedFence leaseExpiresAt now, r =>
    r.takeOwnership ownerID expectedFence leaseExpiresAt now
  | .renew ownerID fence leaseExpiresAt now, r => r.renew ownerID fence leaseExpiresAt now
  | .succeed response ownerID fence now, r => r.succeed response ownerID fence now
  | .fail failure ownerID fence now, r => r.fail failure ownerID fence now

/-- The tests precede the assignments in every method. -/
theorem Call.method_call (c : Call) (r : Record) :
    c.method.call r = Method.atomically (c.attempt r) r := by
  cases c with
  | takeOwnership | renew => exact Method.call_guarded (by rfl)
  | succeed | fail =>
    refine Method.call_guarded ?_
    simp only [Method.call_ite, Method.atomically_ite]
    split <;> rfl

end Record
end ThinkPixelAR.Idempotency
