import ThinkPixelAR.Relational.Methods
import ThinkPixelAR.Domain.Json

/-!
Durable publication intent (`internal/domain/outbox/message.go`). A claim leases
the message to one dispatcher and raises its fence; a dispatcher acts only with
the owner, the fence and an unexpired lease.
-/
namespace ThinkPixelAR.Outbox

inductive State where
  | pending
  | claimed
  | delivered
  | deadLettered
deriving DecidableEq

def State.isTerminal : State → Bool
  | .delivered | .deadLettered => true
  | _ => false

def errInvalidMessage : Error := .new "invalid outbox message"
def errClaimConflict : Error := .new "outbox claim conflict"

/-- Either the payload or its reference is present; the other is empty. -/
structure Envelope where
  topic : String
  schemaVersion : String
  eventID : ID
  aggregateType : String
  aggregateID : ID
  aggregateVersion : Nat
  payload : Option String
  payloadReference : Option String
  payloadDigest : Digest
deriving DecidableEq

structure DeadLetter where
  reasonCode : String
  detail : String
deriving DecidableEq

def maxPayloadBytes : Nat := 65536

def validEnvelope (e : Envelope) : Bool :=
  boundedName 255 e.topic && boundedName 128 e.schemaVersion && validID e.eventID &&
    boundedName 64 e.aggregateType && validID e.aggregateID && 0 < e.aggregateVersion &&
    e.payload.all (fun p => p ≠ "" && p.utf8ByteSize ≤ maxPayloadBytes) &&
    e.payloadReference.all (fun r => r ≠ "" && r.utf8ByteSize ≤ 2048) &&
    e.payload.isNone != e.payloadReference.isNone &&
    e.payload.all (fun p => jsonValid p && p.toList.all (· != '\x00')) &&
    e.payloadReference.all (fun r => r.toList.all (· != '\x00'))

def validDeadLetter (v : DeadLetter) : Bool :=
  boundedName 128 v.reasonCode && boundedText 1024 v.detail

structure Message where
  id : ID
  ownerID : Option ID
  envelope : Envelope
  state : State
  attempts : Nat
  claimFence : Nat
  availableAt : Time
  claimExpiresAt : Option Time
  lastErrorCode : Option String
  deadLetter : Option DeadLetter
  createdAt : Time
  updatedAt : Time
  deliveredAt : Option Time
deriving DecidableEq

namespace Message

def valid (m : Message) : Bool :=
  validID m.id && validEnvelope m.envelope && m.availableAt ≠ 0 && m.createdAt ≠ 0 &&
    !(m.updatedAt < m.createdAt) && m.lastErrorCode.all (boundedName 128) &&
    match m.state with
    | .pending => m.ownerID.isNone && m.claimExpiresAt.isNone && m.deadLetter.isNone &&
        m.deliveredAt.isNone
    | .claimed => m.ownerID.any validID && 0 < m.attempts && 0 < m.claimFence &&
        m.claimExpiresAt.any (m.updatedAt < ·) && m.deadLetter.isNone && m.deliveredAt.isNone
    | .delivered => m.ownerID.isNone && m.claimExpiresAt.isNone && m.deliveredAt.isSome &&
        m.deadLetter.isNone
    | .deadLettered => m.ownerID.isNone && m.claimExpiresAt.isNone && m.deliveredAt.isNone &&
        m.deadLetter.any validDeadLetter

/-- `New`: PENDING, never claimed. -/
def create (id : ID) (envelope : Envelope) (availableAt now : Time) : Except Error Message :=
  let m : Message :=
    { id, ownerID := none, envelope, state := .pending, attempts := 0, claimFence := 0
      availableAt, claimExpiresAt := none, lastErrorCode := none, deadLetter := none
      createdAt := now, updatedAt := now, deliveredAt := none }
  if !m.valid || availableAt = 0 || now = 0 then .error errInvalidMessage else .ok m

/-- `Restore` accepts exactly the valid field combinations. -/
def restore (m : Message) : Except Error Message :=
  if m.valid then .ok m else .error errInvalidMessage

def claim (m : Message) (ownerID : ID) (leaseExpiresAt now : Time) : Except Error Message :=
  if !validID ownerID || now = 0 || !(now < leaseExpiresAt) || now < m.availableAt ||
      (m.state ≠ .pending && (m.state ≠ .claimed || m.claimExpiresAt.all (now < ·))) then
    .error errClaimConflict
  else .ok { m with
    state := .claimed
    ownerID := some ownerID
    attempts := increment m.attempts
    claimFence := increment m.claimFence
    claimExpiresAt := some leaseExpiresAt
    updatedAt := now }

def ownsClaim (m : Message) (ownerID : ID) (fence : Nat) (now : Time) : Bool :=
  m.state = .claimed && m.ownerID = some ownerID && m.claimFence = fence && now ≠ 0 &&
    m.claimExpiresAt.any (fun lease => !(lease < now)) && !(now < m.updatedAt)

def retry (m : Message) (ownerID : ID) (fence : Nat) (availableAt : Time) (errorCode : String)
    (now : Time) : Except Error Message :=
  if !m.ownsClaim ownerID fence now || !(now < availableAt) || !boundedName 128 errorCode then
    .error errClaimConflict
  else .ok { m with
    state := .pending
    ownerID := none
    claimExpiresAt := none
    availableAt := availableAt
    lastErrorCode := some errorCode
    updatedAt := now }

def markDelivered (m : Message) (ownerID : ID) (fence : Nat) (now : Time) :
    Except Error Message :=
  if !m.ownsClaim ownerID fence now then .error errClaimConflict
  else .ok { m with
    state := .delivered
    ownerID := none
    claimExpiresAt := none
    updatedAt := now
    deliveredAt := some now }

/-- The method `DeadLetter`. -/
def deadLetterWith (m : Message) (ownerID : ID) (fence : Nat) (metadata : DeadLetter)
    (now : Time) : Except Error Message :=
  if !m.ownsClaim ownerID fence now || !validDeadLetter metadata then .error errClaimConflict
  else .ok { m with
    state := .deadLettered
    ownerID := none
    claimExpiresAt := none
    deadLetter := some metadata
    updatedAt := now }

/-! ### The methods in place

Each method of the source tests the receiver once and then assigns. -/

open Relational (Method)

def claimInPlace (ownerID : ID) (leaseExpiresAt now : Time) : Method Message Error Unit := do
  let m ← get
  if !validID ownerID || now = 0 || !(now < leaseExpiresAt) || now < m.availableAt ||
      (m.state ≠ .pending && (m.state ≠ .claimed || m.claimExpiresAt.all (now < ·))) then
    throw errClaimConflict
  modify ({ · with state := .claimed, ownerID := some ownerID })
  modify fun m => { m with attempts := increment m.attempts }
  modify fun m => { m with claimFence := increment m.claimFence }
  modify ({ · with claimExpiresAt := some leaseExpiresAt, updatedAt := now })

def retryInPlace (ownerID : ID) (fence : Nat) (availableAt : Time) (errorCode : String)
    (now : Time) : Method Message Error Unit := do
  let m ← get
  if !m.ownsClaim ownerID fence now || !(now < availableAt) || !boundedName 128 errorCode then
    throw errClaimConflict
  modify ({ · with state := .pending, ownerID := none, claimExpiresAt := none })
  modify ({ · with
    availableAt := availableAt, lastErrorCode := some errorCode, updatedAt := now })

def markDeliveredInPlace (ownerID : ID) (fence : Nat) (now : Time) :
    Method Message Error Unit := do
  let m ← get
  if !m.ownsClaim ownerID fence now then throw errClaimConflict
  modify ({ · with state := .delivered, ownerID := none, claimExpiresAt := none })
  modify ({ · with updatedAt := now })
  modify fun m => { m with deliveredAt := some m.updatedAt }

def deadLetterInPlace (ownerID : ID) (fence : Nat) (metadata : DeadLetter) (now : Time) :
    Method Message Error Unit := do
  let m ← get
  if !m.ownsClaim ownerID fence now || !validDeadLetter metadata then throw errClaimConflict
  modify ({ · with state := .deadLettered, ownerID := none, claimExpiresAt := none })
  modify ({ · with deadLetter := some metadata, updatedAt := now })

/-- A call of one of the methods. -/
inductive Call where
  | claim (ownerID : ID) (leaseExpiresAt now : Time)
  | retry (ownerID : ID) (fence : Nat) (availableAt : Time) (errorCode : String) (now : Time)
  | markDelivered (ownerID : ID) (fence : Nat) (now : Time)
  | deadLetter (ownerID : ID) (fence : Nat) (metadata : DeadLetter) (now : Time)

def Call.method : Call → Method Message Error Unit
  | .claim ownerID leaseExpiresAt now => claimInPlace ownerID leaseExpiresAt now
  | .retry ownerID fence availableAt errorCode now =>
    retryInPlace ownerID fence availableAt errorCode now
  | .markDelivered ownerID fence now => markDeliveredInPlace ownerID fence now
  | .deadLetter ownerID fence metadata now => deadLetterInPlace ownerID fence metadata now

def Call.attempt : Call → Message → Except Error Message
  | .claim ownerID leaseExpiresAt now, m => m.claim ownerID leaseExpiresAt now
  | .retry ownerID fence availableAt errorCode now, m =>
    m.retry ownerID fence availableAt errorCode now
  | .markDelivered ownerID fence now, m => m.markDelivered ownerID fence now
  | .deadLetter ownerID fence metadata now, m => m.deadLetterWith ownerID fence metadata now

/-- The test precedes the assignments in every method. -/
theorem Call.method_call (c : Call) (m : Message) :
    c.method.call m = Method.atomically (c.attempt m) m := by
  cases c with
  | claim | retry | markDelivered | deadLetter => exact Method.call_guarded (by rfl)

end Message
end ThinkPixelAR.Outbox
