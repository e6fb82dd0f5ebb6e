import ThinkPixelAR.Domain.Outbox
import ThinkPixelAR.Domain.Idempotency
import ThinkPixelAR.Domain.Reconciliation

/-!
Histories of the leased aggregates: outbox Messages, idempotency Records and
reconciliation Work. Each has a predicate `valid` that `Restore` tests, and methods
that test less than `valid` relates.

The methods of an owner compare the clock with the last change. Those that take or
extend a lease do not, so a clock that lags behind can move `updatedAt` back, even
before `createdAt`; and their counters are `uint64` values without an end. A retry is
compared with the clock but not with the zero time, which a clock before that time does
not exclude. Histories in which those calls are made with a clock that does not lag, a
counter that can grow and no zero time stay valid.
-/
namespace ThinkPixelAR

open Relational

/-! ### Outbox Messages -/

namespace Outbox.Message

/-- A Message as callers get it. -/
inductive Constructed : Message → Prop
  | new {id : ID} {envelope : Envelope} {availableAt now : Time} {m : Message}
      (created : create id envelope availableAt now = .ok m) : Constructed m
  | restored {snapshot m : Message} (accepted : restore snapshot = .ok m) : Constructed m

/-- The Message after the calls. -/
abbrev afterCalls (m : Message) (calls : List Call) : Message := Method.history Call.method m calls

/-- A claim is made no earlier than the last change, with counters that can grow; a
retry is not set to the zero time. -/
def Timely (m : Message) : Call → Prop
  | .claim _ _ now => m.updatedAt ≤ now ∧ m.attempts < 2 ^ 64 - 1 ∧ m.claimFence < 2 ^ 64 - 1
  | .retry _ _ availableAt _ _ => availableAt ≠ 0
  | _ => True

variable {m t : Message} {ownerID : ID} {fence : Nat} {now : Time}

theorem Constructed.valid (start : Constructed m) : m.valid = true := by
  cases start with
  | new created =>
    unfold create at created
    dsimp only at created
    obtain ⟨accepted, created⟩ := unless_ok.mp created
    cases created
    simp only [Bool.or_eq_true, not_or, Bool.not_eq_true', Bool.not_eq_false] at accepted
    exact accepted.1.1
  | restored accepted =>
    obtain ⟨valid, accepted⟩ := when_ok.mp accepted
    cases accepted
    exact valid

theorem restore_of_valid (valid : m.valid = true) : restore m = .ok m := if_pos valid

/-- The fields the state does not decide. -/
@[mk_iff] structure Intact (m : Message) : Prop where
  identified : validID m.id = true
  envelope : validEnvelope m.envelope = true
  available : m.availableAt ≠ 0
  created : m.createdAt ≠ 0
  updated : m.createdAt ≤ m.updatedAt
  lastError : m.lastErrorCode.all (boundedName 128) = true

theorem valid_iff : m.valid = true ↔ m.Intact ∧
    match m.state with
    | .pending => m.ownerID = none ∧ m.claimExpiresAt = none ∧ m.deadLetter = none ∧
        m.deliveredAt = none
    | .claimed => m.ownerID.any validID = true ∧ 0 < m.attempts ∧ 0 < m.claimFence ∧
        m.claimExpiresAt.any (m.updatedAt < ·) = true ∧ m.deadLetter = none ∧ m.deliveredAt = none
    | .delivered => m.ownerID = none ∧ m.claimExpiresAt = none ∧ m.deliveredAt.isSome = true ∧
        m.deadLetter = none
    | .deadLettered => m.ownerID = none ∧ m.claimExpiresAt = none ∧ m.deliveredAt = none ∧
        m.deadLetter.any validDeadLetter = true := by
  rw [intact_iff]
  unfold Message.valid
  cases m.state <;> simp [and_assoc]

/-- The owner acts with its fence, before its lease ends, no earlier than the last change. -/
theorem ownsClaim_iff : m.ownsClaim ownerID fence now = true ↔
    m.state = .claimed ∧ m.ownerID = some ownerID ∧ m.claimFence = fence ∧ now ≠ 0 ∧
      (∃ lease, m.claimExpiresAt = some lease ∧ now ≤ lease) ∧ m.updatedAt ≤ now := by
  simp [ownsClaim, Option.any_eq_true, and_assoc]

theorem claim_keeps {leaseExpiresAt : Time} (valid : m.valid = true)
    (claimed : m.claim ownerID leaseExpiresAt now = .ok t)
    (timely : Timely m (.claim ownerID leaseExpiresAt now)) :
    t.valid = true ∧ m.updatedAt ≤ t.updatedAt := by
  obtain ⟨late, attempts, fences⟩ := timely
  obtain ⟨intact, states⟩ := valid_iff.mp valid
  obtain ⟨accepted, claimed⟩ := unless_ok.mp claimed
  cases claimed
  simp only [Bool.or_eq_true, Bool.and_eq_true, Bool.not_eq_true', decide_eq_true_eq,
    decide_eq_false_iff_not, not_or, not_and, not_not, Bool.not_eq_false, ne_eq] at accepted
  obtain ⟨⟨⟨⟨owner, -⟩, leased⟩, -⟩, claimable⟩ := accepted
  have unsettled : m.deadLetter = none ∧ m.deliveredAt = none := by
    cases state : m.state <;> simp_all
  refine ⟨valid_iff.mpr ⟨{ intact with updated := le_trans intact.updated late }, ?_⟩, late⟩
  simp only [increment_eq attempts, increment_eq fences, Option.any_some, owner,
    Nat.zero_lt_succ, decide_eq_true_eq, true_and]
  exact ⟨leased, unsettled⟩

theorem retry_keeps {availableAt : Time} {errorCode : String} (valid : m.valid = true)
    (retried : m.retry ownerID fence availableAt errorCode now = .ok t)
    (timely : Timely m (.retry ownerID fence availableAt errorCode now)) :
    t.valid = true ∧ m.updatedAt ≤ t.updatedAt := by
  obtain ⟨accepted, retried⟩ := unless_ok.mp retried
  cases retried
  simp only [Bool.or_eq_true, Bool.not_eq_true', not_or, Bool.not_eq_false,
    decide_eq_false_iff_not, not_not, ownsClaim_iff] at accepted
  obtain ⟨⟨⟨claimed, -, -, -, -, late⟩, -⟩, named⟩ := accepted
  obtain ⟨intact, states⟩ := valid_iff.mp valid
  simp only [claimed] at states
  refine ⟨valid_iff.mpr ⟨?_, rfl, rfl, states.2.2.2.2⟩, late⟩
  exact { intact with
    available := timely, updated := le_trans intact.updated late, lastError := named }

theorem markDelivered_keeps (valid : m.valid = true)
    (delivered : m.markDelivered ownerID fence now = .ok t) :
    t.valid = true ∧ m.updatedAt ≤ t.updatedAt := by
  obtain ⟨accepted, delivered⟩ := unless_ok.mp delivered
  cases delivered
  simp only [Bool.not_eq_true', Bool.not_eq_false, ownsClaim_iff] at accepted
  obtain ⟨claimed, -, -, -, -, late⟩ := accepted
  obtain ⟨intact, states⟩ := valid_iff.mp valid
  simp only [claimed] at states
  refine ⟨valid_iff.mpr ⟨?_, rfl, rfl, rfl, states.2.2.2.2.1⟩, late⟩
  exact { intact with updated := le_trans intact.updated late }

theorem deadLetterWith_keeps {metadata : DeadLetter} (valid : m.valid = true)
    (buried : m.deadLetterWith ownerID fence metadata now = .ok t) :
    t.valid = true ∧ m.updatedAt ≤ t.updatedAt := by
  obtain ⟨accepted, buried⟩ := unless_ok.mp buried
  cases buried
  simp only [Bool.or_eq_true, Bool.not_eq_true', not_or, Bool.not_eq_false,
    ownsClaim_iff] at accepted
  obtain ⟨⟨claimed, -, -, -, -, late⟩, described⟩ := accepted
  obtain ⟨intact, states⟩ := valid_iff.mp valid
  simp only [claimed] at states
  refine ⟨valid_iff.mpr ⟨?_, rfl, rfl, states.2.2.2.2.2, described⟩, late⟩
  exact { intact with updated := le_trans intact.updated late }

/-- One call keeps a Message valid and its clock monotone. -/
theorem Call.keeps (c : Call) (valid : m.valid = true) (timely : Timely m c) :
    (c.method.after m).valid = true ∧ m.updatedAt ≤ (c.method.after m).updatedAt := by
  rcases Method.after_cases (fun m => c.method_call m) (s := m) with same | taken
  · rw [same]
    exact ⟨valid, le_refl _⟩
  · cases c with
    | claim => exact claim_keeps valid taken timely
    | retry => exact retry_keeps valid taken timely
    | markDelivered => exact markDelivered_keeps valid taken
    | deadLetter => exact deadLetterWith_keeps valid taken

/-- A Message whose claims are timely stays valid, is accepted by `Restore` and its
last change never moves back. -/
theorem timely_history (start : Constructed m) {calls : List Call}
    (timely : Method.Along Call.method Timely m calls) :
    (m.afterCalls calls).valid = true ∧
      restore (m.afterCalls calls) = .ok (m.afterCalls calls) ∧
      ∀ before rest, calls = before ++ rest →
        (m.afterCalls before).updatedAt ≤ (m.afterCalls calls).updatedAt := by
  obtain ⟨valid, monotone⟩ := timely.kept (P := (·.valid = true)) (f := updatedAt) Call.keeps
    start.valid
  exact ⟨valid, restore_of_valid valid, monotone⟩

namespace Sample

def envelope : Envelope :=
  { topic := "t", schemaVersion := "1", eventID := ID.v7 1, aggregateType := "a"
    aggregateID := ID.v7 2, aggregateVersion := 1, payload := none
    payloadReference := some "r", payloadDigest := ⟨0⟩ }

/-- Recorded at 10 and available since 5. -/
def recorded : Message :=
  { id := ID.v7 3, ownerID := none, envelope, state := .pending, attempts := 0, claimFence := 0
    availableAt := 5, claimExpiresAt := none, lastErrorCode := none, deadLetter := none
    createdAt := 10, updatedAt := 10, deliveredAt := none }

theorem recorded_new : create (ID.v7 3) envelope 5 10 = .ok recorded := by decide +kernel

/-- Claimed as often as a `uint64` counts. -/
def worn : Message := { recorded with attempts := 2 ^ 64 - 1, claimFence := 2 ^ 64 - 1 }

theorem worn_restored : restore worn = .ok worn := by decide +kernel

/-- Claimed, retried, claimed again and delivered. -/
def calls : List Call :=
  [.claim (ID.v7 4) 20 10, .retry (ID.v7 4) 1 15 "e" 12, .claim (ID.v7 5) 30 16,
    .markDelivered (ID.v7 5) 2 30]

end Sample

open Sample

theorem timely_history_sample :
    (recorded.afterCalls calls).valid = true ∧
      restore (recorded.afterCalls calls) =
        .ok (recorded.afterCalls calls) ∧
      ∀ before rest, calls = before ++ rest →
        (recorded.afterCalls before).updatedAt ≤
          (recorded.afterCalls calls).updatedAt :=
  timely_history (.new recorded_new)
    ⟨⟨by decide, by decide, by decide⟩, show (15 : Int) ≠ 0 by decide,
      ⟨by decide, by decide, by decide⟩, trivial, trivial⟩

/-- A dispatcher whose clock lags claims the new Message and leaves one that is
refused; so does the claim after the last of the `uint64` counters. -/
theorem early_claim_not_restored :
    Constructed recorded ∧ Constructed worn ∧
      ((Call.claim (ID.v7 4) 8 7).method.call recorded).1 = .ok () ∧
      (recorded.afterCalls [.claim (ID.v7 4) 8 7]).updatedAt < recorded.updatedAt ∧
      (recorded.afterCalls [.claim (ID.v7 4) 8 7]).valid = false ∧
      (worn.afterCalls [.claim (ID.v7 4) 20 10]).valid = false :=
  ⟨.new recorded_new, .restored worn_restored, rfl, by decide, by decide, by decide⟩

end Outbox.Message

/-! ### Idempotency Records -/

namespace Idempotency.Record

/-- A Record as callers get it. -/
inductive Constructed : Record → Prop
  | new {id : ID} {scope : Scope} {normalizationVersion : String} {requestDigest : Digest}
      {operationID : ID} {resourceID : Option ID} {ownerID auditCorrelationID : ID}
      {leaseExpiresAt expiresAt now : Time} {r : Record}
      (created : create id scope normalizationVersion requestDigest operationID resourceID ownerID
        auditCorrelationID leaseExpiresAt expiresAt now = .ok r) : Constructed r
  | restored {snapshot r : Record} (accepted : restore snapshot = .ok r) : Constructed r

/-- The Record after the calls. -/
abbrev afterCalls (r : Record) (calls : List Call) : Record :=
  Method.history Call.method r calls

/-- The lease is taken or extended no earlier than the last change; a takeover finds a
fence that can grow. -/
def Timely (r : Record) : Call → Prop
  | .takeOwnership _ _ _ now => r.updatedAt ≤ now ∧ r.ownerFence < 2 ^ 64 - 1
  | .renew _ _ _ now => r.updatedAt ≤ now
  | _ => True

variable {r t : Record} {ownerID : ID} {fence : Nat} {leaseExpiresAt now : Time}

/-- The fields the state does not decide. -/
@[mk_iff] structure Intact (r : Record) : Prop where
  identified : [r.id, r.operationID, r.ownerID, r.auditCorrelationID].all validID = true
  resource : r.resourceID.all validID = true
  scope : validScope r.scope = true
  version : boundedName 64 r.normalizationVersion = true
  fenced : 0 < r.ownerFence
  created : r.createdAt ≠ 0
  updated : r.createdAt ≤ r.updatedAt
  expires : r.createdAt < r.expiresAt

theorem valid_iff : r.valid = true ↔ r.Intact ∧
    match r.state with
    | .inProgress => r.leaseExpiresAt.any (· < r.expiresAt) = true ∧ r.completedAt = none ∧
        r.response = none ∧ r.failure = none
    | .succeeded => r.leaseExpiresAt = none ∧ r.completedAt.isSome = true ∧
        r.response.any validResponse = true ∧ r.failure = none
    | .failed => r.leaseExpiresAt = none ∧ r.completedAt.isSome = true ∧ r.response = none ∧
        r.failure.any validFailure = true := by
  rw [intact_iff]
  unfold Record.valid
  cases r.state <;> simp [and_assoc]

theorem Constructed.valid (start : Constructed r) : r.valid = true := by
  cases start with
  | new created =>
    obtain ⟨accepted, created⟩ := unless_ok.mp created
    cases created
    simp only [Bool.or_eq_true, not_or, Bool.not_eq_true', Bool.not_eq_false, decide_eq_true_eq,
      decide_eq_false_iff_not, not_not] at accepted
    obtain ⟨⟨⟨⟨⟨⟨identified, resource⟩, scope⟩, version⟩, clock⟩, leased⟩, expires⟩ := accepted
    refine valid_iff.mpr ⟨⟨identified, resource, scope, version, Nat.zero_lt_one, clock,
      le_refl _, lt_trans leased expires⟩, decide_eq_true expires, rfl, rfl, rfl⟩
  | restored accepted =>
    obtain ⟨valid, accepted⟩ := when_ok.mp accepted
    cases accepted
    exact valid

theorem restore_of_valid (valid : r.valid = true) : restore r = .ok r := if_pos valid

theorem canComplete_iff : r.canComplete ownerID fence now = true ↔
    r.state = .inProgress ∧ r.ownerID = ownerID ∧ r.ownerFence = fence ∧ now ≠ 0 ∧
      (∃ lease, r.leaseExpiresAt = some lease ∧ now ≤ lease) ∧ r.updatedAt ≤ now := by
  simp [canComplete, Option.any_eq_true, and_assoc]

theorem takeOwnership_keeps (valid : r.valid = true)
    (taken : r.takeOwnership ownerID fence leaseExpiresAt now = .ok t)
    (timely : Timely r (.takeOwnership ownerID fence leaseExpiresAt now)) :
    t.valid = true ∧ r.updatedAt ≤ t.updatedAt := by
  obtain ⟨late, fences⟩ := timely
  obtain ⟨intact, states⟩ := valid_iff.mp valid
  obtain ⟨accepted, taken⟩ := unless_ok.mp taken
  cases taken
  simp only [Bool.or_eq_true, Bool.not_eq_true', decide_eq_true_eq, decide_eq_false_iff_not,
    not_or, not_not, Bool.not_eq_false, ne_eq] at accepted
  obtain ⟨⟨⟨⟨⟨⟨progress, -⟩, owner⟩, -⟩, -⟩, -⟩, expires⟩ := accepted
  simp only [progress] at states
  refine ⟨valid_iff.mpr ⟨?_, ?_⟩, late⟩
  · have identified := intact.identified
    simp only [List.all_cons, Bool.and_eq_true] at identified
    exact { intact with
      identified := by simp [identified, owner]
      fenced := by simp [increment_eq fences]
      updated := le_trans intact.updated late }
  · simp only [progress]
    exact ⟨decide_eq_true expires, states.2⟩

theorem renew_keeps (valid : r.valid = true)
    (renewed : r.renew ownerID fence leaseExpiresAt now = .ok t)
    (timely : Timely r (.renew ownerID fence leaseExpiresAt now)) :
    t.valid = true ∧ r.updatedAt ≤ t.updatedAt := by
  obtain ⟨intact, states⟩ := valid_iff.mp valid
  obtain ⟨accepted, renewed⟩ := unless_ok.mp renewed
  cases renewed
  simp only [Bool.or_eq_true, Bool.not_eq_true', decide_eq_true_eq, decide_eq_false_iff_not,
    not_or, not_not, Bool.not_eq_false, ne_eq] at accepted
  obtain ⟨⟨⟨⟨⟨⟨⟨progress, -⟩, -⟩, -⟩, -⟩, -⟩, -⟩, expires⟩ := accepted
  simp only [progress] at states
  refine ⟨valid_iff.mpr ⟨{ intact with updated := le_trans intact.updated timely }, ?_⟩, timely⟩
  simp only [progress]
  exact ⟨decide_eq_true expires, states.2⟩

theorem succeed_keeps {response : Response} (valid : r.valid = true)
    (succeeded : r.succeed response ownerID fence now = .ok t) :
    t.valid = true ∧ r.updatedAt ≤ t.updatedAt := by
  obtain ⟨intact, states⟩ := valid_iff.mp valid
  unfold succeed at succeeded
  split at succeeded
  next => cases succeeded
  next accepted =>
    split at succeeded
    next => cases succeeded
    next answers =>
      cases succeeded
      simp only [Bool.not_eq_true', Bool.not_eq_false, canComplete_iff] at accepted answers
      obtain ⟨progress, -, -, -, -, late⟩ := accepted
      simp only [progress] at states
      refine ⟨valid_iff.mpr ⟨?_, rfl, rfl, answers, states.2.2.2⟩, late⟩
      exact { intact with updated := le_trans intact.updated late }

theorem fail_keeps {failure : Failure} (valid : r.valid = true)
    (failed : r.fail failure ownerID fence now = .ok t) :
    t.valid = true ∧ r.updatedAt ≤ t.updatedAt := by
  obtain ⟨intact, states⟩ := valid_iff.mp valid
  unfold fail at failed
  split at failed
  next => cases failed
  next accepted =>
    split at failed
    next => cases failed
    next describes =>
      cases failed
      simp only [Bool.not_eq_true', Bool.not_eq_false, canComplete_iff] at accepted describes
      obtain ⟨progress, -, -, -, -, late⟩ := accepted
      simp only [progress] at states
      refine ⟨valid_iff.mpr ⟨?_, rfl, rfl, states.2.2.1, describes⟩, late⟩
      exact { intact with updated := le_trans intact.updated late }

/-- One call keeps a Record valid and its clock monotone. -/
theorem Call.keeps (c : Call) (valid : r.valid = true) (timely : Timely r c) :
    (c.method.after r).valid = true ∧ r.updatedAt ≤ (c.method.after r).updatedAt := by
  rcases Method.after_cases (fun r => c.method_call r) (s := r) with same | taken
  · rw [same]
    exact ⟨valid, le_refl _⟩
  · cases c with
    | takeOwnership => exact takeOwnership_keeps valid taken timely
    | renew => exact renew_keeps valid taken timely
    | succeed => exact succeed_keeps valid taken
    | fail => exact fail_keeps valid taken

/-- A Record whose lease is taken and extended in time stays valid, is accepted by
`Restore` and its last change never moves back. -/
theorem timely_lease_history (start : Constructed r) {calls : List Call}
    (timely : Method.Along Call.method Timely r calls) :
    (r.afterCalls calls).valid = true ∧
      restore (r.afterCalls calls) = .ok (r.afterCalls calls) ∧
      ∀ before rest, calls = before ++ rest →
        (r.afterCalls before).updatedAt ≤ (r.afterCalls calls).updatedAt := by
  obtain ⟨valid, monotone⟩ := timely.kept (P := (·.valid = true)) (f := updatedAt) Call.keeps
    start.valid
  exact ⟨valid, restore_of_valid valid, monotone⟩

namespace Sample

/-- Reserved at 10 with a lease until 20. -/
def reserved : Record :=
  { id := ID.v7 1, operationID := ID.v7 2, resourceID := none, ownerID := ID.v7 3
    auditCorrelationID := ID.v7 4
    scope := { principalDigest := ⟨0⟩, action := "a", keyDigest := ⟨0⟩ }
    normalizationVersion := "1", requestDigest := ⟨0⟩, state := .inProgress, ownerFence := 1
    leaseExpiresAt := some 20, completedAt := none, response := none, failure := none
    createdAt := 10, updatedAt := 10, expiresAt := 100 }

theorem reserved_new :
    create (ID.v7 1) { principalDigest := ⟨0⟩, action := "a", keyDigest := ⟨0⟩ } "1" ⟨0⟩ (ID.v7 2)
      none (ID.v7 3) (ID.v7 4) 20 100 10 = .ok reserved := by decide +kernel

/-- Taken over as often as a `uint64` counts. -/
def worn : Record := { reserved with ownerFence := 2 ^ 64 - 1 }

theorem worn_restored : restore worn = .ok worn := by decide +kernel

/-- Extended, taken over and completed. -/
def calls : List Call :=
  [.renew (ID.v7 3) 1 30 15, .takeOwnership (ID.v7 5) 1 50 40,
    .succeed { httpStatus := 200, payload := [7], reference := "" } (ID.v7 5) 2 45]

end Sample

open Sample

theorem timely_lease_history_sample :
    (reserved.afterCalls calls).valid = true ∧
      restore (reserved.afterCalls calls) =
        .ok (reserved.afterCalls calls) ∧
      ∀ before rest, calls = before ++ rest →
        (reserved.afterCalls before).updatedAt ≤
          (reserved.afterCalls calls).updatedAt :=
  timely_lease_history (.new reserved_new)
    ⟨show (10 : Int) ≤ 15 by decide, ⟨by decide, by decide⟩, trivial, trivial⟩

/-- The owner whose clock lags extends its lease and leaves a Record that is refused;
so does the takeover after the last `uint64` fence. -/
theorem early_renewal_not_restored :
    Constructed reserved ∧ Constructed worn ∧
      ((Call.renew (ID.v7 3) 1 30 5).method.call reserved).1 = .ok () ∧
      (reserved.afterCalls [.renew (ID.v7 3) 1 30 5]).updatedAt <
        reserved.updatedAt ∧
      (reserved.afterCalls [.renew (ID.v7 3) 1 30 5]).valid = false ∧
      (worn.afterCalls [.takeOwnership (ID.v7 5) (2 ^ 64 - 1) 50 40]).valid = false :=
  ⟨.new reserved_new, .restored worn_restored, rfl, by decide, by decide, by decide⟩

end Idempotency.Record

/-! ### Reconciliation Work -/

namespace Reconciliation.Work

/-- Work as callers get it. -/
inductive Constructed : Work → Prop
  | new {id : ID} {kind targetType : String} {targetID : ID} {nextAttemptAt now : Time} {w : Work}
      (created : create id kind targetType targetID nextAttemptAt now = .ok w) : Constructed w
  | restored {snapshot w : Work} (accepted : restore snapshot = .ok w) : Constructed w

/-- The Work after the calls. -/
abbrev afterCalls (w : Work) (calls : List Call) : Work := Method.history Call.method w calls

/-- A claim is made no earlier than the last change, with counters that can grow; the
next attempt is not set to the zero time. -/
def Timely (w : Work) : Call → Prop
  | .claim _ _ now => w.updatedAt ≤ now ∧ w.attempts < 2 ^ 64 - 1 ∧ w.claimFence < 2 ^ 64 - 1
  | .reschedule _ _ nextAttemptAt _ _ => nextAttemptAt ≠ 0
  | _ => True

variable {w t : Work} {ownerID : ID} {fence : Nat} {leaseExpiresAt now : Time}

/-- The fields the state does not decide. -/
@[mk_iff] structure Intact (w : Work) : Prop where
  identified : validID w.id = true
  target : validID w.targetID = true
  kind : boundedName 128 w.kind = true
  targetType : boundedName 64 w.targetType = true
  scheduled : w.nextAttemptAt ≠ 0
  created : w.createdAt ≠ 0
  updated : w.createdAt ≤ w.updatedAt
  lastError : w.lastErrorCode.all (boundedName 128) = true

theorem valid_iff : w.valid = true ↔ w.Intact ∧
    match w.state with
    | .pending => w.ownerID = none ∧ w.claimExpiresAt = none ∧ w.completedAt = none
    | .claimed => w.ownerID.any validID = true ∧ 0 < w.attempts ∧ 0 < w.claimFence ∧
        w.claimExpiresAt.any (w.updatedAt < ·) = true ∧ w.completedAt = none
    | .completed => w.ownerID = none ∧ w.claimExpiresAt = none ∧ 0 < w.attempts ∧
        0 < w.claimFence ∧ w.completedAt = some w.updatedAt := by
  rw [intact_iff]
  unfold Work.valid
  cases w.state <;> simp [and_assoc]

theorem Constructed.valid (start : Constructed w) : w.valid = true := by
  cases start with
  | new created =>
    unfold create at created
    dsimp only at created
    obtain ⟨accepted, created⟩ := unless_ok.mp created
    cases created
    simp only [Bool.or_eq_true, not_or, Bool.not_eq_true', Bool.not_eq_false] at accepted
    exact accepted.1.1
  | restored accepted =>
    obtain ⟨valid, accepted⟩ := when_ok.mp accepted
    cases accepted
    exact valid

/-- The owner acts with its fence, before its lease ends, no earlier than the last change. -/
theorem owns_iff : w.owns ownerID fence now = true ↔
    w.state = .claimed ∧ w.ownerID = some ownerID ∧ w.claimFence = fence ∧ now ≠ 0 ∧
      (∃ lease, w.claimExpiresAt = some lease ∧ now ≤ lease) ∧ w.updatedAt ≤ now := by
  simp [owns, Option.any_eq_true, and_assoc]

theorem claim_keeps (valid : w.valid = true) (claimed : w.claim ownerID leaseExpiresAt now = .ok t)
    (timely : Timely w (.claim ownerID leaseExpiresAt now)) :
    t.valid = true ∧ w.updatedAt ≤ t.updatedAt := by
  obtain ⟨late, attempts, fences⟩ := timely
  obtain ⟨intact, states⟩ := valid_iff.mp valid
  obtain ⟨accepted, claimed⟩ := unless_ok.mp claimed
  cases claimed
  simp only [Bool.or_eq_true, Bool.and_eq_true, Bool.not_eq_true', decide_eq_true_eq,
    decide_eq_false_iff_not, not_or, not_and, not_not, Bool.not_eq_false, ne_eq] at accepted
  obtain ⟨⟨⟨⟨owner, -⟩, leased⟩, -⟩, claimable⟩ := accepted
  have unfinished : w.completedAt = none := by
    cases state : w.state <;> simp_all
  refine ⟨valid_iff.mpr ⟨{ intact with updated := le_trans intact.updated late }, ?_⟩, late⟩
  simp only [increment_eq attempts, increment_eq fences, Option.any_some, owner,
    Nat.zero_lt_succ, decide_eq_true_eq, true_and]
  exact ⟨leased, unfinished⟩

theorem renew_keeps (valid : w.valid = true)
    (renewed : w.renew ownerID fence leaseExpiresAt now = .ok t) :
    t.valid = true ∧ w.updatedAt ≤ t.updatedAt := by
  obtain ⟨accepted, renewed⟩ := unless_ok.mp renewed
  cases renewed
  simp only [Bool.or_eq_true, Bool.not_eq_true', not_or, Bool.not_eq_false, owns_iff] at accepted
  obtain ⟨⟨claimed, -, -, -, ⟨lease, held, alive⟩, late⟩, longer⟩ := accepted
  obtain ⟨intact, states⟩ := valid_iff.mp valid
  simp only [claimed] at states
  simp only [held, Option.any_some, decide_eq_true_eq] at longer
  refine ⟨valid_iff.mpr ⟨{ intact with updated := le_trans intact.updated late }, ?_⟩, late⟩
  simp only [claimed, Option.any_some, decide_eq_true_eq]
  exact ⟨states.1, states.2.1, states.2.2.1, lt_of_le_of_lt alive longer, states.2.2.2.2⟩

theorem reschedule_keeps {nextAttemptAt : Time} {errorCode : String} (valid : w.valid = true)
    (rescheduled : w.reschedule ownerID fence nextAttemptAt errorCode now = .ok t)
    (timely : Timely w (.reschedule ownerID fence nextAttemptAt errorCode now)) :
    t.valid = true ∧ w.updatedAt ≤ t.updatedAt := by
  obtain ⟨accepted, rescheduled⟩ := unless_ok.mp rescheduled
  cases rescheduled
  simp only [Bool.or_eq_true, Bool.not_eq_true', not_or, Bool.not_eq_false,
    decide_eq_false_iff_not, not_not, owns_iff] at accepted
  obtain ⟨⟨⟨claimed, -, -, -, -, late⟩, -⟩, named⟩ := accepted
  obtain ⟨intact, states⟩ := valid_iff.mp valid
  simp only [claimed] at states
  refine ⟨valid_iff.mpr ⟨?_, rfl, rfl, states.2.2.2.2⟩, late⟩
  exact { intact with
    scheduled := timely, updated := le_trans intact.updated late, lastError := named }

theorem complete_keeps (valid : w.valid = true) (completed : w.complete ownerID fence now = .ok t) :
    t.valid = true ∧ w.updatedAt ≤ t.updatedAt := by
  obtain ⟨accepted, completed⟩ := unless_ok.mp completed
  cases completed
  simp only [Bool.not_eq_true', Bool.not_eq_false, owns_iff] at accepted
  obtain ⟨claimed, -, -, -, -, late⟩ := accepted
  obtain ⟨intact, states⟩ := valid_iff.mp valid
  simp only [claimed] at states
  refine ⟨valid_iff.mpr ⟨?_, rfl, rfl, states.2.1, states.2.2.1, rfl⟩, late⟩
  exact { intact with updated := le_trans intact.updated late }

/-- One call keeps Work valid and its clock monotone. -/
theorem Call.keeps (c : Call) (valid : w.valid = true) (timely : Timely w c) :
    (c.method.after w).valid = true ∧ w.updatedAt ≤ (c.method.after w).updatedAt := by
  rcases Method.after_cases (fun w => c.method_call w) (s := w) with same | taken
  · rw [same]
    exact ⟨valid, le_refl _⟩
  · cases c with
    | claim => exact claim_keeps valid taken timely
    | renew => exact renew_keeps valid taken
    | reschedule => exact reschedule_keeps valid taken timely
    | complete => exact complete_keeps valid taken

/-- A call that returns an error changes nothing. Work whose claims are timely stays valid
and its last change never moves back. -/
theorem timely_work_history (start : Constructed w) (calls : List Call) :
    (∀ (c : Call) (e : Error), (c.method.call (w.afterCalls calls)).1 = .error e →
      c.method.after (w.afterCalls calls) = w.afterCalls calls) ∧
    (Method.Along Call.method Timely w calls →
      (w.afterCalls calls).valid = true ∧
      ∀ before rest, calls = before ++ rest →
        (w.afterCalls before).updatedAt ≤ (w.afterCalls calls).updatedAt) :=
  ⟨fun c _ => Method.after_of_error fun w => c.method_call w,
    fun timely => timely.kept (P := (·.valid = true)) (f := updatedAt) Call.keeps start.valid⟩

namespace Sample

/-- Recorded at 10 and due since 5. -/
def recorded : Work :=
  { id := ID.v7 1, targetID := ID.v7 2, ownerID := none, kind := "k", targetType := "t"
    lastErrorCode := none, state := .pending, attempts := 0, claimFence := 0, nextAttemptAt := 5
    claimExpiresAt := none, completedAt := none, createdAt := 10, updatedAt := 10 }

theorem recorded_new : create (ID.v7 1) "k" "t" (ID.v7 2) 5 10 = .ok recorded := by decide +kernel

/-- Claimed as often as a `uint64` counts. -/
def worn : Work := { recorded with attempts := 2 ^ 64 - 1, claimFence := 2 ^ 64 - 1 }

theorem worn_restored : restore worn = .ok worn := by decide +kernel

/-- Claimed, extended, rescheduled, claimed again and completed. -/
def calls : List Call :=
  [.claim (ID.v7 4) 20 10, .renew (ID.v7 4) 1 30 12, .reschedule (ID.v7 4) 1 15 "e" 13,
    .claim (ID.v7 5) 30 16, .complete (ID.v7 5) 2 30]

end Sample

open Sample

theorem timely_work_history_sample :
    (recorded.afterCalls calls).state = .completed ∧ (recorded.afterCalls calls).valid = true ∧
      ∀ before rest, calls = before ++ rest →
        (recorded.afterCalls before).updatedAt ≤ (recorded.afterCalls calls).updatedAt :=
  ⟨by decide, (timely_work_history (.new recorded_new) calls).2
    ⟨⟨by decide, by decide, by decide⟩, trivial, show (15 : Int) ≠ 0 by decide,
      ⟨by decide, by decide, by decide⟩, trivial, trivial⟩⟩

/-- A worker whose clock lags claims the new Work and leaves it invalid; so does the
claim after the last of the `uint64` counters. -/
theorem early_claim_invalidates :
    Constructed recorded ∧ Constructed worn ∧
      ((Call.claim (ID.v7 4) 8 7).method.call recorded).1 = .ok () ∧
      (recorded.afterCalls [.claim (ID.v7 4) 8 7]).updatedAt < recorded.updatedAt ∧
      (recorded.afterCalls [.claim (ID.v7 4) 8 7]).valid = false ∧
      (worn.afterCalls [.claim (ID.v7 4) 20 10]).valid = false :=
  ⟨.new recorded_new, .restored worn_restored, rfl, by decide, by decide, by decide⟩

end Reconciliation.Work
end ThinkPixelAR
