import ThinkPixelAR.Domain.Cleanup

/-!
Histories of a cleanup intent. The methods keep what `valid` relates, with two gaps.
`Retry` compares the next attempt with the clock, while `New` and `valid` ask that it is
not the zero time: a clock before the zero time passes the comparison and leaves an
intent that `Restore` refuses. And the attempts are a `uint64` that starts again at zero,
which `valid` refuses of a tombstone.
-/
namespace ThinkPixelAR.Cleanup.Intent

open Relational

variable {expected : Nat} {now : Time}

/-- An intent as callers get it. -/
inductive Constructed : Intent → Prop
  | new {target i : Intent} {now : Time} (created : create target now = .ok i) : Constructed i
  | restored {snapshot i : Intent} (accepted : restore snapshot = .ok i) : Constructed i

/-- The intent after the calls. -/
abbrev afterCalls (i : Intent) (calls : List Call) : Intent := Method.history Call.method i calls

/-- The next attempt is not set to the zero time. -/
def Call.Scheduled : Call → Prop
  | .retry _ next _ _ => next ≠ 0
  | _ => True

/-- The call is scheduled and both counters of the intent can grow. -/
def Ready (i : Intent) (c : Call) : Prop :=
  c.Scheduled ∧ i.stateVersion < 2 ^ 64 - 1 ∧ i.attempts < 2 ^ 64 - 1

section Calls
variable {i t : Intent}

/-! ### What one call keeps -/

theorem isMutable_ok (accepted : i.isMutable expected now = .ok ()) :
    i.state = .pending ∧ i.updatedAt ≤ now := by
  unfold isMutable at accepted
  split at accepted
  · cases accepted
  split at accepted
  · cases accepted
  · rename_i checked
    simp only [Bool.or_eq_true, decide_eq_true_eq, not_or, ne_eq, not_not, not_lt] at checked
    exact ⟨checked.1.1, checked.2⟩

/-- What a call that succeeds assigns, beside the fields of its state. -/
structure Applied (i t : Intent) : Prop where
  pending : i.state = .pending
  version : t.stateVersion = increment i.stateVersion
  attempts : t.attempts = increment i.attempts
  updated : i.updatedAt ≤ t.updatedAt

/-- The fields that no state decides. -/
structure Intact (i : Intent) : Prop where
  identified : validID i.id = true ∧ validID i.ownerID = true ∧ validID i.cleanupOperationID = true
  named : boundedName 64 i.ownerType = true ∧ boundedName 64 i.targetType = true ∧
    boundedName 128 i.providerKind = true ∧ boundedString 2048 i.externalReference = true
  scheduled : i.nextAttemptAt ≠ 0
  created : i.createdAt ≠ 0
  updated : i.createdAt ≤ i.updatedAt
  lastError : i.lastErrorCode.all (boundedName 128) = true

theorem valid_iff : i.valid = true ↔ i.Intact ∧
    match i.state with
    | .pending => i.confirmedAt = none ∧ i.quarantinedAt = none
    | .confirmed => 0 < i.attempts ∧ i.confirmedAt = some i.updatedAt ∧ i.quarantinedAt = none ∧
        i.lastErrorCode = none
    | .quarantined => 0 < i.attempts ∧ i.quarantinedAt = some i.updatedAt ∧ i.confirmedAt = none ∧
        i.lastErrorCode.isSome = true := by
  have intact : i.Intact ↔ (validID i.id && validID i.ownerID && validID i.cleanupOperationID &&
      boundedName 64 i.ownerType && boundedName 64 i.targetType && boundedName 128 i.providerKind &&
      boundedString 2048 i.externalReference && decide (i.nextAttemptAt ≠ 0) &&
      decide (i.createdAt ≠ 0) && !decide (i.updatedAt < i.createdAt) &&
      i.lastErrorCode.all (boundedName 128)) = true := by
    simp only [Bool.and_eq_true, decide_eq_true_eq, Bool.not_eq_true', decide_eq_false_iff_not,
      not_lt]
    constructor
    · rintro ⟨⟨a, b, c⟩, ⟨d, e, f, g⟩, h, j, k, l⟩
      exact ⟨⟨⟨⟨⟨⟨⟨⟨⟨⟨a, b⟩, c⟩, d⟩, e⟩, f⟩, g⟩, h⟩, j⟩, k⟩, l⟩
    · rintro ⟨⟨⟨⟨⟨⟨⟨⟨⟨⟨a, b⟩, c⟩, d⟩, e⟩, f⟩, g⟩, h⟩, j⟩, k⟩, l⟩
      exact ⟨⟨a, b, c⟩, ⟨d, e, f, g⟩, h, j, k, l⟩
  rw [intact]
  unfold Intent.valid
  cases i.state <;> simp [and_assoc]

theorem retry_applied {next : Time} {errorCode : String}
    (retried : i.retry expected next errorCode now = .ok t) :
    Applied i t ∧ (i.valid = true → next ≠ 0 → t.valid = true) := by
  unfold retry at retried
  cases checked : i.isMutable expected now with
  | error e => rw [checked] at retried; cases retried
  | ok =>
    obtain ⟨pending, later⟩ := isMutable_ok checked
    rw [checked] at retried
    replace retried : (if _ then _ else _ : Except Error Intent) = .ok t := retried
    split at retried
    · cases retried
    rename_i accepted
    cases retried
    simp only [Bool.or_eq_true, Bool.not_eq_true', decide_eq_false_iff_not, not_or, not_not,
      Bool.not_eq_false] at accepted
    refine ⟨⟨pending, rfl, rfl, later⟩, fun valid scheduled => ?_⟩
    obtain ⟨intact, states⟩ := valid_iff.mp valid
    simp only [pending] at states
    refine valid_iff.mpr ⟨{ intact with
      scheduled := scheduled, updated := le_trans intact.updated later
      lastError := accepted.2 }, ?_⟩
    simp only [pending]
    exact states

theorem confirm_applied (confirmed : i.confirm expected now = .ok t) :
    Applied i t ∧ (i.valid = true → i.attempts < 2 ^ 64 - 1 → t.valid = true) := by
  unfold confirm at confirmed
  cases checked : i.isMutable expected now with
  | error e => rw [checked] at confirmed; cases confirmed
  | ok =>
    obtain ⟨pending, later⟩ := isMutable_ok checked
    rw [checked] at confirmed
    cases confirmed
    refine ⟨⟨pending, rfl, rfl, later⟩, fun valid room => ?_⟩
    obtain ⟨intact, states⟩ := valid_iff.mp valid
    simp only [pending] at states
    exact valid_iff.mpr ⟨{ intact with
      updated := le_trans intact.updated later, lastError := rfl }, increment_pos room, rfl,
      states.2, rfl⟩

theorem quarantine_applied {reasonCode : String}
    (quarantined : i.quarantine expected reasonCode now = .ok t) :
    Applied i t ∧ (i.valid = true → i.attempts < 2 ^ 64 - 1 → t.valid = true) := by
  unfold quarantine at quarantined
  cases checked : i.isMutable expected now with
  | error e => rw [checked] at quarantined; cases quarantined
  | ok =>
    obtain ⟨pending, later⟩ := isMutable_ok checked
    rw [checked] at quarantined
    replace quarantined : (if _ then _ else _ : Except Error Intent) = .ok t := quarantined
    split at quarantined
    · cases quarantined
    rename_i named
    cases quarantined
    simp only [Bool.not_eq_true', Bool.not_eq_false] at named
    refine ⟨⟨pending, rfl, rfl, later⟩, fun valid room => ?_⟩
    obtain ⟨intact, states⟩ := valid_iff.mp valid
    simp only [pending] at states
    exact valid_iff.mpr ⟨{ intact with
      updated := le_trans intact.updated later, lastError := named }, increment_pos room, rfl,
      states.1, rfl⟩

theorem Call.attempt_applied {c : Call} (succeeded : c.attempt i = .ok t) : Applied i t := by
  cases c with
  | retry => exact (retry_applied succeeded).1
  | confirm => exact (confirm_applied succeeded).1
  | quarantine => exact (quarantine_applied succeeded).1

theorem Call.attempt_valid {c : Call} (succeeded : c.attempt i = .ok t) (ready : Ready i c)
    (valid : i.valid = true) : t.valid = true := by
  obtain ⟨scheduled, -, room⟩ := ready
  cases c with
  | retry => exact (retry_applied succeeded).2 valid scheduled
  | confirm => exact (confirm_applied succeeded).2 valid room
  | quarantine => exact (quarantine_applied succeeded).2 valid room

theorem Call.keeps_valid (c : Call) (ready : Ready i c) (valid : i.valid = true) :
    (c.method.after i).valid = true := by
  rcases Method.after_cases (fun i => c.method_call i) (s := i) with same | taken
  · rw [same]
    exact valid
  · exact attempt_valid taken ready valid

theorem Call.later (c : Call) (i : Intent) : i.updatedAt ≤ (c.method.after i).updatedAt := by
  rcases Method.after_cases (fun i => c.method_call i) (s := i) with same | taken
  · exact le_of_eq (congrArg updatedAt same).symm
  · exact (attempt_applied taken).updated

/-- Confirmed and quarantined intents are tombstones. -/
theorem Call.tombstone (c : Call) (settled : i.state ≠ .pending) : c.method.after i = i := by
  rcases Method.after_cases (fun i => c.method_call i) (s := i) with same | taken
  · exact same
  · exact absurd (attempt_applied taken).pending settled

theorem Call.counted (c : Call) (succeeded : (c.method.call i).1 = .ok ()) :
    (c.method.after i).stateVersion = increment i.stateVersion ∧
      (c.method.after i).attempts = increment i.attempts := by
  rw [c.method_call] at succeeded
  unfold Method.after
  rw [c.method_call]
  cases decided : c.attempt i with
  | error e => rw [decided] at succeeded; cases succeeded
  | ok t =>
    have applied := attempt_applied decided
    exact ⟨applied.version, applied.attempts⟩

/-! ### Whole histories -/

theorem Constructed.valid (start : Constructed i) : i.valid = true := by
  cases start with
  | new created =>
    unfold create at created
    dsimp only at created
    split at created
    · cases created
    · rename_i accepted
      cases created
      simp only [Bool.or_eq_true, Bool.not_eq_true', not_or, Bool.not_eq_false] at accepted
      exact accepted.1.1
  | restored accepted =>
    unfold restore at accepted
    split at accepted
    · rename_i valid
      cases accepted
      exact valid
    · cases accepted

/-- An intent through any history: a tombstone is never changed, `updatedAt` never moves back,
a call that succeeds raises the version and the attempts together, as `uint64` counters, and a
call that fails changes nothing. If every call is ready, the intent stays valid and both
counters grow by one. -/
theorem intent_history (start : Constructed i) (calls : List Call) :
    (∀ before rest, calls = before ++ rest →
      ((i.afterCalls before).state ≠ .pending → i.afterCalls calls = i.afterCalls before) ∧
      (i.afterCalls before).updatedAt ≤ (i.afterCalls calls).updatedAt) ∧
    (∀ before c rest, calls = before ++ c :: rest →
      ((c.method.call (i.afterCalls before)).1 = .ok () →
        (i.afterCalls (before ++ [c])).stateVersion = increment (i.afterCalls before).stateVersion ∧
        (i.afterCalls (before ++ [c])).attempts = increment (i.afterCalls before).attempts) ∧
      ∀ error, (c.method.call (i.afterCalls before)).1 = .error error →
        i.afterCalls (before ++ [c]) = i.afterCalls before) ∧
    (Method.Along Call.method Ready i calls →
      (∀ before rest, calls = before ++ rest → (i.afterCalls before).valid = true) ∧
      ∀ before c rest, calls = before ++ c :: rest →
        (c.method.call (i.afterCalls before)).1 = .ok () →
          (i.afterCalls (before ++ [c])).stateVersion = (i.afterCalls before).stateVersion + 1 ∧
          (i.afterCalls (before ++ [c])).attempts = (i.afterCalls before).attempts + 1) := by
  refine ⟨?_, ?_, fun ready => ⟨?_, ?_⟩⟩
  · rintro before rest rfl
    refine ⟨fun settled => ?_, ?_⟩
    · exact Method.history_fixed (P := fun i => i.state ≠ .pending)
        (fun _ c => c.tombstone) settled rest
    · exact (Method.along_true i (before ++ rest)).monotone_between (P := fun _ => True)
        (f := updatedAt) (fun _ _ _ _ => trivial) (fun s c _ _ => c.later s) trivial
  · rintro before c rest rfl
    simp only [afterCalls, Method.history_concat]
    exact ⟨c.counted, fun error => Method.after_of_error fun i => c.method_call i⟩
  · rintro before rest rfl
    exact (Method.along_append.mp ready).1.invariant (P := fun i => i.valid = true)
      (fun _ c valid ready => c.keeps_valid ready valid) start.valid
  · rintro before c rest rfl succeeded
    obtain ⟨-, version, attempts⟩ := (Method.along_append.mp ready).2.1
    simp only [afterCalls, Method.history_concat]
    rw [← increment_eq version, ← increment_eq attempts]
    exact c.counted succeeded

end Calls

namespace Sample

def target : Intent :=
  { id := ID.v7 1, ownerType := "o", ownerID := ID.v7 2, targetType := "t", providerKind := "p"
    externalReference := "r", cleanupOperationID := ID.v7 3, requestDigest := ⟨0⟩
    ownershipProofDigest := ⟨0⟩, isOrphan := false, state := .pending, stateVersion := 0
    attempts := 0, nextAttemptAt := 5, lastErrorCode := none, createdAt := 0, updatedAt := 0
    confirmedAt := none, quarantinedAt := none }

/-- Recorded at the instant. -/
def recorded (now : Time) : Intent := { target with createdAt := now, updatedAt := now }

theorem recorded_new : create target 10 = .ok (recorded 10) := by decide +kernel

/-- Recorded before the zero time. -/
theorem ancient_new : create target (-10) = .ok (recorded (-10)) := by decide +kernel

def calls : List Call := [.retry 0 20 "e" 11, .confirm 1 30, .quarantine 2 "q" 40]

/-- Tried as often as a `uint64` counts. -/
def worn : Intent := { recorded 10 with attempts := 2 ^ 64 - 1 }

theorem worn_restored : restore worn = .ok worn := by decide +kernel

end Sample

open Sample

theorem intent_history_sample :
    ((recorded 10).afterCalls calls).state = .confirmed ∧
      ((recorded 10).afterCalls calls).valid = true := by
  have ready : Method.Along Call.method Ready (recorded 10) calls :=
    ⟨⟨show (20 : Int) ≠ 0 by decide, by decide, by decide⟩, ⟨trivial, by decide, by decide⟩,
      ⟨trivial, by decide, by decide⟩, trivial⟩
  have history := intent_history (.new recorded_new) calls
  exact ⟨by decide, (history.2.2 ready).1 calls [] (List.append_nil _).symm⟩

/-- A retry at the zero time, by a clock before it, leaves an intent that is refused; so does
the confirmation after the last of the `uint64` attempts. -/
theorem zero_retry_invalidates :
    Constructed (recorded (-10)) ∧
      ((Call.retry 0 0 "e" (-5)).method.call (recorded (-10))).1 = .ok () ∧
      ((recorded (-10)).afterCalls [.retry 0 0 "e" (-5)]).valid = false ∧
    Constructed worn ∧ ((Call.confirm 0 30).method.call worn).1 = .ok () ∧
      (worn.afterCalls [.confirm 0 30]).attempts = 0 ∧
      (worn.afterCalls [.confirm 0 30]).valid = false :=
  ⟨.new ancient_new, rfl, rfl, .restored worn_restored, rfl, by decide, by decide⟩

end ThinkPixelAR.Cleanup.Intent
