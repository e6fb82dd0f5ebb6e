import ThinkPixelAR.Postgres.Database

/-!
What the constraints say about single tables: rows are determined by their keys,
and rows that satisfy a `CHECK` have the properties later proofs use.
-/
namespace ThinkPixelAR.Postgres.Sound

open Relational

variable {db : Db} (sound : Sound db)
include sound

theorem session_eq {a b : SessionRow} (ha : a ∈ db .sessions) (hb : b ∈ db .sessions)
    (same : a.id = b.id) : a = b :=
  (unique_iff.mp (sound.key .sessions)).eq ha hb rfl rfl same

/-- A degraded Session has a recovery state. -/
theorem degraded_recovers {s : SessionRow} (member : s ∈ db .sessions)
    (degraded : s.state = .degraded) : s.recoveryState.isSome = true := by
  have check : sessionCheck s = true := sound.check .sessions s member
  simp only [sessionCheck, Bool.and_eq_true, decide_eq_true_eq] at check
  have := check.1.1.2
  simpa [degraded] using this.symm

/-- `executions_one_mutable_per_session_idx`. -/
theorem mutable_unique :
    UniqueOn (db .executions) (·.state.isMutable) (·.binding.raw.sessionID) := by
  have key : keys .executions db = true := sound.key .executions
  simp only [keys, Bool.and_eq_true, uniqueWhere_iff] at key
  exact key.1.2

/-- `attempts_one_current_idx`. -/
theorem current_unique : UniqueOn (db .attempts) (·.current) (·.binding.executionID) := by
  have key : keys .attempts db = true := sound.key .attempts
  simp only [keys, Bool.and_eq_true, uniqueWhere_iff] at key
  exact key.2

theorem resume_eq {a b : ResumeOperationRow} (ha : a ∈ db .sessionResumeOperations)
    (hb : b ∈ db .sessionResumeOperations) (same : a.operationID = b.operationID) : a = b := by
  have key : keys .sessionResumeOperations db = true := sound.key .sessionResumeOperations
  simp only [keys, Bool.and_eq_true, unique_iff] at key
  exact key.1.1.1.1.eq ha hb rfl rfl same

/-- `session_resume_one_candidate`. -/
theorem candidate_unique :
    UniqueOn (db .sessionResumeOperations) (·.isCandidate) (·.sessionID) := by
  have key : keys .sessionResumeOperations db = true := sound.key .sessionResumeOperations
  simp only [keys, Bool.and_eq_true, uniqueWhere_iff] at key
  exact key.2

/-- The Session of a resume operation is still there. -/
theorem resume_session {row : ResumeOperationRow} (member : row ∈ db .sessionResumeOperations) :
    ∃ s ∈ db .sessions, s.id = row.sessionID := by
  have parents : foreignKeys .sessionResumeOperations db = true :=
    sound.foreign .sessionResumeOperations
  simp only [foreignKeys, Bool.and_eq_true, references, decide_eq_true_eq] at parents
  exact parents.1 row member _ rfl

theorem binding_unique : UniqueOn (db .sandboxBindings) (fun _ => true) (·.id) := by
  have key : keys .sandboxBindings db = true := sound.key .sandboxBindings
  simp only [keys, Bool.and_eq_true, unique_iff] at key
  exact key.1.1

theorem binding_eq {a b : SandboxBindingRow} (ha : a ∈ db .sandboxBindings)
    (hb : b ∈ db .sandboxBindings) (same : a.id = b.id) : a = b :=
  sound.binding_unique.eq ha hb rfl rfl same

theorem request_unique :
    UniqueOn (db .sandboxBindingRequests) (fun _ => true) (·.sandboxBindingID) := by
  have key : keys .sandboxBindingRequests db = true := sound.key .sandboxBindingRequests
  simp only [keys, Bool.and_eq_true, unique_iff] at key
  exact key.1

theorem request_eq {a b : SandboxBindingRequestRow} (ha : a ∈ db .sandboxBindingRequests)
    (hb : b ∈ db .sandboxBindingRequests) (same : a.sandboxBindingID = b.sandboxBindingID) :
    a = b :=
  sound.request_unique.eq ha hb rfl rfl same

/-- An operation ID stands for one operation. -/
theorem operation_unique : UniqueOn (db .sandboxOperations) (fun _ => true) (·.operationID) := by
  have key : keys .sandboxOperations db = true := sound.key .sandboxOperations
  simp only [keys, Bool.and_eq_true, unique_iff] at key
  exact key.1

/-- A revision of a journal stands for one operation. -/
theorem revision_eq {a b : SandboxOperationRow} (ha : a ∈ db .sandboxOperations)
    (hb : b ∈ db .sandboxOperations) (owner : a.sandboxBindingID = b.sandboxBindingID)
    (same : a.revision = b.revision) : a = b := by
  have key : keys .sandboxOperations db = true := sound.key .sandboxOperations
  simp only [keys, Bool.and_eq_true, unique_iff] at key
  exact key.2.eq ha hb rfl rfl (Prod.ext owner same)

theorem revision_pos {o : SandboxOperationRow} (member : o ∈ db .sandboxOperations) :
    0 < o.revision := by
  have check : decide (0 < o.revision) = true := sound.check .sandboxOperations o member
  exact of_decide_eq_true check

/-- The request of a journalled operation is still there. -/
theorem operation_request {o : SandboxOperationRow} (member : o ∈ db .sandboxOperations) :
    ∃ q ∈ db .sandboxBindingRequests, q.sandboxBindingID = o.sandboxBindingID := by
  have parents : foreignKeys .sandboxOperations db = true := sound.foreign .sandboxOperations
  exact references_iff.mp parents o member _ rfl

/-- A cleanup operation ID stands for one intent. -/
theorem cleanup_eq {a b : CleanupIntentRow} (ha : a ∈ db .cleanupIntents)
    (hb : b ∈ db .cleanupIntents) (same : a.cleanupOperationID = b.cleanupOperationID) :
    a = b := by
  have key : keys .cleanupIntents db = true := sound.key .cleanupIntents
  simp only [keys, Bool.and_eq_true, unique_iff] at key
  exact key.1.2.eq ha hb rfl rfl same

/-- The target of a cleanup intent is named. -/
theorem cleanup_target {c : CleanupIntentRow} (member : c ∈ db .cleanupIntents) :
    c.externalReference ≠ "" := by
  have check : cleanupCheck c = true := sound.check .cleanupIntents c member
  simp only [cleanupCheck, Bool.and_eq_true] at check
  intro empty
  have bounded := check.1.1.1.2
  rw [empty] at bounded
  exact absurd bounded (by decide)

theorem record_unique : UniqueOn (db .idempotencyRecords) (fun _ => true) (·.id) := by
  have key : keys .idempotencyRecords db = true := sound.key .idempotencyRecords
  simp only [keys, Bool.and_eq_true, unique_iff] at key
  exact key.1

/-- One record holds a scope. -/
theorem record_eq {a b : Idempotency.Record} (ha : a ∈ db .idempotencyRecords)
    (hb : b ∈ db .idempotencyRecords) (same : a.scope = b.scope) : a = b := by
  have key : keys .idempotencyRecords db = true := sound.key .idempotencyRecords
  simp only [keys, Bool.and_eq_true, unique_iff] at key
  exact key.2.eq ha hb rfl rfl same

theorem grant_unique : UniqueOn (db .localAuthorityGrants) (fun _ => true) (·.id) :=
  unique_iff.mp (sound.key .localAuthorityGrants)

end ThinkPixelAR.Postgres.Sound
