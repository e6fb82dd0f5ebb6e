import ThinkPixelAR.Postgres.CheckpointPublication
import ThinkPixelAR.Postgres.Keys
import ThinkPixelAR.Postgres.SandboxReplacement
import ThinkPixelAR.Postgres.SessionResume

/-!
One writer per Session. The guarantee is not checked anywhere as a whole: two
partial unique indexes bound the mutable Executions and the current Attempts, the
epoch trigger ties a current Execution to the state of its Session, the deferred
foreign key ties it to a generation, and the fence trigger judges every write of an
Attempt. They are joined here over every interleaving of the transactions that
write Sessions, Executions and Attempts.
-/
namespace ThinkPixelAR.Guarantees

open Relational Postgres

/-! ### The transactions -/

/-- Repository calls a unit of work may combine, with arbitrary arguments. -/
inductive Operation where
  | addSession (value : Session)
  | activate (value : Session) (expected : Nat) (executionID : ID)
  | addExecution (value : Execution)
  | updateExecution (value : Execution) (expected : Nat)
  | addAttempt (value : Attempt)
  | updateAttempt (value : Attempt) (expected : Nat)

def Operation.perform : Operation → Transaction Unit
  | .addSession value => Sessions.add value
  | .activate value expected executionID => Sessions.activate value expected executionID
  | .addExecution value => Executions.add value
  | .updateExecution value expected => Executions.update value expected
  | .addAttempt value => Attempts.add value
  | .updateAttempt value expected => Attempts.update value expected

/-- The calls of one transaction, in order. -/
def unitOfWork : List Operation → Transaction Unit
  | [] => pure ()
  | operation :: rest => do
    operation.perform
    unitOfWork rest

/-- A Session is inserted without a current Execution; every other statement may do
what the schema accepts. -/
def Admissible : Stmt → Prop
  | .insert .sessions row => row.currentExecutionID = none
  | _ => True

/-- The transactions of the store. Besides the ones that move Sessions, Executions
and Attempts, any other admissible transaction may commit in between. -/
inductive Writer (platform : Platform) : {α : Type} → Time → Transaction α → Prop
  | repository (now : Time) (calls : List Operation) : Writer platform now (unitOfWork calls)
  | recordCompute (clock : Clock) (ids : RecoveryIDs) (expected : Sandbox.ComputeIntent)
      (observed : Sandbox.ComputeObservation) :
      Writer platform clock.transaction (recordCompute platform clock ids expected observed)
  | recoverExpiredAgentd (clock : Clock) (ids : RecoveryIDs) (id : ID) :
      Writer platform clock.transaction (recoverExpiredAgentd platform clock ids id)
  | replaceDeleted (clock : Clock) (policy : Sandbox.Binding → Sandbox.AcquireRequest → Bool)
      (events : ID × ID) (lost : ID) (resources : Sandbox.ReplacementResources) :
      Writer platform clock.transaction
        (replaceDeleted platform clock policy events lost resources)
  | suspend (clock : Clock) (env : SuspendEnvironment) (r : App.SuspendRequest) :
      Writer platform clock.transaction (suspend platform clock env r)
  | prepareResume (clock : Clock) (env : ResumeEnvironment) (now : Time) (ids : ResumeIDs)
      (eventID : ID) (r : App.ResumeRequest) :
      Writer platform clock.transaction (prepareResume platform clock env now ids eventID r)
  | completeResume (clock : Clock) (env : ResumeEnvironment) (now : Time) (eventID : ID)
      (r : App.ResumeRequest) (o : App.ResumeObservation) :
      Writer platform clock.transaction (completeResume platform clock env now eventID r o)
  | failResume (clock : Clock) (eventID : ID) (r : App.ResumeRequest) :
      Writer platform clock.transaction (failResume platform clock eventID r)
  | other {α : Type} (now : Time) (x : Transaction α) (admissible : x.Submits Admissible) :
      Writer platform now x

/-- One committed transaction. -/
def Step (platform : Platform) (db after : Db) : Prop :=
  ∃ (α : Type) (now : Time) (x : Transaction α) (result : α), Writer platform now x ∧
    (rules now).commit Fault.error x db = .ok (result, after)

/-- A store that satisfies the schema and in which no Session holds an Execution. -/
structure Fresh (db : Db) : Prop where
  sound : Sound db
  settled : Settled db
  idle : ∀ s ∈ db .sessions, s.currentExecutionID = none

/-! ### The guarantee -/

def OneMutableExecution (db : Db) : Prop :=
  ∀ sessionID, ((db .executions).filter fun e =>
    e.state.isMutable && decide (e.binding.raw.sessionID = sessionID)).length ≤ 1

def OneCurrentAttempt (db : Db) : Prop :=
  ∀ executionID, ((db .attempts).filter fun a =>
    a.current && decide (a.binding.executionID = executionID)).length ≤ 1

/-- The states in which a Session may hold an Execution. -/
def Holding (s : SessionRow) : Prop :=
  s.state = .active ∨ (s.state = .degraded ∧ s.recoveryState = some .active)

/-- A current Execution is held by its Session, at the generation of the Session. -/
def HeldAtGeneration (db : Db) : Prop :=
  ∀ s ∈ db .sessions, ∀ id, s.currentExecutionID = some id →
    Holding s ∧ ∃ e ∈ db .executions, e.id = id ∧ e.binding.raw.sessionID = s.id ∧
      e.binding.raw.sessionGeneration = s.executionGeneration

/-- Across a statement the generation of a Session stays, or advances by one in an
admission. -/
def AdvancesOnAdmission (event : Event Db Stmt) : Prop :=
  ∀ old ∈ event.pre .sessions, ∀ new ∈ event.post .sessions, new.id = old.id →
    new.executionGeneration = old.executionGeneration ∨
      (new.executionGeneration = old.executionGeneration + 1 ∧
        (old.state = .ready ∨ old.state = .idle) ∧ new.state = .active)

/-- A written Attempt is the current one of the Execution that an ACTIVE Session
holds at the Attempt's generation. -/
def WritesCurrentAttempt (event : Event Db Stmt) : Prop :=
  ∀ before after, Writes event .attempts before after →
    ∃ s ∈ event.pre .sessions, ∃ e ∈ event.pre .executions,
      e.id = (before.getD after).binding.executionID ∧ s.id = e.binding.raw.sessionID ∧
      s.state = .active ∧ s.currentExecutionID = some e.id ∧
      s.executionGeneration = e.binding.raw.sessionGeneration ∧
      s.executionGeneration = (before.getD after).binding.executionGeneration ∧
      (before.getD after).current = true

/-! ### What the triggers allow -/

/-- The epoch trigger: the generation stays or advances by one in an admission, and
a Session that holds an Execution is ACTIVE, or DEGRADED without a recovery state
other than ACTIVE. -/
theorem enforceSessionExecutionEpoch_ok {old new : SessionRow}
    (accepted : enforceSessionExecutionEpoch old new = .ok ()) :
    (new.executionGeneration = old.executionGeneration ∨
      (new.executionGeneration = old.executionGeneration + 1 ∧
        (old.state = .ready ∨ old.state = .idle) ∧ new.state = .active)) ∧
    (new.currentExecutionID ≠ none → new.state = .active ∨
      (new.state = .degraded ∧ ∀ r, new.recoveryState = some r → r = .active)) := by
  unfold enforceSessionExecutionEpoch at accepted
  simp only [except_seq_ok, refuse_ok, Truth.holds_and, Truth.holds_or, Truth.holds_not,
    Truth.fails_and, Truth.holds_of, Truth.fails_of, Truth.fails_compare] at accepted
  obtain ⟨bounds, admission, association⟩ := accepted
  refine ⟨?_, fun held => ?_⟩
  · by_cases advanced : old.executionGeneration < new.executionGeneration
    · right
      have left_ := mt (fun bad => ⟨advanced, Or.inl bad⟩) admission
      have entered := mt (fun bad => ⟨advanced, Or.inr (Or.inl bad)⟩) admission
      exact ⟨by omega, not_not.mp left_, not_not.mp entered⟩
    · left
      omega
  · by_cases active : new.state = .active
    · exact .inl active
    · right
      have rest := mt (fun bad => ⟨held, Or.inl ⟨active, bad⟩⟩) association
      have degraded := mt (fun bad => Or.inl (Or.inl (Or.inl bad))) rest
      refine ⟨not_not.mp degraded, fun r present => ?_⟩
      by_contra other
      exact rest (.inl (.inl (.inr ⟨r, .active, present, rfl, other⟩)))

variable {db : Db}

theorem fenceIsCurrent_iff {executionID : ID} {generation : Nat} :
    fenceIsCurrent db executionID generation = true ↔
      ∃ e ∈ db .executions, ∃ s ∈ db .sessions, e.id = executionID ∧
        s.id = e.binding.raw.sessionID ∧ s.state = .active ∧ s.currentExecutionID = some e.id ∧
        s.executionGeneration = e.binding.raw.sessionGeneration ∧
        e.binding.raw.sessionGeneration = generation ∧ e.state.isWorking = true := by
  simp only [fenceIsCurrent, List.any_eq_true, Bool.and_eq_true, decide_eq_true_eq, and_assoc]

/-! ### One statement -/

/-- A Session that holds an Execution is in a holding state. -/
def Held (db : Db) : Prop := ∀ s ∈ db .sessions, s.currentExecutionID ≠ none → Holding s

section Statement
variable {now : Time} {c : Stmt} {db after : Db} {n : Nat}

theorem held_step (admissible : Admissible c) (before : Held db)
    (accepted : (rules now).execute c db = .ok (n, after)) : Held after := by
  intro s member holds
  cases origin accepted (by decide) member with
  | kept old => exact before s old holds
  | inserted _ => exact (holds admissible).elim
  | written _ _ trigger =>
    rcases (enforceSessionExecutionEpoch_ok (updateTrigger_sessions trigger).1).2 holds with
      active | ⟨degraded, recovery⟩
    · exact .inl active
    · have present := (execute_sound accepted).degraded_recovers member degraded
      obtain ⟨r, found⟩ := Option.isSome_iff_exists.mp present
      exact .inr ⟨degraded, recovery r found ▸ found⟩

/-- The generation of a Session advances only in an admission. -/
theorem advances_step (sound : Sound db) (accepted : (rules now).execute c db = .ok (n, after)) :
    AdvancesOnAdmission ⟨db, c, after⟩ := by
  intro old present new member same
  cases origin accepted (by decide) member with
  | kept kept => exact .inl (by rw [sound.session_eq kept present same])
  | inserted _ =>
    -- The old row is still there, so one key makes both rows one.
    cases fate accepted (by decide) present with
    | kept stays => exact .inl (by rw [(execute_sound accepted).session_eq member stays same])
  | written kept _ trigger =>
    have epoch := (updateTrigger_sessions trigger).1
    have one := sound.session_eq kept present ((session_identity trigger).1.symm.trans same)
    subst one
    exact (enforceSessionExecutionEpoch_ok epoch).1

theorem enforceAttemptMutationFence_ok {new : Attempt} {designated : Bool}
    (accepted : enforceAttemptMutationFence db new designated = .ok ()) :
    fenceIsCurrent db new.binding.executionID new.binding.executionGeneration = true ∧
      designated = true :=
  not_not.mp (refuse_ok.mp accepted)

/-- Every accepted write of an Attempt passed the fence. -/
theorem attempt_step (accepted : (rules now).execute c db = .ok (n, after)) :
    WritesCurrentAttempt ⟨db, c, after⟩ := by
  intro before new writes
  cases writes with
  | insert =>
    obtain ⟨prepared, trigger, -⟩ := Rules.execute_insert.mp accepted
    obtain ⟨fence, designated⟩ := enforceAttemptMutationFence_ok
      (except_seq_ok.mp (show _ = _ from trigger)).1
    obtain ⟨e, he, s, hs, same, owner, active, held, generation, bound, -⟩ :=
      fenceIsCurrent_iff.mp fence
    exact ⟨s, hs, e, he, same, owner, active, held, generation, generation.trans bound, designated⟩
  | update member selected =>
    have trigger := (Rules.execute_update.mp accepted).1 _ member selected
    obtain ⟨fenced, identity⟩ := except_seq_ok.mp (show _ = _ from trigger)
    obtain ⟨fence, designated⟩ := enforceAttemptMutationFence_ok fenced
    obtain ⟨e, he, s, hs, same, owner, active, held, generation, bound, -⟩ :=
      fenceIsCurrent_iff.mp fence
    have binding := not_not.mp (not_or.mp (not_or.mp (refuse_ok.mp identity)).2).1
    rw [binding] at same bound
    exact ⟨s, hs, e, he, same, owner, active, held, generation, generation.trans bound, designated⟩

end Statement

/-! ### One transaction -/

theorem admissible_update {t : Table} {selects : Row t → Bool} {set : Row t → Row t} :
    Admissible (.update t selects set) := trivial

/-- Statements on tables other than `sessions` are admissible. -/
theorem admissible_of_onTables {tables : List Table} (absent : .sessions ∉ tables) (c : Stmt)
    (on : OnTables tables c) : Admissible c := by
  cases c with
  | insert t row => cases t <;> trivial
  | update t selects set => trivial
  | delete t selects => trivial

theorem perform_admissible (operation : Operation) : operation.perform.Submits Admissible := by
  cases operation with
  | addSession value => exact submits_execWrapped.mpr rfl
  | activate value expected executionID =>
    exact Tx.submits_require_bind.mpr fun _ => submits_affected.mpr admissible_update
  | addExecution value => exact submits_execWrapped.mpr trivial
  | updateExecution value expected => exact submits_affected.mpr admissible_update
  | addAttempt value =>
    exact Attempts.lockParents_submits.bind fun _ => submits_execWrapped.mpr trivial
  | updateAttempt value expected =>
    exact Attempts.lockParents_submits.bind fun _ => submits_affected.mpr admissible_update

theorem unitOfWork_admissible (calls : List Operation) :
    (unitOfWork calls).Submits Admissible := by
  induction calls with
  | nil => exact Tx.submits_pure
  | cons operation rest ih => exact (perform_admissible operation).bind fun _ => ih

theorem Writer.admissible {platform : Platform} {α : Type} {now : Time} {x : Transaction α}
    (writer : Writer platform now x) : x.Submits Admissible := by
  cases writer with
  | repository _ calls => exact unitOfWork_admissible calls
  | recordCompute clock ids expected observed =>
    exact recordCompute_submits (admissible_of_onTables (by decide)) fun _ _ _ => admissible_update
  | recoverExpiredAgentd clock ids id =>
    exact recoverExpiredAgentd_submits (admissible_of_onTables (by decide))
      fun _ _ _ => admissible_update
  | replaceDeleted clock policy events lost resources =>
    exact replaceDeleted_submits (admissible_of_onTables (by decide))
      fun _ _ _ => admissible_update
  | suspend clock env r =>
    exact suspend_submits (admissible_of_onTables (by decide)) fun _ => admissible_update
  | prepareResume clock env now ids eventID r =>
    exact prepareResume_submits (admissible_of_onTables (by decide)) fun _ => admissible_update
  | completeResume clock env now eventID r o =>
    exact completeResume_submits (admissible_of_onTables (by decide))
      fun _ _ => admissible_update
  | failResume clock eventID r =>
    exact failResume_submits (admissible_of_onTables (by decide)) fun _ => admissible_update
  | other _ _ admissible => exact admissible

/-! ### Whole runs -/

/-- What every committed state satisfies. -/
structure Invariant (db : Db) : Prop where
  sound : Sound db
  settled : Settled db
  held : Held db

theorem Fresh.invariant (fresh : Fresh db) : Invariant db :=
  ⟨fresh.sound, fresh.settled, fun s member holds => (holds (fresh.idle s member)).elim⟩

theorem statement_keeps {now : Time} {c : Stmt} {after : Db} {n : Nat} (admissible : Admissible c)
    (before : Sound db ∧ Held db) (accepted : (rules now).execute c db = .ok (n, after)) :
    Sound after ∧ Held after :=
  ⟨execute_sound accepted, held_step admissible before.2 accepted⟩

theorem step_keeps {platform : Platform} {after : Db} (before : Invariant db)
    (step : Step platform db after) : Invariant after := by
  obtain ⟨α, now, x, result, writer, committed⟩ := step
  obtain ⟨ran, checked⟩ := Rules.commit_ok.mp committed
  obtain ⟨sound, held⟩ := Tx.run_preserves (I := fun db => Sound db ∧ Held db)
    (fun _ _ _ _ admissible before accepted => statement_keeps admissible before accepted)
    writer.admissible ⟨before.sound, before.held⟩ ran
  exact ⟨sound, deferred_ok.mp checked, held⟩

theorem reachable_invariant {platform : Platform} {initial : Db} (fresh : Fresh initial)
    (run : Relation.ReflTransGen (Step platform) initial db) : Invariant db := by
  induction run with
  | refl => exact fresh.invariant
  | tail _ step ih => exact step_keeps ih step

/-- The deferred foreign key gives a current Execution the generation of its Session. -/
theorem Invariant.heldAtGeneration (invariant : Invariant db) : HeldAtGeneration db := by
  intro s member id current
  refine ⟨invariant.held s member (by simp [current]), ?_⟩
  have foreign := references_iff.mp (invariant.settled .sessions)
  obtain ⟨e, present, key⟩ := foreign s member (id, s.id, s.executionGeneration) (by simp [current])
  simp only [Prod.mk.injEq] at key
  exact ⟨e, present, key⟩

/-- The single-writer fence: over every interleaving of committed transactions a
Session has at most one mutable Execution and an Execution at most one current
Attempt, a current Execution is held at its generation, generations advance only on
admission, and every accepted write of an Attempt is one of the current Attempt. -/
theorem single_writer_fence (platform : Platform) {initial db : Db} (fresh : Fresh initial)
    (run : Relation.ReflTransGen (Step platform) initial db) :
    OneMutableExecution db ∧ OneCurrentAttempt db ∧ HeldAtGeneration db ∧
      ∀ {α : Type} {now : Time} {x : Transaction α}, Writer platform now x →
        ∀ event ∈ x.trace (rules now).execute db,
          AdvancesOnAdmission event ∧ WritesCurrentAttempt event := by
  have invariant := reachable_invariant fresh run
  refine ⟨invariant.sound.mutable_unique.length_le_one,
    invariant.sound.current_unique.length_le_one,
    invariant.heldAtGeneration, fun writer event member => ?_⟩
  -- Every statement of the trace was accepted in a sound store.
  obtain ⟨-, ⟨sound, -⟩, n, accepted⟩ := Tx.mem_trace (I := fun db => Sound db ∧ Held db)
    (fun _ _ _ _ admissible before accepted => statement_keeps admissible before accepted)
    writer.admissible ⟨invariant.sound, invariant.held⟩ member
  exact ⟨advances_step sound accepted, attempt_step accepted⟩

/-! ### An admission -/

namespace Sample

def digest : Digest := ⟨0⟩

def platform : Platform :=
  { tenantID := ID.v7 1, sha256 := fun _ => digest, rfc3339 := fun _ => ""
    canonicalRequest := fun _ => none }

def runtime : Session.RuntimeBinding where
  raw :=
    { authorityMode := some .localAuthority, authorityNamespace := "local", agentID := "agent"
      agentVersionID := "1", runtimeSpecSchemaVersion := "1", runtimeSpec := "\x7b\x7d"
      runtimeSpecDigest := some digest, runtimeProfileSchemaVersion := "1"
      runtimeProfileSnapshot := "\x7b\x7d", runtimeProfileDigest := some digest }
  valid := by decide +kernel

def session : Session :=
  { id := ID.v7 2, state := .ready, stateVersion := 1, executionGeneration := 0
    binding := runtime, recoveryState := none, createdAt := 1, updatedAt := 1, closedAt := none }

def executionBinding : Execution.Binding where
  raw :=
    { sessionID := ID.v7 2, sessionGeneration := 1, authorityMode := some .localAuthority
      authorityNamespace := "local", authorityReference := "grant", externalRunID := none
      grantDigest := some digest, agentID := "agent", agentVersionID := "1"
      agentEvidence := "\x7b\x7d", agentEvidenceDigest := some digest }
  session := by decide +kernel
  generation := by decide
  valid := by decide +kernel

def execution : Execution :=
  { id := ID.v7 3, binding := executionBinding, deadline := 100, state := .queued
    stateVersion := 0, terminalResult := none, createdAt := 2, updatedAt := 2, terminalAt := none }

def attempt : Attempt :=
  { id := ID.v7 4, binding := { executionID := ID.v7 3, executionGeneration := 1, number := 1 }
    state := .pending, stateVersion := 0, current := true, sandboxReference := none
    harnessReference := none, sandboxHeartbeatAt := none, harnessHeartbeatAt := none
    terminalResult := none, createdAt := 2, updatedAt := 2, terminalAt := none }

/-- A store with one READY Session. -/
def idle : Db := Function.update Db.empty .sessions
  [{ session with currentExecutionID := none, currentCheckpointID := none }]

/-- Admission of an Execution and its first Attempt in one transaction. -/
def admission : List Operation :=
  [.addExecution execution,
    .activate { session with
      state := .active, stateVersion := 2, executionGeneration := 1, updatedAt := 2 } 1 (ID.v7 3),
    .updateExecution { execution with state := .materializing, stateVersion := 1 } 0,
    .addAttempt attempt]

theorem idle_fresh : Fresh idle :=
  ⟨by decide +kernel, by decide +kernel, by decide +kernel⟩

theorem admission_commits : (rules 2).commitsTo Fault.error (unitOfWork admission) idle
    (fun after => (after .attempts).map (·.current) = [true]) = true := by
  decide +kernel

end Sample

theorem single_writer_fence_after_admission :
    ∃ db, Relation.ReflTransGen (Step Sample.platform) Sample.idle db ∧
      (db .attempts).map (·.current) = [true] ∧ OneMutableExecution db ∧ OneCurrentAttempt db ∧
      HeldAtGeneration db := by
  obtain ⟨result, db, committed, current⟩ := Rules.commitsTo_iff.mp Sample.admission_commits
  have run := Relation.ReflTransGen.single
    (r := Step Sample.platform) ⟨Unit, 2, _, result, .repository 2 Sample.admission, committed⟩
  have fence := single_writer_fence Sample.platform Sample.idle_fresh run
  exact ⟨db, run, of_decide_eq_true current, fence.1, fence.2.1, fence.2.2.1⟩

end ThinkPixelAR.Guarantees
