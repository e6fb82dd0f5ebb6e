import ThinkPixelAR.Guarantees.SingleWriter
import ThinkPixelAR.Postgres.Evaluation

/-!
Suspend and resume as a protocol over the two journals and the Session row. A
boundary is named by the version it was committed at, and every candidate raises
that version, so a boundary is consumed once; the rest follows from the identity of
journal rows and their trigger.
-/
namespace ThinkPixelAR.Guarantees

open Relational Postgres

variable {row : ResumeOperationRow} {now : Time} {eventID : ID} {r : App.ResumeRequest}
  {result : App.ResumeResult}

/-! ### The protocol -/

/-- Other work on the store: it leaves both journals alone and lowers no version. -/
def LeavesJournals : Stmt → Prop
  | .update .sessions _ set => ∀ s : SessionRow, s.stateVersion ≤ (set s).stateVersion
  | c => c.table ≠ .sessionSuspendOperations ∧ c.table ≠ .sessionResumeOperations

inductive ProtocolCall (platform : Platform) : {α : Type} → Time → Transaction α → Prop
  | suspend (clock : Clock) (env : SuspendEnvironment) (r : App.SuspendRequest) :
      ProtocolCall platform clock.transaction (suspend platform clock env r)
  | prepare (clock : Clock) (env : ResumeEnvironment) (now : Time) (ids : ResumeIDs)
      (eventID : ID) (r : App.ResumeRequest) :
      ProtocolCall platform clock.transaction
        (prepareResume platform clock env now ids eventID r)
  | complete (clock : Clock) (env : ResumeEnvironment) (now : Time) (eventID : ID)
      (r : App.ResumeRequest) (o : App.ResumeObservation) :
      ProtocolCall platform clock.transaction
        (completeResume platform clock env now eventID r o)
  | fail (clock : Clock) (eventID : ID) (r : App.ResumeRequest) :
      ProtocolCall platform clock.transaction (failResume platform clock eventID r)
  | cleaned (clock : Clock) (operationID : ID) :
      ProtocolCall platform clock.transaction (cleanedResume platform clock operationID)
  | other {α : Type} (now : Time) (x : Transaction α) (leaves : x.Submits LeavesJournals) :
      ProtocolCall platform now x

/-- One committed call. -/
def ProtocolStep (platform : Platform) (db after : Db) : Prop :=
  ∃ (α : Type) (now : Time) (x : Transaction α) (result : α), ProtocolCall platform now x ∧
    (rules now).commit Fault.error x db = .ok (result, after)

abbrev ProtocolRun (platform : Platform) : Db → Db → Prop :=
  Relation.ReflTransGen (ProtocolStep platform)

/-- A store in which nothing was suspended yet. -/
structure NeverSuspended (db : Db) : Prop where
  sound : Sound db
  settled : Settled db
  suspends : db .sessionSuspendOperations = []
  resumes : db .sessionResumeOperations = []

/-! ### What it guarantees -/

/-- The operation was prepared on this boundary. -/
def Consumes (o : SuspendOperationRow) (row : ResumeOperationRow) : Prop :=
  row.sessionID = o.sessionID ∧ row.checkpointID = o.checkpointID ∧
    row.intent.version = o.stateVersion + 1

/-- Whoever consumes a boundary that was consumed is the operation that did. -/
def ConsumedOnce (db later : Db) : Prop :=
  ∀ o ∈ db .sessionSuspendOperations, ∀ row ∈ db .sessionResumeOperations, Consumes o row →
    ∀ row' ∈ later .sessionResumeOperations, Consumes o row' → row'.operationID = row.operationID

/-- RESUMING, or DEGRADED with resources left to clean. -/
def Outstanding (row : ResumeOperationRow) : Prop :=
  row.state = .resuming ∨ row.state = .degraded ∧ row.cleaned = false

def OneOutstanding (db : Db) : Prop :=
  ∀ a ∈ db .sessionResumeOperations, ∀ b ∈ db .sessionResumeOperations, Outstanding a →
    Outstanding b → a.sessionID = b.sessionID → a = b

/-- The outcome of a settled operation stays on record. -/
def OutcomeKept (row : ResumeOperationRow) (later : Db) : Prop :=
  ∃ row' ∈ later .sessionResumeOperations, row'.operationID = row.operationID ∧
    row'.state = row.state ∧ row'.result = row.result

/-- Every call with the request answers `result` and changes nothing: whatever is
answered is that, and access is all that is asked for. -/
structure Answers (platform : Platform) (db : Db) (r : App.ResumeRequest)
    (result : App.ResumeResult) : Prop where
  prepare : ∀ clock env now ids eventID, env.access r = true → ∃ i,
    (rules clock.transaction).commit Fault.error
      (prepareResume platform clock env now ids eventID r) db = .ok ((i, result), db)
  prepared : ∀ clock env now ids eventID i answer after,
    (rules clock.transaction).commit Fault.error
      (prepareResume platform clock env now ids eventID r) db = .ok ((i, answer), after) →
    answer = result ∧ after = db
  complete : ∀ clock env now eventID o, env.access r = true →
    (rules clock.transaction).commit Fault.error
      (completeResume platform clock env now eventID r o) db = .ok (result, db)
  completed : ∀ clock env now eventID o answer after,
    (rules clock.transaction).commit Fault.error
      (completeResume platform clock env now eventID r o) db = .ok (answer, after) →
    answer = result ∧ after = db
  fail : ∀ clock eventID, (rules clock.transaction).commit Fault.error
    (failResume platform clock eventID r) db = .ok (result, db)

/-- A Session moved by Complete was SUSPENDED and takes the state recorded by the
suspend operation whose boundary its candidate consumed. -/
def CompletesToPrior (platform : Platform) (db : Db) : Prop :=
  ∀ clock env now eventID r o result after, (rules clock.transaction).commit Fault.error
      (completeResume platform clock env now eventID r o) db = .ok (result, after) →
    ∀ s ∈ db .sessions, ∀ s' ∈ after .sessions, s'.id = s.id → s' = s ∨
      s.state = .suspended ∧ ∃ row ∈ db .sessionResumeOperations,
        row.operationID = r.request.operationID ∧ row.sessionID = s.id ∧
        ∃ boundary ∈ db .sessionSuspendOperations, Consumes boundary row ∧
          s'.state = boundary.priorState

/-! ### Rows of the resume journal -/

/-- What may become of a journal row: its identity stays, and so does an outcome. -/
structure Evolves (row row' : ResumeOperationRow) : Prop where
  identity : { row' with
    state := row.state, result := row.result, observation := row.observation
    cleaned := row.cleaned } = row
  outcome : row.state ≠ .resuming → row'.state = row.state ∧ row'.result = row.result
  named : row.result.state = row.state → row'.result.state = row'.state

namespace Evolves
variable {row' row'' : ResumeOperationRow}

theorem refl (row : ResumeOperationRow) : Evolves row row :=
  ⟨rfl, fun _ => ⟨rfl, rfl⟩, id⟩

theorem operationID (evolves : Evolves row row') : row'.operationID = row.operationID := by
  rw [← evolves.identity]

theorem sessionID (evolves : Evolves row row') : row'.sessionID = row.sessionID := by
  rw [← evolves.identity]

theorem checkpointID (evolves : Evolves row row') : row'.checkpointID = row.checkpointID := by
  rw [← evolves.identity]

theorem intent (evolves : Evolves row row') : row'.intent = row.intent := by
  rw [← evolves.identity]

theorem trans (first : Evolves row row') (second : Evolves row' row'') : Evolves row row'' := by
  refine ⟨?_, fun settled => ?_, fun named => second.named (first.named named)⟩
  · have step := congrArg (fun r : ResumeOperationRow => { r with
      state := row.state, result := row.result, observation := row.observation
      cleaned := row.cleaned }) second.identity
    exact step.trans first.identity
  · obtain ⟨state, result⟩ := first.outcome settled
    obtain ⟨state', result'⟩ := second.outcome (state ▸ settled)
    exact ⟨state'.trans state, result'.trans result⟩

theorem consumes {o : SuspendOperationRow} (evolves : Evolves row row') :
    Consumes o row' ↔ Consumes o row := by
  simp only [Consumes, evolves.sessionID, evolves.checkpointID, evolves.intent]

end Evolves

/-- The journal after a call that reserves nothing. -/
structure RowsEvolve (before after : List ResumeOperationRow) : Prop where
  persists : ∀ row ∈ before, ∃ row' ∈ after, Evolves row row'
  origin : ∀ row' ∈ after, ∃ row ∈ before, Evolves row row'

theorem RowsEvolve.refl (rows : List ResumeOperationRow) : RowsEvolve rows rows :=
  ⟨fun row member => ⟨row, member, .refl row⟩, fun row member => ⟨row, member, .refl row⟩⟩

theorem RowsEvolve.of_updated {rows : List ResumeOperationRow} {selects : ResumeOperationRow → Bool}
    {set : ResumeOperationRow → ResumeOperationRow}
    (evolves : ∀ row ∈ rows, selects row = true → Evolves row (set row)) :
    RowsEvolve rows (updated selects set rows) := by
  refine ⟨fun row member => ?_, fun row' member => ?_⟩
  · cases selected : selects row with
    | true => exact ⟨set row, mem_updated.mpr ⟨row, member, .inl ⟨selected, rfl⟩⟩,
        evolves row member selected⟩
    | false => exact ⟨row, mem_updated.mpr ⟨row, member, .inr ⟨selected, rfl⟩⟩, .refl row⟩
  · obtain ⟨row, old, ⟨selected, rfl⟩ | ⟨-, rfl⟩⟩ := mem_updated.mp member
    · exact ⟨row, old, evolves row old selected⟩
    · exact ⟨row', old, .refl row'⟩

/-! ### The invariant -/

/-- A row agrees with the intent it stores. -/
structure Coherent (platform : Platform) (row : ResumeOperationRow) : Prop where
  operation : row.operationID = row.intent.request.request.operationID
  session : row.sessionID = row.intent.request.request.sessionID
  request : row.requestDigest = row.intent.request.digest platform
  intent : row.intentDigest = row.intent.digest platform
  valid : row.intent.request.validate = .ok ()
  named : row.result.state = row.state

/-- The boundary a row consumed recorded the state the row aims at. -/
def FromBoundary (db : Db) (row : ResumeOperationRow) : Prop :=
  ∃ o ∈ db .sessionSuspendOperations, Consumes o row ∧
    targetState o.priorState = some row.intent.targetState

/-- No Session falls behind a candidate prepared on it. -/
def Reached (db : Db) : Prop :=
  ∀ row ∈ db .sessionResumeOperations, ∀ s ∈ db .sessions, s.id = row.sessionID →
    row.intent.version ≤ s.stateVersion

structure Journalled (platform : Platform) (db : Db) : Prop where
  sound : Sound db
  settled : Settled db
  coherent : ∀ row ∈ db .sessionResumeOperations, Coherent platform row
  boundary : ∀ row ∈ db .sessionResumeOperations, FromBoundary db row
  reached : Reached db
  singleUse : ∀ a ∈ db .sessionResumeOperations, ∀ b ∈ db .sessionResumeOperations,
    a.sessionID = b.sessionID → a.intent.version = b.intent.version →
    a.operationID = b.operationID

theorem NeverSuspended.journalled {platform : Platform} {db : Db} (start : NeverSuspended db) :
    Journalled platform db where
  sound := start.sound
  settled := start.settled
  coherent := by simp [start.resumes]
  boundary := by simp [start.resumes]
  reached := by simp [Reached, start.resumes]
  singleUse := by simp [start.resumes]

/-- What one committed call does to the journals. -/
inductive JournalStep (platform : Platform) (db after : Db) : Prop
  | evolve (suspends : db .sessionSuspendOperations ⊆ after .sessionSuspendOperations)
      (rows : RowsEvolve (db .sessionResumeOperations) (after .sessionResumeOperations))
      (reached : Reached db → Reached after)
  | reserve (row : ResumeOperationRow) (s : SessionRow) (now : Time) (present : s ∈ db .sessions)
      (session : s.id = row.sessionID)
      (suspends : after .sessionSuspendOperations = db .sessionSuspendOperations)
      (rows : after .sessionResumeOperations = db .sessionResumeOperations ++ [row])
      (sessions : after .sessions =
        updated (·.id = row.sessionID) (raiseVersion now) (db .sessions))
      (version : row.intent.version = s.stateVersion + 1) (coherent : Coherent platform row)
      (boundary : FromBoundary db row)

section Step
variable {platform : Platform} {db after : Db}

theorem Coherent.evolve {row' : ResumeOperationRow} (coherent : Coherent platform row)
    (evolves : Evolves row row') : Coherent platform row' := by
  have named := evolves.named coherent.named
  obtain ⟨identity, -, -⟩ := evolves
  obtain ⟨operation, session, request, intent, valid, -⟩ := coherent
  rw [← identity] at operation session request intent valid
  exact ⟨operation, session, request, intent, valid, named⟩

theorem FromBoundary.evolve {row' : ResumeOperationRow}
    (suspends : db .sessionSuspendOperations ⊆ after .sessionSuspendOperations)
    (evolves : Evolves row row') (boundary : FromBoundary db row) : FromBoundary after row' := by
  obtain ⟨o, member, consumes, target⟩ := boundary
  exact ⟨o, suspends member, evolves.consumes.mpr consumes, evolves.intent ▸ target⟩

/-- The new candidate is one version ahead of every older one. -/
theorem reserved_ahead (reached : Reached db) {old : ResumeOperationRow} {s : SessionRow}
    (present : s ∈ db .sessions) (session : s.id = row.sessionID)
    (version : row.intent.version = s.stateVersion + 1) (member : old ∈ db .sessionResumeOperations)
    (same : old.sessionID = row.sessionID) : old.intent.version < row.intent.version := by
  have behind := reached old member s present (session.trans same.symm)
  omega

theorem journalStep_keeps (before : Journalled platform db) (step : JournalStep platform db after)
    (sound : Sound after) (settled : Settled after) : Journalled platform after := by
  cases step with
  | evolve suspends rows reached =>
    refine ⟨sound, settled, fun row' member => ?_, fun row' member => ?_, reached before.reached,
      fun a' ha b' hb session version => ?_⟩
    · obtain ⟨row, old, evolves⟩ := rows.origin row' member
      exact (before.coherent row old).evolve evolves
    · obtain ⟨row, old, evolves⟩ := rows.origin row' member
      exact (before.boundary row old).evolve suspends evolves
    · obtain ⟨a, ha, fromA⟩ := rows.origin a' ha
      obtain ⟨b, hb, fromB⟩ := rows.origin b' hb
      rw [fromA.sessionID, fromB.sessionID] at session
      rw [fromA.intent, fromB.intent] at version
      rw [fromA.operationID, fromB.operationID]
      exact before.singleUse a ha b hb session version
  | reserve row s now present session suspends rows sessions version coherent boundary =>
    have same : db .sessionSuspendOperations ⊆ after .sessionSuspendOperations := by
      rw [suspends]
      exact List.Subset.refl _
    refine ⟨sound, settled, ?_, ?_, ?_, ?_⟩
    · rw [rows]
      simpa [or_imp, forall_and] using ⟨before.coherent, coherent⟩
    · intro row' member
      rw [rows, List.mem_append, List.mem_singleton] at member
      rcases member with old | rfl
      · exact (before.boundary row' old).evolve same (.refl _)
      · exact boundary.evolve same (.refl _)
    · -- The Session of the new candidate was raised to the candidate's version.
      intro row' member s' member' belongs
      rw [rows, List.mem_append, List.mem_singleton] at member
      rw [sessions] at member'
      obtain ⟨s₀, old, ⟨-, rfl⟩ | ⟨other, rfl⟩⟩ := mem_updated.mp member'
      · rcases member with older | rfl
        · exact Nat.le_succ_of_le (before.reached row' older s₀ old belongs)
        · obtain rfl := before.sound.session_eq old present (belongs.trans session.symm)
          exact version.le
      · rcases member with older | rfl
        · exact before.reached row' older s' old belongs
        · simp [belongs] at other
    · intro a ha b hb belongs version'
      rw [rows, List.mem_append, List.mem_singleton] at ha hb
      rcases ha with ha | rfl <;> rcases hb with hb | rfl
      · exact before.singleUse a ha b hb belongs version'
      · exact absurd version' (reserved_ahead before.reached present session version ha belongs).ne
      · exact absurd version'.symm
          (reserved_ahead before.reached present session version hb belongs.symm).ne
      · rfl

/-- Raising versions keeps Sessions ahead of their candidates. -/
theorem reached_of_updated {selects : SessionRow → Bool} {set : SessionRow → SessionRow}
    (rows : RowsEvolve (db .sessionResumeOperations) (after .sessionResumeOperations))
    (sessions : after .sessions = updated selects set (db .sessions))
    (keeps : ∀ s, (set s).id = s.id ∧ s.stateVersion ≤ (set s).stateVersion)
    (reached : Reached db) : Reached after := by
  intro row' member s' member' belongs
  obtain ⟨row, old, evolves⟩ := rows.origin row' member
  rw [evolves.sessionID] at belongs
  rw [evolves.intent]
  rw [sessions] at member'
  obtain ⟨s, present, ⟨-, rfl⟩ | ⟨-, rfl⟩⟩ := mem_updated.mp member'
  · exact (reached row old s present ((keeps s).1.symm.trans belongs)).trans (keeps s).2
  · exact reached row old s' present belongs

theorem reached_of_same
    (rows : RowsEvolve (db .sessionResumeOperations) (after .sessionResumeOperations))
    (same : after .sessions = db .sessions) (reached : Reached db) : Reached after := by
  intro row' member s member' belongs
  obtain ⟨row, old, evolves⟩ := rows.origin row' member
  rw [evolves.intent]
  exact reached row old s (same ▸ member') (evolves.sessionID ▸ belongs)

end Step

/-! ### The calls -/

section Calls
variable {platform : Platform} {clock : Clock} {txNow : Time} {db after : Db}

theorem JournalStep.same : JournalStep platform db db :=
  .evolve (List.Subset.refl _) (.refl _) id

/-- Only the resume journal moved. -/
theorem JournalStep.of_rows
    (suspends : after .sessionSuspendOperations = db .sessionSuspendOperations)
    (rows : RowsEvolve (db .sessionResumeOperations) (after .sessionResumeOperations))
    (reached : Reached db → Reached after) : JournalStep platform db after :=
  .evolve (fun _ member => suspends ▸ member) rows reached

theorem suspend_journal {env : SuspendEnvironment} {r : App.SuspendRequest}
    {result : App.SuspendResult}
    (success : (suspend platform clock env r).run (rules txNow).execute db =
      .ok (result, after)) : JournalStep platform db after := by
  obtain ⟨s, -, rfl | suspended⟩ := suspend_effects success
  · exact .same
  obtain ⟨_, operations⟩ := suspended.operations
  obtain ⟨now, sessions⟩ := suspended.sessions
  have rows : RowsEvolve (db .sessionResumeOperations) (after .sessionResumeOperations) := by
    rw [suspended.others _ rfl]
    exact .refl _
  refine .evolve ?_ rows (reached_of_updated rows sessions fun s => ⟨rfl, Nat.le_succ _⟩)
  rw [operations]
  exact List.subset_append_left ..

theorem reservedOperation_coherent {i : App.ResumeIntent} (valid : i.request.validate = .ok ()) :
    Coherent platform (reservedOperation platform now i) :=
  ⟨rfl, rfl, rfl, rfl, valid, rfl⟩

theorem prepareResume_journal {env : ResumeEnvironment} {ids : ResumeIDs}
    {answer : App.ResumeIntent × App.ResumeResult}
    (success : (prepareResume platform clock env now ids eventID r).run (rules txNow).execute db =
      .ok (answer, after)) : JournalStep platform db after := by
  obtain ⟨i, result⟩ := answer
  obtain ⟨s, found, ⟨_, -, -, -, -, rfl⟩ | ⟨-, reserved, -⟩⟩ := prepareResume_effects success
  · exact .same
  obtain ⟨valid, suspended, rfl, version, ⟨o, committed, session, checkpoint, at_, target⟩, -,
    ⟨written, rows⟩, -, ⟨raised, sessions⟩, others⟩ := reserved
  refine .reserve _ s raised (List.mem_of_find?_eq_some found) ?_ (others _ rfl) rows sessions
    version (reservedOperation_coherent valid) ⟨o, committed, ⟨?_, ?_, ?_⟩, target⟩
  · have key := List.find?_some found
    exact of_decide_eq_true key
  · exact session.symm
  · exact checkpoint.symm
  · exact version.trans (congrArg (· + 1) at_.symm)

/-- Settling the operation a RESUMING row belongs to. -/
theorem settle_evolves {r : App.SuspendRequest}
    {seen : ResumeOperationRow → Option App.ResumeObservation} (before : Journalled platform db)
    (saved : resumeFind db r = some row) (pending : row.result.state = .resuming) :
    RowsEvolve (db .sessionResumeOperations) (updated (·.operationID = r.operationID)
      (fun row => settleOperation result (seen row) row) (db .sessionResumeOperations)) := by
  refine .of_updated fun other member selected => ?_
  have key := List.find?_some saved
  simp only [Bool.and_eq_true, decide_eq_true_eq] at key selected
  have present := List.mem_of_find?_eq_some saved
  obtain rfl := before.sound.resume_eq member present (selected.trans key.1.symm)
  have resuming := (before.coherent _ member).named.symm.trans pending
  exact ⟨rfl, fun settled => absurd resuming settled, fun _ => rfl⟩

theorem completeResume_journal {env : ResumeEnvironment} {o : App.ResumeObservation}
    (before : Journalled platform db)
    (success : (completeResume platform clock env now eventID r o).run (rules txNow).execute db =
      .ok (result, after)) : JournalStep platform db after := by
  obtain ⟨s, row, -, saved, -, ⟨-, -, rfl⟩ | ⟨pending, completed⟩⟩ :=
    completeResume_effects success
  · exact .same
  obtain ⟨-, -, ⟨seen, operations⟩, ⟨_, _, -, sessions⟩, others⟩ := completed
  have rows : RowsEvolve (db .sessionResumeOperations) (after .sessionResumeOperations) :=
    operations ▸ settle_evolves before saved pending
  exact .of_rows (others _ rfl) rows
    (reached_of_updated rows sessions fun s => ⟨rfl, Nat.le_succ _⟩)

theorem failResume_journal (before : Journalled platform db)
    (success : (failResume platform clock eventID r).run (rules txNow).execute db =
      .ok (result, after)) : JournalStep platform db after := by
  obtain ⟨s, row, -, saved, -, ⟨-, -, rfl⟩ | ⟨pending, abandoned⟩⟩ := failResume_effects success
  · exact .same
  obtain ⟨-, operations, sessions, others⟩ := abandoned
  have rows : RowsEvolve (db .sessionResumeOperations) (after .sessionResumeOperations) :=
    operations ▸ settle_evolves before saved pending
  refine .of_rows (others _ rfl) rows ?_
  obtain ⟨-, _, sessions⟩ | same := sessions
  · exact reached_of_updated rows sessions fun s => ⟨rfl, Nat.le_succ _⟩
  · exact reached_of_same rows same

theorem cleanedResume_journal {operationID : ID} {u : Unit}
    (success : (cleanedResume platform clock operationID).run (rules txNow).execute db =
      .ok (u, after)) (before : Journalled platform db) : JournalStep platform db after := by
  obtain rfl | ⟨row, present, rfl, degraded, -, -, operations, others⟩ :=
    cleanedResume_effects success
  · exact .same
  have rows : RowsEvolve (db .sessionResumeOperations) (after .sessionResumeOperations) := by
    rw [operations]
    refine .of_updated fun other member selected => ?_
    exact ⟨rfl, fun _ => ⟨rfl, rfl⟩, id⟩
  exact .of_rows (others _ rfl) rows
    (reached_of_same rows (others .sessions rfl))

/-- Statement by statement, other work keeps both journals and lowers no version. -/
theorem leavesJournals_step {c : Stmt} {n : Nat} (leaves : LeavesJournals c)
    (sound : Sound db) (reached : Reached db)
    (accepted : (rules txNow).execute c db = .ok (n, after)) :
    Reached after ∧ after .sessionSuspendOperations = db .sessionSuspendOperations ∧
      after .sessionResumeOperations = db .sessionResumeOperations := by
  have tables : c.table ≠ .sessionSuspendOperations ∧ c.table ≠ .sessionResumeOperations := by
    unfold LeavesJournals at leaves
    split at leaves
    · exact ⟨by simp [Statement.table], by simp [Statement.table]⟩
    · exact leaves
  have resumes := execute_other accepted tables.2.symm (by simp [touches])
  refine ⟨?_, execute_other accepted tables.1.symm (by simp [touches]), resumes⟩
  intro row member s present belongs
  rw [resumes] at member
  cases origin accepted (by decide) present with
  | kept old => exact reached row member s old belongs
  | inserted _ =>
    -- The Session of the row is there already, so the key lets no other one in.
    obtain ⟨s₀, old, same⟩ := sound.resume_session member
    have kept : s₀ ∈ after .sessions := by
      rw [execute_insert_rows accepted]
      exact List.mem_append_left _ old
    obtain rfl := (execute_sound accepted).session_eq kept present (same.trans belongs.symm)
    exact reached row member s₀ old belongs
  | written old _ trigger =>
    exact (reached row member _ old ((session_identity trigger).1.symm.trans belongs)).trans
      (leaves _)

theorem other_journal {α : Type} {x : Transaction α} {a : α} (leaves : x.Submits LeavesJournals)
    (before : Journalled platform db)
    (success : x.run (rules txNow).execute db = .ok (a, after)) :
    JournalStep platform db after := by
  obtain ⟨-, reached, suspends, resumes⟩ := Tx.run_preserves
    (I := fun d => Sound d ∧ Reached d ∧
      d .sessionSuspendOperations = db .sessionSuspendOperations ∧
      d .sessionResumeOperations = db .sessionResumeOperations)
    (fun _ _ _ _ leaves ⟨sound, reached, suspends, resumes⟩ accepted =>
      have ⟨reached', suspends', resumes'⟩ := leavesJournals_step leaves sound reached accepted
      ⟨execute_sound accepted, reached', suspends'.trans suspends, resumes'.trans resumes⟩)
    leaves ⟨before.sound, before.reached, rfl, rfl⟩ success
  exact .of_rows suspends (resumes ▸ .refl _) fun _ => reached

/-- One case for each call. -/
theorem ProtocolCall.journal {α : Type} {x : Transaction α} {a : α}
    (call : ProtocolCall platform now x) (before : Journalled platform db)
    (success : x.run (rules now).execute db = .ok (a, after)) : JournalStep platform db after := by
  cases call with
  | suspend => exact suspend_journal success
  | prepare => exact prepareResume_journal success
  | complete => exact completeResume_journal before success
  | fail => exact failResume_journal before success
  | cleaned => exact cleanedResume_journal success before
  | other _ _ leaves => exact other_journal leaves before success

end Calls

/-! ### Whole runs -/

section Runs
variable {platform : Platform} {db later : Db}

theorem protocolStep_journal (before : Journalled platform db)
    (step : ProtocolStep platform db later) :
    JournalStep platform db later ∧ Journalled platform later := by
  obtain ⟨α, now, x, a, call, committed⟩ := step
  obtain ⟨ran, checked⟩ := Rules.commit_ok.mp committed
  have journal := call.journal before ran
  exact ⟨journal, journalStep_keeps before journal (commit_sound before.sound committed)
    (deferred_ok.mp checked)⟩

theorem JournalStep.persists (step : JournalStep platform db later)
    (member : row ∈ db .sessionResumeOperations) :
    ∃ row' ∈ later .sessionResumeOperations, Evolves row row' := by
  cases step with
  | evolve _ rows _ => exact rows.persists row member
  | reserve _ _ _ _ _ _ rows => exact ⟨row, by simp [rows, member], .refl row⟩

/-- The invariant holds along a run, and no row is lost on the way. -/
theorem protocolRun_journal (before : Journalled platform db)
    (run : ProtocolRun platform db later) : Journalled platform later ∧
      ∀ row ∈ db .sessionResumeOperations, ∃ row' ∈ later .sessionResumeOperations,
        Evolves row row' := by
  induction run with
  | refl => exact ⟨before, fun row member => ⟨row, member, .refl row⟩⟩
  | tail _ step ih =>
    obtain ⟨journal, after⟩ := protocolStep_journal ih.1 step
    refine ⟨after, fun row member => ?_⟩
    obtain ⟨row', middle, first⟩ := ih.2 row member
    obtain ⟨row'', last, second⟩ := journal.persists middle
    exact ⟨row'', last, first.trans second⟩

/-! ### Replays -/

/-- The lookups a call with a recorded request makes. -/
theorem Journalled.lookup (journalled : Journalled platform db)
    (member : row ∈ db .sessionResumeOperations) :
    (∃ s, (db .sessions).find? (·.id = row.intent.request.request.sessionID) = some s) ∧
      resumeFind db row.intent.request.request = some row ∧
      Loads platform row.intent.request row := by
  have coherent := journalled.coherent row member
  obtain ⟨s, present, session⟩ := journalled.sound.resume_session member
  refine ⟨⟨s, find?_eq_of_only present (by simp [session, coherent.session])
    fun t other same => ?_⟩,
    find?_eq_of_only member (by simp [coherent.operation, coherent.session]) fun o other same => ?_,
    coherent.request, coherent.intent.symm, coherent.request.symm⟩
  · rw [← coherent.session, decide_eq_true_eq] at same
    exact journalled.sound.session_eq other present (same.trans session.symm)
  · simp only [Bool.and_eq_true, decide_eq_true_eq] at same
    exact journalled.sound.resume_eq other member (same.1.trans coherent.operation.symm)

section Replay
variable {clock : Clock} {env : ResumeEnvironment} {txNow now : Time} {eventID : ID}
  {r : App.ResumeRequest} {s : SessionRow} {row : ResumeOperationRow}
  (valid : r.validate = .ok ()) (found : (db .sessions).find? (·.id = r.request.sessionID) = some s)
  (saved : resumeFind db r.request = some row) (loads : Loads platform r row)
  (settled : row.result.state ≠ .resuming)
include valid found saved loads settled

theorem prepareResume_replays (access : env.access r = true) {ids : ResumeIDs} :
    (prepareResume platform clock env now ids eventID r).run (rules txNow).execute db =
      .ok ((row.intent, row.result), db) := by
  simp only [prepareResume, Tx.run_bind, Tx.run_lift, Tx.run_require, Tx.run_get, run_queryRow]
  refine ⟨(), db, ⟨valid, rfl⟩, (), db, ⟨access, rfl⟩, db, db, ⟨rfl, rfl⟩, s, db, ⟨found, rfl⟩, ?_⟩
  simp only [saved, Tx.run_bind, Tx.run_onlyIf, Tx.run_pure]
  exact ⟨(row.intent, row.result), db, run_resumeLoad.mpr ⟨loads, rfl, rfl, rfl⟩, (), db,
    .inr ⟨settled, rfl⟩, rfl, rfl⟩

theorem completeResume_replays (access : env.access r = true) {o : App.ResumeObservation} :
    (completeResume platform clock env now eventID r o).run (rules txNow).execute db =
      .ok (row.result, db) := by
  simp only [completeResume, Tx.run_bind, Tx.run_lift, Tx.run_require, Tx.run_get, run_queryRow,
    Prod.exists]
  refine ⟨(), db, ⟨valid, rfl⟩, (), db, ⟨access, rfl⟩, db, db, ⟨rfl, rfl⟩, s, db, ⟨found, rfl⟩,
    row, db, ⟨saved, rfl⟩, row.intent, row.result, db,
    run_resumeLoad.mpr ⟨loads, rfl, rfl, rfl⟩, ?_⟩
  rw [if_pos settled]
  exact Tx.run_pure.mpr ⟨rfl, rfl⟩

theorem failResume_replays :
    (failResume platform clock eventID r).run (rules txNow).execute db =
      .ok (row.result, db) := by
  simp only [failResume, Tx.run_bind, Tx.run_lift, Tx.run_get, run_queryRow, Prod.exists]
  refine ⟨(), db, ⟨valid, rfl⟩, db, db, ⟨rfl, rfl⟩, s, db, ⟨found, rfl⟩, row, db, ⟨saved, rfl⟩,
    row.intent, row.result, db, run_resumeLoad.mpr ⟨loads, rfl, rfl, rfl⟩, ?_⟩
  rw [if_pos settled]
  exact Tx.run_pure.mpr ⟨rfl, rfl⟩

end Replay

theorem Journalled.answers (journalled : Journalled platform db)
    (member : row ∈ db .sessionResumeOperations) (ended : row.state ≠ .resuming) :
    Answers platform db row.intent.request row.result := by
  obtain ⟨⟨s, found⟩, saved, loads⟩ := journalled.lookup member
  have coherent := journalled.coherent row member
  have settled : row.result.state ≠ .resuming := coherent.named ▸ ended
  have checked : ∀ now, (rules now).deferred db = .ok () := fun _ =>
    deferred_ok.mpr journalled.settled
  constructor
  case prepare =>
    intro clock env now ids eventID access
    exact ⟨row.intent, Rules.commit_ok.mpr
      ⟨prepareResume_replays coherent.valid found saved loads settled access, checked _⟩⟩
  case prepared =>
    intro clock env now ids eventID i answer after committed
    obtain ⟨_, -, ⟨row', saved', -, -, rfl, rfl⟩ | ⟨missing, -⟩⟩ :=
      prepareResume_effects (Rules.commit_ok.mp committed).1
    · cases saved.symm.trans saved'
      exact ⟨rfl, rfl⟩
    · cases saved.symm.trans missing
  case complete =>
    intro clock env now eventID o access
    exact Rules.commit_ok.mpr
      ⟨completeResume_replays coherent.valid found saved loads settled access, checked _⟩
  case completed =>
    intro clock env now eventID o answer after committed
    obtain ⟨_, row', -, saved', -, ⟨-, rfl, rfl⟩ | ⟨pending, -⟩⟩ :=
      completeResume_effects (Rules.commit_ok.mp committed).1
    · cases saved.symm.trans saved'
      exact ⟨rfl, rfl⟩
    · cases saved.symm.trans saved'
      exact absurd pending settled
  case fail =>
    intro clock eventID
    exact Rules.commit_ok.mpr
      ⟨failResume_replays coherent.valid found saved loads settled, checked _⟩

/-! ### The protocol's guarantee -/

theorem targetState_session {prior : Session.State} {target : App.ResumeState}
    (recorded : targetState prior = some target) : sessionState target = some prior := by
  cases prior <;> simp_all [targetState] <;> subst recorded <;> rfl

theorem Journalled.completesToPrior (journalled : Journalled platform db) :
    CompletesToPrior platform db := by
  intro clock env now eventID r o result after committed s member s' member' same
  obtain ⟨s₀, row, found, saved, -, ⟨-, -, rfl⟩ | ⟨-, completed⟩⟩ :=
    completeResume_effects (Rules.commit_ok.mp committed).1
  · exact .inl (journalled.sound.session_eq member' member same)
  obtain ⟨state, time, target, sessions⟩ := completed.sessions
  rw [sessions] at member'
  obtain ⟨old, present, ⟨selected, rfl⟩ | ⟨-, rfl⟩⟩ := mem_updated.mp member'
  · obtain rfl := journalled.sound.session_eq present member same
    have key := List.find?_some found
    have key' := List.find?_some saved
    simp only [Bool.and_eq_true, decide_eq_true_eq] at key key' selected
    obtain rfl := journalled.sound.session_eq present (List.mem_of_find?_eq_some found)
      (selected.trans key.symm)
    have unchanged := completed.unchanged
    simp only [unchangedSince, Bool.and_eq_true, decide_eq_true_eq] at unchanged
    have stored := List.mem_of_find?_eq_some saved
    obtain ⟨boundary, recorded, consumes, prior⟩ := journalled.boundary row stored
    refine .inr ⟨unchanged.1.1.1.1, row, stored, key'.1, key'.2.trans key.symm, boundary, recorded,
      consumes, ?_⟩
    exact Option.some.inj (target.symm.trans (targetState_session prior))
  · exact .inl (journalled.sound.session_eq present member same)

theorem Journalled.oneOutstanding (journalled : Journalled platform db) : OneOutstanding db := by
  have candidate : ∀ row, Outstanding row → row.isCandidate = true := by
    intro row outstanding
    simpa [Outstanding, ResumeOperationRow.isCandidate] using outstanding
  intro a ha b hb outA outB same
  exact journalled.sound.candidate_unique.eq ha hb (candidate a outA) (candidate b outB) same

/-- In every store a run reaches, a Session has at most one outstanding candidate, and Complete
returns it to the state its boundary recorded. From there on no other operation consumes a
boundary that was consumed, and the outcome of a settled operation is kept and is what every
call with its request answers. -/
theorem suspend_resume_protocol {initial : Db} (start : NeverSuspended initial)
    (run : ProtocolRun platform initial db) :
    OneOutstanding db ∧ CompletesToPrior platform db ∧
      ∀ later, ProtocolRun platform db later → ConsumedOnce db later ∧
        ∀ row ∈ db .sessionResumeOperations, row.state ≠ .resuming → OutcomeKept row later ∧
          Answers platform later row.intent.request row.result := by
  have journalled := (protocolRun_journal start.journalled run).1
  refine ⟨journalled.oneOutstanding, journalled.completesToPrior, fun later rest => ?_⟩
  obtain ⟨after, persists⟩ := protocolRun_journal journalled rest
  refine ⟨fun o committed row member consumes row' member' consumes' => ?_,
    fun row member ended => ?_⟩
  · -- The first consumer is still on record, at the same version as the second.
    obtain ⟨kept, present, evolves⟩ := persists row member
    have again := evolves.consumes.mpr consumes
    rw [← evolves.operationID]
    exact after.singleUse row' member' kept present (consumes'.1.trans again.1.symm)
      (consumes'.2.2.trans again.2.2.symm)
  · obtain ⟨kept, present, evolves⟩ := persists row member
    obtain ⟨state, result⟩ := evolves.outcome ended
    refine ⟨⟨kept, present, evolves.operationID, state, result⟩, ?_⟩
    rw [← result, ← evolves.intent]
    exact after.answers present (state ▸ ended)

end Runs

/-! ### A suspension -/

namespace Sample

def generationRow (id : ID) (generation : Nat) (parent : Option (ID × Nat)) :
    WorkspaceGenerationRow :=
  { id, workspaceID := ID.v7 20, sessionID := ID.v7 2, generation, parentID := parent.map (·.1)
    parentGeneration := parent.map (·.2), operationID := id
    providerSnapshotReference := some "snapshot", integrityAlgorithm := "sha-256"
    integrityRoot := digest, manifestDigest := digest, logicalBytes := 0, logicalFiles := 0
    creatorExecutionID := none, creatorAttemptID := none, creatorExecutionGeneration := none
    storageEvidence := "\x7b\"a\":1\x7d", storageEvidenceDigest := digest
    retentionDisposition := "retain", createdAt := 1 }

def checkpointOperation : CheckpointOperationRow :=
  { operationID := ID.v7 22, workspaceID := ID.v7 20, sessionID := ID.v7 2
    request :=
      { sessionID := ID.v7 2, workspaceID := ID.v7 20, operation := ⟨ID.v7 22, some digest⟩
        parentID := ID.v7 21, parentGeneration := 0, sessionGeneration := 0, executionID := none
        attemptID := none, attachmentID := none, configurationDigest := some digest }
    requestDigest := digest, priorState := .ready, state := .committed
    proof := some
      { snapshotReference := "snapshot", integrityAlgorithm := "sha-256"
        integrityRoot := some digest, manifestDigest := some digest, logicalBytes := 0
        logicalFiles := 0, evidence := "\x7b\"a\":1\x7d" }
    proofDigest := some digest }

def workspace : WorkspaceRow :=
  { id := ID.v7 20, sessionID := ID.v7 2, state := .ready, stateVersion := 2
    providerKind := "kubernetes", providerReference := "volume", storageProfile := "standard"
    configDigest := digest, createOperationID := ID.v7 24, retentionDisposition := "retain"
    currentGeneration := some 1, currentWorkspaceGenerationID := some (ID.v7 22)
    currentAttachmentID := none, createdAt := 1, updatedAt := 1, deletedAt := none }

def checkpoint : CheckpointRow :=
  { id := ID.v7 23
    binding :=
      { sessionID := ID.v7 2, workspaceID := ID.v7 20, workspaceGenerationID := ID.v7 22
        workspaceGeneration := 1, operationID := ID.v7 25, parentCheckpointID := none
        purpose := .suspend, runtimeSpecID := "spec"
        runtimeSpecDigest := Checkpoint.appDigest digest, adapterKind := "adapter"
        adapterVersion := "1", adapterBuildDigest := Checkpoint.appDigest digest
        protocolName := "protocol", protocolVersion := "1", stateFormatName := "format"
        stateFormatVersion := "1", runtimeProfileDigest := Checkpoint.appDigest digest
        retentionDisposition := "retain" }
    state := .creating, stateVersion := 0, integrity := none, createdAt := 1, updatedAt := 1
    committedAt := none, deletedAt := none, publicationRequestDigest := none }

/-- A READY Session at the checkpoint of its detached workspace. -/
def stored : Db := fun
  | .sessions =>
    [{ session with currentExecutionID := none, currentCheckpointID := some (ID.v7 23) }]
  | .workspaces => [workspace]
  | .workspaceGenerations =>
    [generationRow (ID.v7 21) 0 none, generationRow (ID.v7 22) 1 (some (ID.v7 21, 0))]
  | .workspaceCheckpointOperations => [checkpointOperation]
  | .checkpoints => [checkpoint]
  | t => Db.empty t

/-- Every reading is a tick later. -/
def clock (now : Time) : Clock := { transaction := now, reading := fun n => now + n }

def request : App.SuspendRequest :=
  { caller := { principalDigest := some digest }, sessionID := ID.v7 2, operationID := ID.v7 30
    checkpointID := ID.v7 23, expectedVersion := 1 }

def suspension : Transaction App.SuspendResult :=
  suspend platform (clock 10)
    { access := fun _ => true, verify := fun _ _ => true, validate := fun _ _ => .ok ()
      releases := id } request

theorem stored_neverSuspended : NeverSuspended stored :=
  ⟨by decide +kernel, by decide +kernel, rfl, rfl⟩

namespace Resumption

/-- The request of the only candidate, at the version the suspension left. -/
def resumes : App.ResumeRequest :=
  ⟨{ request with operationID := ID.v7 31, expectedVersion := 2 }⟩

def environment : ResumeEnvironment :=
  { access := fun _ => true, policy := fun _ => true, ready := fun _ _ => .ok ()
    validate := fun _ _ => .ok () }

def candidate : ResumeIDs := { sandbox := ID.v7 32, bootstrap := ID.v7 33, attachment := ID.v7 34 }

def observation : App.ResumeObservation :=
  { sandboxReference := "sandbox", attachmentReference := "attachment"
    evidenceDigest := some digest }

def preparation : Transaction (App.ResumeIntent × App.ResumeResult) :=
  prepareResume platform (clock 20) environment 20 candidate (ID.v7 35) resumes

def completion : Transaction App.ResumeResult :=
  completeResume platform (clock 30) environment 30 (ID.v7 36) resumes observation

/-- The candidate consumed the boundary of version 2. -/
def isPrepared (db : Db) : Bool :=
  (db .sessionSuspendOperations).map (·.stateVersion) = [2] &&
    (db .sessionResumeOperations).map (fun row => (row.state, row.intent.version)) =
      [(.resuming, 3)]

def isResumed (db : Db) : Bool :=
  (db .sessionResumeOperations).map (·.state) = [.ready] &&
    (db .sessions).map (·.state) = [.ready]

def suspended : Db := outcome 10 suspension stored

def prepared : Db := outcome 20 preparation suspended

def resumed : Db := outcome 30 completion prepared

theorem commits : commitsOn 10 suspension stored (fun _ => true) = true ∧
    commitsOn 20 preparation suspended isPrepared = true ∧
    commitsOn 30 completion prepared isResumed = true :=
  ⟨by decide +kernel, by decide +kernel, by decide +kernel⟩

end Resumption

end Sample

open Sample.Resumption

theorem suspend_resume_protocol_resumed :
    ProtocolRun Sample.platform Sample.stored prepared ∧
    ProtocolRun Sample.platform prepared resumed ∧ isPrepared prepared = true ∧
    isResumed resumed = true ∧ OneOutstanding prepared ∧
    CompletesToPrior Sample.platform prepared ∧ ConsumedOnce prepared resumed ∧
    ∀ row ∈ resumed .sessionResumeOperations, OutcomeKept row resumed ∧
      Answers Sample.platform resumed row.intent.request row.result := by
  obtain ⟨first, second, third⟩ := commits
  obtain ⟨_, suspends, sound, -⟩ := commits_of_commitsOn Sample.stored_neverSuspended.sound first
  obtain ⟨_, prepares, sound, isPrepared⟩ := commits_of_commitsOn sound second
  obtain ⟨_, completes, -, isResumed⟩ := commits_of_commitsOn sound third
  have run : ProtocolRun Sample.platform Sample.stored prepared :=
    .tail (.single ⟨_, _, _, _, .suspend (Sample.clock 10) _ Sample.request, suspends⟩)
      ⟨_, _, _, _, .prepare (Sample.clock 20) environment _ _ _ _, prepares⟩
  have rest : ProtocolRun Sample.platform prepared resumed :=
    .single ⟨_, _, _, _, .complete (Sample.clock 30) environment _ _ _ _, completes⟩
  obtain ⟨one, prior, once⟩ := suspend_resume_protocol Sample.stored_neverSuspended run
  have settled := suspend_resume_protocol Sample.stored_neverSuspended (run.trans rest)
  refine ⟨run, rest, isPrepared, isResumed, one, prior, (once _ rest).1,
    fun row member => (settled.2.2 _ .refl).2 row member ?_⟩
  have states := of_decide_eq_true (Bool.and_eq_true_iff.mp isResumed).1
  have state : row.state ∈ [App.ResumeState.ready] :=
    states ▸ List.mem_map_of_mem member
  rw [List.mem_singleton.mp state]
  decide

end ThinkPixelAR.Guarantees
