import ThinkPixelAR.Guarantees.SingleWriter

/-!
Committed Session changes refine the domain. The SQL of the lifecycle transactions
bypasses `session.Transition`; each change it makes is shown to be one step of the
domain, or to raise the version alone, whatever committed before it.
-/
namespace ThinkPixelAR.Guarantees

open Relational Postgres
open Session (restore admission transition canTransition allowed)

variable {db after : Db} {s : SessionRow} {R : SessionRow → SessionRow → Prop} {α : Type}
  {clock : Clock} {now : Time} {eventID : ID} {r : App.ResumeRequest} {platform : Platform}

/-! ### Legal changes -/

/-- Only the version and columns outside the lifecycle changed. -/
def Raises (s s' : SessionRow) : Prop :=
  s'.state = s.state ∧ s'.recoveryState = s.recoveryState ∧
    s'.executionGeneration = s.executionGeneration ∧ s'.stateVersion = s.stateVersion + 1

/-- The change is the one of a successful `Transition` on the loaded Session. -/
def Transitions (s s' : SessionRow) : Prop :=
  ∃ loaded next expected now result, Sessions.restore s = .ok loaded ∧
    loaded.transition next expected now = .ok result ∧ s'.state = result.state ∧
    s'.recoveryState = result.recoveryState ∧
    s'.executionGeneration = result.executionGeneration ∧ s'.stateVersion = result.stateVersion

/-- A Session that is closing is never changed; another one moves as the domain does. -/
def LegalChange (s s' : SessionRow) : Prop :=
  s.state ≠ .closing ∧ s.state ≠ .closed ∧ (Raises s s' ∨ Transitions s s')

/-! ### The transactions -/

def NotSessions (c : Stmt) : Prop := c.table ≠ .sessions

/-- The transactions that change Sessions in place. Activate is one call of a unit
of work whose other calls do not write Sessions. -/
inductive SessionWriter (platform : Platform) : {α : Type} → Time → Transaction α → Prop
  | activate (now : Time) (before after : Transaction Unit) (value : Session) (expected : Nat)
      (executionID : ID) (first : before.Submits NotSessions) (last : after.Submits NotSessions) :
      SessionWriter platform now
        (do before; Sessions.activate value expected executionID; after)
  | suspend (clock : Clock) (env : SuspendEnvironment) (r : App.SuspendRequest) :
      SessionWriter platform clock.transaction (suspend platform clock env r)
  | prepareResume (clock : Clock) (env : ResumeEnvironment) (now : Time) (ids : ResumeIDs)
      (eventID : ID) (r : App.ResumeRequest) :
      SessionWriter platform clock.transaction
        (prepareResume platform clock env now ids eventID r)
  | completeResume (clock : Clock) (env : ResumeEnvironment) (now : Time) (eventID : ID)
      (r : App.ResumeRequest) (o : App.ResumeObservation) :
      SessionWriter platform clock.transaction
        (completeResume platform clock env now eventID r o)
  | failResume (clock : Clock) (eventID : ID) (r : App.ResumeRequest) :
      SessionWriter platform clock.transaction (failResume platform clock eventID r)
  | recordCompute (clock : Clock) (ids : RecoveryIDs) (expected : Sandbox.ComputeIntent)
      (observed : Sandbox.ComputeObservation) :
      SessionWriter platform clock.transaction
        (recordCompute platform clock ids expected observed)
  | recoverExpiredAgentd (clock : Clock) (ids : RecoveryIDs) (id : ID) :
      SessionWriter platform clock.transaction (recoverExpiredAgentd platform clock ids id)
  | replaceDeleted (clock : Clock) (policy : Sandbox.Binding → Sandbox.AcquireRequest → Bool)
      (events : ID × ID) (lost : ID) (resources : Sandbox.ReplacementResources) :
      SessionWriter platform clock.transaction
        (replaceDeleted platform clock policy events lost resources)
  | publish (clock : Clock) (env : PublicationEnvironment) (now : Time) (r : Checkpoint.Request) :
      SessionWriter platform clock.transaction (publish platform clock env now r)

/-- What other transactions must respect: a Session is inserted with an identifier
and a creation time, and keeps its creation time. -/
def KeepsCreation : Stmt → Prop
  | .insert .sessions row => validID row.id = true ∧ row.createdAt ≠ 0
  | .update .sessions _ set => ∀ s : SessionRow, (set s).createdAt = s.createdAt
  | _ => True

/-- One committed transaction: a Session writer, or any other that keeps Sessions
loadable. -/
def SessionStep (platform : Platform) (db after : Db) : Prop :=
  ∃ (α : Type) (now : Time) (x : Transaction α) (result : α),
    (SessionWriter platform now x ∨ x.Submits KeepsCreation) ∧
      (rules now).commit Fault.error x db = .ok (result, after)

/-- The store satisfies the schema and every Session in it can be loaded. -/
structure Loadable (db : Db) : Prop where
  sound : Sound db
  loads : ∀ s ∈ db .sessions, ∃ loaded, Sessions.restore s = .ok loaded

/-! ### Loading -/

theorem restore_ok_iff (sound : Sound db) (member : s ∈ db .sessions) :
    Sessions.restore s = .ok s.toSession ↔ validID s.id = true ∧ s.createdAt ≠ 0 := by
  have check : sessionCheck s = true := sound.check .sessions s member
  have range : inRange .sessions s = true := sound.range .sessions s member
  simp only [sessionCheck, Bool.and_eq_true, decide_eq_true_eq] at check
  obtain ⟨⟨⟨⟨⟨times, closed⟩, after⟩, degraded⟩, notDegraded⟩, notClosed⟩ := check
  simp only [inRange, bigints, List.all_cons, List.all_nil, Bool.and_eq_true,
    decide_eq_true_eq] at range
  obtain ⟨version, generation, -⟩ := range
  have orderly : s.closedAt.any (fun t => decide (t < s.createdAt)) = false := by
    cases h : s.closedAt with
    | none => rfl
    | some t =>
      rw [h] at after
      simpa using after
  unfold Sessions.restore restore
  constructor
  · intro loaded
    split at loaded
    · cases loaded
    next accepted => simp_all
  · rintro ⟨valid, created⟩
    rw [if_neg (by simp [valid, created, times, version, generation]),
      if_neg (by simp [notDegraded, notClosed]), if_neg (by simp [closed, degraded, orderly])]

variable {loaded : Session} {set : SessionRow → SessionRow}

theorem restore_eq (success : Sessions.restore s = .ok loaded) : loaded = s.toSession := by
  unfold Sessions.restore restore at success
  obtain ⟨-, success⟩ := unless_ok.mp success
  split at success
  · cases success
  · obtain ⟨-, success⟩ := unless_ok.mp success
    cases success
    rfl

theorem restore_counters (success : Sessions.restore s = .ok loaded) :
    s.stateVersion ≤ maxInt64 ∧ s.executionGeneration ≤ maxInt64 := by
  unfold Sessions.restore restore at success
  obtain ⟨accepted, success⟩ := unless_ok.mp success
  simp only [Bool.or_eq_true, decide_eq_true_eq, not_or, not_lt] at accepted
  exact ⟨accepted.1.2, accepted.2⟩

theorem Loadable.created (loadable : Loadable db) (member : s ∈ db .sessions) :
    validID s.id = true ∧ s.createdAt ≠ 0 := by
  obtain ⟨loaded, success⟩ := loadable.loads s member
  exact (restore_ok_iff loadable.sound member).mp (restore_eq success ▸ success)

theorem Loadable.restore (loadable : Loadable db) (member : s ∈ db .sessions) :
    Sessions.restore s = .ok s.toSession :=
  (restore_ok_iff loadable.sound member).mpr (loadable.created member)

theorem loadable_iff :
    Loadable db ↔ Sound db ∧ ∀ s ∈ db .sessions, validID s.id = true ∧ s.createdAt ≠ 0 :=
  ⟨fun loadable => ⟨loadable.sound, fun _ member => loadable.created member⟩,
    fun ⟨sound, created⟩ => ⟨sound, fun s member =>
      ⟨s.toSession, (restore_ok_iff sound member).mpr (created s member)⟩⟩⟩

/-! ### One edge of the domain -/

/-- An edge other than an admission, taken with the SQL's columns. -/
theorem transitions_of {s' : SessionRow} (loads : Sessions.restore s = .ok s.toSession)
    (moves : s'.state ≠ s.state) (can : s.toSession.canTransition s'.state = true)
    (room : admission s.state s'.state = true → s.executionGeneration ≠ maxInt64)
    (recovery : s'.recoveryState =
      if s'.state = .degraded then some s.state
      else if s.state = .degraded then none else s.recoveryState)
    (generation : s'.executionGeneration =
      if admission s.state s'.state then s.executionGeneration + 1
      else s.executionGeneration) (version : s'.stateVersion = s.stateVersion + 1) :
    Transitions s s' := by
  obtain ⟨versions, generations⟩ := restore_counters loads
  rw [← increment_eq_of_le versions] at version
  rw [← increment_eq_of_le generations] at generation
  -- any clock after the last change and after the zero time takes the edge
  obtain ⟨now, clock⟩ : ∃ now : Time, ¬ (now = 0 ∨ now < s.updatedAt) := by
    refine ⟨max s.updatedAt 1, ?_⟩
    rintro (zero | earlier)
    · exact absurd (zero ▸ le_max_right s.updatedAt 1) (by decide)
    · exact absurd earlier (not_lt.mpr (le_max_left _ _))
  refine ⟨s.toSession, s'.state, s.stateVersion, now, ?result, loads, ?edge, ?_⟩
  case edge =>
    unfold transition
    rw [if_neg (by simp), if_neg clock, if_neg moves, if_neg (by simp [can]),
      if_neg fun exhausted => room exhausted.1 exhausted.2]
  exact ⟨rfl, recovery, generation, version⟩

/-- Every row after comes from a row before, unchanged or changed by `R`. -/
def Moves (R : SessionRow → SessionRow → Prop) (db after : Db) : Prop :=
  ∀ s' ∈ after .sessions, ∃ s ∈ db .sessions, (s'.id = s.id ∧ s'.createdAt = s.createdAt) ∧
    (s' = s ∨ R s s')

theorem Moves.of_eq (same : after .sessions = db .sessions) : Moves R db after :=
  fun s member => ⟨s, same ▸ member, ⟨rfl, rfl⟩, .inl rfl⟩

theorem Moves.of_updated {selects : SessionRow → Bool}
    (rows : after .sessions = updated selects set (db .sessions))
    (keeps : ∀ s, (set s).id = s.id ∧ (set s).createdAt = s.createdAt)
    (legal : ∀ s ∈ db .sessions, selects s = true → set s ∈ after .sessions → R s (set s)) :
    Moves R db after := by
  intro s' member
  obtain ⟨s, before, ⟨selected, rfl⟩ | ⟨-, rfl⟩⟩ := mem_updated.mp (rows ▸ member)
  · exact ⟨s, before, keeps s, .inr (legal s before selected member)⟩
  · exact ⟨s', before, ⟨rfl, rfl⟩, .inl rfl⟩

/-- The update of the one locked row. -/
theorem Moves.of_locked (sound : Sound db) {id : ID}
    (found : (db .sessions).find? (·.id = id) = some s)
    (rows : after .sessions = updated (·.id = id) set (db .sessions))
    (keeps : ∀ s, (set s).id = s.id ∧ (set s).createdAt = s.createdAt) (legal : R s (set s)) :
    Moves R db after := by
  refine .of_updated rows keeps fun t member selected _ => ?_
  have key := List.find?_some found
  simp only [decide_eq_true_eq] at key selected
  obtain rfl := sound.session_eq member (List.mem_of_find?_eq_some found) (selected.trans key.symm)
  exact legal

/-! ### The writers -/

section Writers
variable {txNow : Time}

variable {a : α} {x : Transaction α} {env : ResumeEnvironment} {result : App.ResumeResult}

/-- Frame: statements on other tables leave the Sessions alone. -/
theorem run_notSessions (quiet : x.Submits NotSessions)
    (success : x.run (rules txNow).execute db = .ok (a, after)) : after .sessions = db .sessions :=
  Rules.run_frame (rules_confined txNow)
    (quiet.mono fun _ other => ⟨fun same => other same.symm, by simp [touches]⟩) success

/-- The generation Activate writes still fits its column. -/
theorem generation_fits (sound : Sound after) (member : s ∈ after .sessions) :
    s.executionGeneration ≤ maxInt64 := by
  have range : inRange .sessions s = true := sound.range .sessions s member
  simp only [inRange, bigints, List.all_cons, List.all_nil, Bool.and_eq_true,
    decide_eq_true_eq] at range
  exact range.2.1

/-- Activate admits an Execution: the edge that advances the generation. -/
theorem activate_moves (loadable : Loadable db) (sound : Sound after) {value : Session}
    {expected : Nat} {executionID : ID} {before last : Transaction Unit} {u : Unit}
    (first : before.Submits NotSessions) (rest : last.Submits NotSessions)
    (success : (do before; Sessions.activate value expected executionID; last).run
      (rules txNow).execute db = .ok (u, after)) : Moves LegalChange db after := by
  simp only [Sessions.activate, Tx.run_bind, Tx.run_require, run_affected] at success
  obtain ⟨_, d, started, _, e, ⟨_, _, ⟨⟨-, raised⟩, rfl⟩, activated⟩, finished⟩ := success
  have rows := execute_update_rows activated
  rw [← run_notSessions rest finished, run_notSessions first started] at rows
  refine .of_updated rows (fun _ => ⟨rfl, rfl⟩) fun s member selected kept => ?_
  simp only [Bool.and_eq_true, Bool.or_eq_true, decide_eq_true_eq] at selected
  obtain ⟨⟨⟨⟨-, version⟩, waits⟩, -⟩, generation⟩ := selected
  have room : s.executionGeneration ≠ maxInt64 := by
    have fits : value.executionGeneration ≤ maxInt64 := generation_fits sound kept
    omega
  have loads := loadable.restore member
  rcases waits with waits | waits
  all_goals
    refine ⟨by simp [waits], by simp [waits],
      .inr (transitions_of loads ?_ ?_ (fun _ => room) ?_ ?_ ?_)⟩ <;>
    simp [waits, raised, version, generation, canTransition, allowed,
      admission]

/-- Suspend takes READY or IDLE to SUSPENDED. -/
theorem suspend_moves (loadable : Loadable db) {env : SuspendEnvironment} {r : App.SuspendRequest}
    {result : App.SuspendResult}
    (success : (suspend platform clock env r).run (rules txNow).execute db =
      .ok (result, after)) : Moves LegalChange db after := by
  obtain ⟨s, found, rfl | committed⟩ := suspend_effects success
  · exact .of_eq rfl
  obtain ⟨now, rows⟩ := committed.sessions
  refine .of_locked loadable.sound found rows (fun _ => ⟨rfl, rfl⟩) ?_
  have loads := loadable.restore (List.mem_of_find?_eq_some found)
  have guard_ := committed.suspendable
  simp only [suspendable, Bool.and_eq_true, Bool.or_eq_true, decide_eq_true_eq] at guard_
  rcases guard_.1.1.1.1 with waits | waits
  all_goals
    refine ⟨by simp [waits], by simp [waits], .inr (transitions_of loads ?_ ?_ ?_ ?_ ?_ ?_)⟩ <;>
      simp [suspendSession, waits, canTransition, allowed, admission]

/-- Prepare only raises the version of a suspended Session. -/
theorem prepareResume_moves (loadable : Loadable db) {ids : ResumeIDs}
    {answer : App.ResumeIntent × App.ResumeResult}
    (success : (prepareResume platform clock env now ids eventID r).run (rules txNow).execute db =
      .ok (answer, after)) : Moves LegalChange db after := by
  obtain ⟨s, found, ⟨_, -, -, -, -, rfl⟩ | ⟨-, reserved, -⟩⟩ := prepareResume_effects success
  · exact .of_eq rfl
  obtain ⟨_, rows⟩ := reserved.sessions
  refine .of_locked loadable.sound found rows (fun _ => ⟨rfl, rfl⟩) ?_
  exact ⟨by simp [reserved.suspended], by simp [reserved.suspended], .inl ⟨rfl, rfl, rfl, rfl⟩⟩

/-- Complete takes SUSPENDED to the target of the candidate. -/
theorem completeResume_moves (loadable : Loadable db) (sound : Sound after)
    {o : App.ResumeObservation}
    (success : (completeResume platform clock env now eventID r o).run (rules txNow).execute db =
      .ok (result, after)) : Moves LegalChange db after := by
  obtain ⟨s, row, found, saved, -, ⟨-, -, rfl⟩ | ⟨-, completed⟩⟩ := completeResume_effects success
  · exact .of_eq rfl
  obtain ⟨state, _, target, rows⟩ := completed.sessions
  refine .of_locked loadable.sound found rows (fun _ => ⟨rfl, rfl⟩) ?_
  have loads := loadable.restore (List.mem_of_find?_eq_some found)
  have guard_ := completed.unchanged
  simp only [unchangedSince, Bool.and_eq_true, decide_eq_true_eq] at guard_
  have suspended := guard_.1.1.1
  rcases completed.target sound saved with ready | idle
  all_goals
    simp only [sessionState, *, Option.some.injEq] at target
    subst target
    refine ⟨by simp [suspended], by simp [suspended],
      .inr (transitions_of loads ?_ ?_ ?_ ?_ ?_ ?_)⟩ <;>
    simp [resumeSession, suspended, canTransition, allowed, admission]

/-- Fail degrades the Session its candidate was prepared on, or leaves it alone. -/
theorem failResume_moves (loadable : Loadable db)
    (success : (failResume platform clock eventID r).run (rules txNow).execute db =
      .ok (result, after)) : Moves LegalChange db after := by
  obtain ⟨s, row, found, -, -, ⟨-, -, rfl⟩ | ⟨-, abandoned⟩⟩ := failResume_effects success
  · exact .of_eq rfl
  obtain ⟨prepared, _, rows⟩ | same := abandoned.sessions
  · refine .of_locked loadable.sound found rows (fun _ => ⟨rfl, rfl⟩) ?_
    have loads := loadable.restore (List.mem_of_find?_eq_some found)
    simp only [stillPrepared, Bool.and_eq_true, decide_eq_true_eq] at prepared
    have suspended := prepared.1.1
    refine ⟨by simp [suspended], by simp [suspended],
      .inr (transitions_of loads ?_ ?_ ?_ ?_ ?_ ?_)⟩ <;>
    simp [failSession, suspended, canTransition, allowed, admission]
  · exact .of_eq same

/-- What the compute reconcilers submit. -/
def Degrades (c : Stmt) : Prop :=
  NotSessions c ∨ ∃ store scope now, c = .update .sessions (degradable store scope) (degrade now)

theorem notSessions_of_onTables {tables : List Table} (apart : .sessions ∉ tables) {c : Stmt}
    (on : OnTables tables c) : NotSessions c :=
  fun same => apart (same ▸ on)

/-- A Session that was degraded once is not degraded again: over a whole
transaction a row changes at most once, from ACTIVE. -/
theorem degrades_run (submits : x.Submits Degrades)
    (success : x.run (rules txNow).execute db = .ok (a, after)) :
    Moves (fun s s' => s.state = .active ∧ ∃ now, s' = degrade now s) db after := by
  refine Tx.run_preserves (I := Moves _ db) ?_ submits (.of_eq rfl) success
  rintro c d e n (other | ⟨store, scope, now, rfl⟩) before accepted s' member
  · have same := execute_other accepted (fun same => other same.symm) (by simp [touches])
    exact before s' (same ▸ member)
  · rw [execute_update_rows accepted] at member
    obtain ⟨s, middle, ⟨selected, rfl⟩ | ⟨-, rfl⟩⟩ := mem_updated.mp member
    · obtain ⟨s₀, start, keeps, rfl | ⟨-, _, rfl⟩⟩ := before s middle
      · simp only [degradable, Bool.and_eq_true, decide_eq_true_eq] at selected
        exact ⟨s, start, ⟨rfl, rfl⟩, .inr ⟨selected.1.1.1.2, now, rfl⟩⟩
      · simp [degradable, degrade] at selected
    · exact before s' middle

theorem degrades_moves (loadable : Loadable db) (submits : x.Submits Degrades)
    (success : x.run (rules txNow).execute db = .ok (a, after)) : Moves LegalChange db after := by
  intro s' member
  obtain ⟨s, before, keeps, same | ⟨active, now, rfl⟩⟩ := degrades_run submits success s' member
  · exact ⟨s, before, keeps, .inl same⟩
  · refine ⟨s, before, keeps, .inr ⟨by simp [active], by simp [active],
      .inr (transitions_of (loadable.restore before) ?_ ?_ ?_ ?_ ?_ ?_)⟩⟩ <;>
    simp [degrade, active, canTransition, allowed, admission]

/-- ReplaceDeleted returns a Session degraded from ACTIVE to ACTIVE. -/
theorem replaceDeleted_moves (loadable : Loadable db)
    {policy : Sandbox.Binding → Sandbox.AcquireRequest → Bool} {events : ID × ID} {lost : ID}
    {resources : Sandbox.ReplacementResources} {result : Sandbox.Binding}
    (success : (replaceDeleted platform clock policy events lost resources).run
      (rules txNow).execute db = .ok (result, after)) : Moves LegalChange db after := by
  obtain ⟨_, -, rfl, -⟩ | ⟨-, old, s, e, a, b, digest, -, replaced, -⟩ :=
    replaceDeleted_effects success
  · exact .of_eq rfl
  refine .of_updated replaced.sessions (fun _ => ⟨rfl, rfl⟩) fun row member selected _ => ?_
  obtain ⟨⟨present, key⟩, -⟩ := scopeRows_ok replaced.rows
  simp only [Bool.and_eq_true, decide_eq_true_eq] at selected
  obtain rfl := loadable.sound.session_eq member present (selected.1.trans key.symm)
  have safe := replaced.safe
  simp only [replacementSafe, Truth.holds_and, Truth.holds_of, Truth.holds_compare,
    and_assoc] at safe
  obtain ⟨degraded, ⟨_, _, recovery, active, rfl⟩, -⟩ := safe
  cases active
  refine ⟨by simp [degraded], by simp [degraded],
    .inr (transitions_of (loadable.restore member) ?_ ?_ ?_ ?_ ?_ ?_)⟩ <;>
  simp [restoreActive, degraded, recovery, canTransition, admission]

/-- A publication raises the version of a Session that works or waits. -/
theorem publish_moves (loadable : Loadable db) {env : PublicationEnvironment}
    {r : Checkpoint.Request} {result : Checkpoint.Result}
    (success : (publish platform clock env now r).run (rules txNow).execute db =
      .ok (result, after)) : Moves LegalChange db after := by
  obtain ⟨s, found, rfl | ⟨state, rows⟩⟩ := publish_effects success
  · exact .of_eq rfl
  refine .of_locked loadable.sound found rows (fun _ => ⟨rfl, rfl⟩) ?_
  rcases state with h | h | h <;>
  exact ⟨by simp [h], by simp [h], .inl ⟨rfl, rfl, rfl, rfl⟩⟩

end Writers

/-! ### Whole runs -/

/-- One case for each transaction. -/
theorem SessionWriter.moves {x : Transaction α} {result : α} (loadable : Loadable db)
    (writer : SessionWriter platform now x)
    (committed : (rules now).commit Fault.error x db = .ok (result, after)) :
    Moves LegalChange db after := by
  have sound := commit_sound loadable.sound committed
  have ran := (Rules.commit_ok.mp committed).1
  cases writer with
  | activate _ _ _ _ _ _ first last => exact activate_moves loadable sound first last ran
  | suspend => exact suspend_moves loadable ran
  | prepareResume => exact prepareResume_moves loadable ran
  | completeResume => exact completeResume_moves loadable sound ran
  | failResume => exact failResume_moves loadable ran
  | recordCompute =>
    refine degrades_moves loadable (recordCompute_submits ?_ ?_) ran
    · exact fun c on => .inl (notSessions_of_onTables (by decide) on)
    · exact fun store scope now => .inr ⟨store, scope, now, rfl⟩
  | recoverExpiredAgentd =>
    refine degrades_moves loadable (recoverExpiredAgentd_submits ?_ ?_) ran
    · exact fun c on => .inl (notSessions_of_onTables (by decide) on)
    · exact fun store scope now => .inr ⟨store, scope, now, rfl⟩
  | replaceDeleted => exact replaceDeleted_moves loadable ran
  | publish => exact publish_moves loadable ran

/-- A statement that keeps creation data keeps every Session loadable. -/
theorem keepsCreation_step {c : Stmt} {n : Nat} (keeps : KeepsCreation c) (before : Loadable db)
    (accepted : (rules now).execute c db = .ok (n, after)) : Loadable after := by
  refine loadable_iff.mpr ⟨execute_sound accepted, fun s member => ?_⟩
  cases origin accepted (by decide) member with
  | kept old => exact before.created old
  | inserted _ => exact keeps
  | written old _ trigger =>
    rw [(session_identity trigger).1, keeps]
    exact before.created old

theorem sessionStep_keeps (before : Loadable db) (step : SessionStep platform db after) :
    Loadable after := by
  obtain ⟨α, now, x, result, writer | keeps, committed⟩ := step
  · refine loadable_iff.mpr ⟨commit_sound before.sound committed, fun s' member => ?_⟩
    obtain ⟨s, old, ⟨id, created⟩, -⟩ := writer.moves before committed s' member
    rw [id, created]
    exact before.created old
  · exact Tx.run_preserves (I := Loadable)
      (fun _ _ _ _ keeps before accepted => keepsCreation_step keeps before accepted) keeps before
      (Rules.commit_ok.mp committed).1

theorem sessionRun_keeps {initial : Db} (start : Loadable initial)
    (run : Relation.ReflTransGen (SessionStep platform) initial db) : Loadable db := by
  induction run with
  | refl => exact start
  | tail _ step ih => exact sessionStep_keeps ih step

/-- In every reachable state, what a listed transaction does to a Session row is
nothing, a version raise, or a legal domain transition; a closing Session is left
alone. -/
theorem committed_session_changes_are_legal {platform : Platform} {initial db after : Db}
    {α : Type} {now : Time} {x : Transaction α} {result : α} (start : Loadable initial)
    (run : Relation.ReflTransGen (SessionStep platform) initial db)
    (writer : SessionWriter platform now x)
    (committed : (rules now).commit Fault.error x db = .ok (result, after)) :
    ∀ s ∈ db .sessions, ∀ s' ∈ after .sessions, s'.id = s.id → s' = s ∨ LegalChange s s' := by
  intro s member s' member' same
  have loadable := sessionRun_keeps start run
  obtain ⟨old, before, ⟨id, -⟩, change⟩ := writer.moves loadable committed s' member'
  obtain rfl := loadable.sound.session_eq before member (id.symm.trans same)
  exact change

namespace Sample

/-- The Session of `idle`, and the row its admission leaves. -/
def waiting : SessionRow :=
  { session with currentExecutionID := none, currentCheckpointID := none }

def admitted : SessionRow :=
  { waiting with
    state := .active, stateVersion := 2, executionGeneration := 1, updatedAt := 2
    currentExecutionID := some (ID.v7 3) }

def activation : Transaction Unit := do
  Executions.add execution
  Sessions.activate admitted.toSession 1 (ID.v7 3)
  pure ()

theorem activation_commits : (rules 2).commitsTo Fault.error activation idle
    (fun after => admitted ∈ after .sessions) = true := by
  decide +kernel

end Sample

theorem session_change_of_activation :
    ∃ after, (rules 2).commit Fault.error Sample.activation Sample.idle = .ok ((), after) ∧
      Sample.waiting ∈ Sample.idle .sessions ∧ Sample.admitted ∈ after .sessions ∧
      LegalChange Sample.waiting Sample.admitted := by
  obtain ⟨_, after, committed, admitted⟩ := Rules.commitsTo_iff.mp Sample.activation_commits
  have before : Sample.waiting ∈ Sample.idle .sessions := by decide +kernel
  have writer : SessionWriter Sample.platform 2 Sample.activation :=
    .activate 2 _ _ _ _ _ (by simp [Executions.add, NotSessions, Statement.table]) Tx.submits_pure
  have change := committed_session_changes_are_legal
    (loadable_iff.mpr ⟨Sample.idle_fresh.sound, by decide +kernel⟩) .refl writer committed
    _ before _ (of_decide_eq_true admitted) rfl
  exact ⟨after, committed, before, of_decide_eq_true admitted, change.resolve_left (by decide)⟩

/-! ### Versions identify rows -/

/-- One committed transaction: a Session writer, or any that leaves the Sessions alone. -/
def VersionStep (platform : Platform) (db after : Db) : Prop :=
  ∃ (α : Type) (now : Time) (x : Transaction α) (result : α),
    (SessionWriter platform now x ∨ x.Submits NotSessions) ∧
      (rules now).commit Fault.error x db = .ok (result, after)

theorem LegalChange.version {s s' : SessionRow} (change : LegalChange s s') :
    s.stateVersion < s'.stateVersion := by
  obtain ⟨opened, alive, raises | ⟨loaded, next, _, _, result, loads, moved, -, -, -, version⟩⟩ :=
    change
  · exact raises.2.2.2 ▸ Nat.lt_succ_self _
  · have raised := increment_eq_of_le (restore_counters loads).1
    cases restore_eq loads
    rw [version]
    -- an end state may only be repeated, and this Session is in none
    unfold transition at moved
    grind

/-- Along every run the Sessions stay loadable, and one read again is unchanged in every
column or has a later version. -/
theorem versions_identify_sessions {platform : Platform} {initial db : Db}
    (start : Loadable initial)
    (run : Relation.ReflTransGen (VersionStep platform) initial db) :
    Loadable db ∧ ∀ s ∈ initial .sessions, ∀ s' ∈ db .sessions, s'.id = s.id →
      s' = s ∨ s.stateVersion < s'.stateVersion := by
  induction run with
  | refl => exact ⟨start, fun s old s' new same => .inl (start.sound.session_eq new old same)⟩
  | @tail db after _ step ih =>
    obtain ⟨α, now, x, result, role, committed⟩ := step
    have moves : Moves LegalChange db after := by
      rcases role with writer | quiet
      · exact writer.moves ih.1 committed
      · exact .of_eq (run_notSessions quiet (Rules.commit_ok.mp committed).1)
    refine ⟨loadable_iff.mpr ⟨commit_sound ih.1.sound committed, fun s' new => ?_⟩,
      fun s old s' new same => ?_⟩
    all_goals obtain ⟨t, present, ⟨id, created⟩, change⟩ := moves s' new
    · exact id ▸ created ▸ ih.1.created present
    · have first := ih.2 s old t present (id.symm.trans same)
      rcases change with rfl | change
      · exact first
      · refine .inr (lt_of_le_of_lt ?_ change.version)
        rcases first with rfl | later
        · exact Nat.le_refl _
        · exact later.le

theorem version_of_activation :
    ∃ after, VersionStep Sample.platform Sample.idle after ∧ Sample.admitted ∈ after .sessions ∧
      (Sample.admitted = Sample.waiting ∨
        Sample.waiting.stateVersion < Sample.admitted.stateVersion) := by
  obtain ⟨_, after, committed, admitted⟩ := Rules.commitsTo_iff.mp Sample.activation_commits
  have step : VersionStep Sample.platform Sample.idle after := ⟨_, _, _, _, .inl (.activate 2 _ _ _
    _ _ (by simp [Executions.add, NotSessions, Statement.table]) Tx.submits_pure), committed⟩
  have start := loadable_iff.mpr ⟨Sample.idle_fresh.sound, by decide +kernel⟩
  exact ⟨after, step, of_decide_eq_true admitted, (versions_identify_sessions start
    (.single step)).2 _ (by decide +kernel) _ (of_decide_eq_true admitted) rfl⟩

end ThinkPixelAR.Guarantees
