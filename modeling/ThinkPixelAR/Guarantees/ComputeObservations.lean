import ThinkPixelAR.Guarantees.SandboxJournal

/-!
Observations of compute are applied to what they were made for. `RecordCompute`
compares a few projected fields with the intent that was loaded before the provider
was consulted; that this is enough rests on the version of the binding, which every
change that those fields depend on raises.
-/
namespace ThinkPixelAR.Guarantees

open Relational Postgres
open Sandbox (ComputeIntent Binding ComputeObservation Scope)

variable {set : SandboxBindingRow → SandboxBindingRow} {q : SandboxBindingRequestRow}
  {current : ComputeIntent}

/-! ### Changes of other sandboxes -/

/-- Nothing changed in the rows of the sandbox. -/
structure Untouched (id : ID) (db after : Db) : Prop where
  bindings : (after .sandboxBindings).filter (·.id = id) = (db .sandboxBindings).filter (·.id = id)
  requests : (after .sandboxBindingRequests).filter (·.sandboxBindingID = id) =
    (db .sandboxBindingRequests).filter (·.sandboxBindingID = id)
  operations : (after .sandboxOperations).filter (·.sandboxBindingID = id) =
    (db .sandboxOperations).filter (·.sandboxBindingID = id)
  cleanup : (after .cleanupIntents).filter (·.ownerID = id) =
    (db .cleanupIntents).filter (·.ownerID = id)

/-- The binding is at a later version. -/
def Raised (id : ID) (db after : Db) : Prop :=
  ∃ old ∈ db .sandboxBindings, old.id = id ∧
    ∃ new ∈ after .sandboxBindings, new.id = id ∧ old.stateVersion < new.stateVersion

section Untouched
variable {platform : Platform} {db middle after : Db} {id other : ID} {row : SandboxBindingRow}
  {intent : ComputeIntent} {current : Bool}

theorem Untouched.refl (db : Db) : Untouched id db db := ⟨rfl, rfl, rfl, rfl⟩

theorem Untouched.trans (first : Untouched id db middle) (second : Untouched id middle after) :
    Untouched id db after :=
  ⟨second.bindings.trans first.bindings, second.requests.trans first.requests,
    second.operations.trans first.operations, second.cleanup.trans first.cleanup⟩

theorem Untouched.of_eq (same : ∀ t ∈ sandboxTables, after t = db t) : Untouched id db after :=
  ⟨by rw [same _ (by decide)], by rw [same _ (by decide)], by rw [same _ (by decide)],
    by rw [same _ (by decide)]⟩

theorem Untouched.stored (untouched : Untouched id db after)
    (stored : Stored platform db id q row) :
    Stored platform after id q row := by
  refine ⟨?_, ?_, stored.scope, stored.digest⟩
  · rw [find?_of_filter (fun _ found => found) untouched.requests]
    exact stored.request
  · rw [find?_of_filter (fun _ found => found) untouched.bindings]
    exact stored.binding

theorem isRelease_owner {b : Binding} {c : CleanupIntentRow}
    (release : isRelease b id c = true) : decide (c.ownerID = id) = true := by
  simp only [isRelease, Bool.and_eq_true] at release
  exact release.1.1.1.1.1.2

/-- What a load derives from the rows of the sandbox is the same. -/
theorem Untouched.desires (untouched : Untouched id db after)
    (desires : Desires platform db id q row current intent) :
    Desires platform after id q row current intent := by
  have cleanup : ∀ b : Binding,
      unjournalledCleanup after b id = unjournalledCleanup db b id := fun b =>
    find?_of_filter (fun c found => isRelease_owner (Bool.and_eq_true _ _ ▸ found).2)
      untouched.cleanup
  have authorizes : ∀ b op, cleanupAuthorizes after b id op = cleanupAuthorizes db b id op := by
    intro b op
    refine any_of_filter (fun c found => ?_) untouched.cleanup
    simp only [Bool.and_eq_true] at found
    exact isRelease_owner found.1.1
  cases desires with
  | running empty clean => exact .running empty ((cleanup _).trans clean)
  | cleanup empty found digest => exact .cleanup empty ((cleanup _).trans found) digest
  | journal journalled found release =>
    rw [← authorizes]
    refine .journal journalled ?_ release
    unfold journalledOperation at found ⊢
    rw [← found]
    refine find?_of_filter (fun o matched => ?_) untouched.operations
    simp only [Bool.and_eq_true] at matched
    exact matched.1

/-- A change of another binding. -/
theorem filter_bindings (apart : other ≠ id)
    (bindings : after .sandboxBindings = updated (·.id = other) set (db .sandboxBindings))
    (key : ∀ b, (set b).id = b.id) :
    (after .sandboxBindings).filter (·.id = id) = (db .sandboxBindings).filter (·.id = id) := by
  rw [bindings]
  refine filter_updated fun b _ selected => ?_
  have owner : b.id ≠ id := (of_decide_eq_true selected) ▸ apart
  exact ⟨decide_eq_false owner, decide_eq_false (key b ▸ owner)⟩

/-- A change of the binding itself raises its version. -/
theorem raised_of_updated (member : row ∈ db .sandboxBindings) (owner : row.id = id)
    (key : (set row).id = row.id) (version : (set row).stateVersion = row.stateVersion + 1)
    (bindings : after .sandboxBindings = updated (·.id = id) set (db .sandboxBindings)) :
    Raised id db after := by
  refine ⟨row, member, owner, set row, ?_, key.trans owner, version ▸ Nat.lt_succ_self _⟩
  rw [bindings]
  exact mem_updated.mpr ⟨row, member, .inl ⟨decide_eq_true owner, rfl⟩⟩

end Untouched

/-! ### The version of a binding -/

section Versions
variable {platform : Platform} {rule : Discipline} {db middle after : Db} {id : ID}
  {row : SandboxBindingRow}

theorem filter_inserted {α : Type} {rows : List α} {a : α} {mine : α → Bool}
    (other : mine a = false) : (rows ++ [a]).filter mine = rows.filter mine := by
  simp [List.filter_append, other]

/-- An append to the journal of a sandbox changes that sandbox only. -/
theorem touched_of_appended (member : row ∈ db .sandboxBindings) (owner : row.id = id)
    {o : SandboxOperationRow} (appended : Appended db after o set) (key : ∀ b, (set b).id = b.id)
    (version : ∀ b, (set b).stateVersion = b.stateVersion + 1)
    (cleanup : o.sandboxBindingID ≠ id → (after .cleanupIntents).filter (·.ownerID = id) =
      (db .cleanupIntents).filter (·.ownerID = id)) :
    Untouched id db after ∨ Raised id db after := by
  by_cases same : o.sandboxBindingID = id
  · exact .inr (raised_of_updated member owner (key row) (version row) (same ▸ appended.bindings))
  · refine .inl ⟨filter_bindings same appended.bindings key, ?_, ?_, cleanup same⟩
    · rw [appended.requests]
      refine filter_updated fun q _ selected => ?_
      have other : q.sandboxBindingID ≠ id := (of_decide_eq_true selected) ▸ same
      exact ⟨decide_eq_false other, decide_eq_false other⟩
    · rw [appended.operations]
      exact filter_inserted (decide_eq_false same)

variable {b : SandboxBindingRow} {observed : ComputeObservation} {target : ID}

/-- An observation of a release changes the binding of that sandbox only. -/
theorem touched_of_release (member : row ∈ db .sandboxBindings) (owner : row.id = id)
    (release : ReleaseObserved platform db after target q b current observed)
    (cleanup : target ≠ id → (after .cleanupIntents).filter (·.ownerID = id) =
      (db .cleanupIntents).filter (·.ownerID = id)) :
    Untouched id db after ∨ Raised id db after := by
  obtain ⟨now, bindings⟩ := release.bindings
  by_cases same : target = id
  · exact .inr (raised_of_updated member owner rfl rfl (same ▸ bindings))
  · exact .inl ⟨filter_bindings same bindings fun _ => rfl, by rw [release.requests],
      by rw [release.operations], cleanup same⟩

/-- The intents of a release that is authorized belong to its sandbox. -/
theorem release_owner (sound : Sound db)
    (release : ReleaseObserved platform db after target q b current observed) {c : CleanupIntentRow}
    (member : c ∈ db .cleanupIntents) (same : c.cleanupOperationID = current.operation.id) :
    c.ownerID = target := by
  obtain ⟨_, loaded⟩ := release.loaded
  have authorized := release.authorized
  have wanted := release.desired
  have desired := loaded.desired
  generalize current.current = fence at desired
  cases desired with
  | running => cases wanted
  | @cleanup c' _ found =>
    have matched := List.find?_some found
    rw [Bool.and_eq_true] at matched
    have one : c = c' := sound.cleanup_eq member (List.mem_of_find?_eq_some found) same
    rw [one]
    exact of_decide_eq_true (isRelease_owner matched.2)
  | journal =>
    obtain ⟨c', present, matched⟩ := List.any_eq_true.mp authorized
    simp only [Bool.and_eq_true, decide_eq_true_eq] at matched
    have one : c = c' := sound.cleanup_eq member present (same.trans matched.1.2.symm)
    rw [one]
    exact of_decide_eq_true (isRelease_owner matched.1.1)

/-- Every change of a sandbox raises the version of its binding. -/
theorem touched_step (sound : Sound db) (settled : Sound after) (member : row ∈ db .sandboxBindings)
    (owner : row.id = id) (change : Change platform .closed db after) :
    Untouched id db after ∨ Raised id db after := by
  cases change with
  | quiet same => exact .inl (.of_eq same)
  | @reserved r b _ key _ _ _ _ bindings requests operations cleanup =>
    have unique := settled.binding_unique
    rw [bindings] at unique
    have fresh : b.id ≠ id := fun same => unique.inserted member (owner.trans same.symm)
    refine .inl ⟨?_, ?_, by rw [operations], by rw [cleanup]⟩
    · rw [bindings]
      exact filter_inserted (decide_eq_false fresh)
    · rw [requests]
      have foreign : r.scope.sandboxID ≠ id := key ▸ fresh
      exact filter_inserted (decide_eq_false foreign)
  | @bound target _ _ _ _ _ _ changed =>
    by_cases same : target = id
    · exact .inr (raised_of_updated member owner rfl rfl (same ▸ changed.bindings))
    · exact .inl ⟨filter_bindings same changed.bindings fun _ => rfl,
        by rw [changed.others _ rfl], by rw [changed.others _ rfl], by rw [changed.others _ rfl]⟩
  | @observed target _ _ _ _ set _ _ observes _ changed =>
    have key : ∀ b, (set b).id = b.id := fun b => (observes.advanced b).key
    have version : ∀ b, (set b).stateVersion = b.stateVersion + 1 := fun b => by rw [observes b]
    by_cases same : target = id
    · exact .inr (raised_of_updated member owner (key row) (version row) (same ▸ changed.bindings))
    · exact .inl ⟨filter_bindings same changed.bindings key, by rw [changed.others _ rfl],
        by rw [changed.others _ rfl], by rw [changed.others _ rfl]⟩
  | releasing release _ _ cleanup =>
    exact touched_of_release member owner release fun _ => by rw [cleanup]
  | confirmed release _ cleanup =>
    obtain ⟨now, cleanup⟩ := cleanup
    refine touched_of_release member owner release fun other => ?_
    rw [cleanup]
    refine filter_updated fun c _ selected => ?_
    simp only [Bool.and_eq_true, decide_eq_true_eq] at selected
    have foreign : c.ownerID ≠ id := selected.1.2 ▸ other
    exact ⟨decide_eq_false foreign, decide_eq_false foreign⟩
  | quarantined release _ _ _ cleanup =>
    obtain ⟨now, cleanup⟩ := cleanup
    refine touched_of_release member owner release fun other => ?_
    rw [cleanup]
    refine filter_updated fun c present selected => ?_
    simp only [Bool.and_eq_true, decide_eq_true_eq] at selected
    have foreign : c.ownerID ≠ id := release_owner sound release present selected.1 ▸ other
    exact ⟨decide_eq_false foreign, decide_eq_false foreign⟩
  | @appended _ kind _ _ _ _ _ _ _ appended cleanup =>
    refine touched_of_appended member owner appended ?_ ?_ fun _ => by rw [cleanup]
    · cases kind <;> exact fun _ => rfl
    · cases kind <;> exact fun _ => rfl
  | journalled _ _ _ release =>
    obtain ⟨_, _, entry⟩ := release.entry
    obtain ⟨_, _, _, _, cleanup⟩ := release.cleanup
    refine touched_of_appended member owner entry (fun _ => rfl) (fun _ => rfl) fun other => ?_
    rw [cleanup]
    exact filter_inserted (decide_eq_false other)
  | added allowed => exact allowed.elim
  | cleaned allowed => exact allowed.elim

/-- Along a run a sandbox is as it was, or its version is later. -/
theorem touched_run (sound : Sound db) (member : row ∈ db .sandboxBindings) (owner : row.id = id)
    (moves : Postgres.Moves platform .closed db after) :
    Untouched id db after ∨ Raised id db after := by
  induction moves with
  | refl => exact .inl (.refl db)
  | tail earlier step ih =>
    have chain : Postgres.Moves platform .closed db _ := earlier
    obtain ⟨between, persists⟩ := chain.keeps sound
    obtain ⟨mid, present, advanced⟩ := persists.bindings row member
    have later := touched_step between step.2 present (advanced.key.trans owner) step.1
    rcases ih with same | ⟨old, old', key, new, new', key', raised⟩
    · rcases later with kept | ⟨old, old', key, new, new', key', raised⟩
      · exact .inl (same.trans kept)
      · obtain rfl := between.binding_eq old' present (key.trans (advanced.key.trans owner).symm)
        exact .inr ⟨row, member, owner, new, new', key', Nat.lt_of_le_of_lt advanced.version raised⟩
    · obtain ⟨last, last', moved⟩ := (step.1.persists between).bindings new new'
      exact .inr ⟨old, old', key, last, last', moved.key.trans key',
        Nat.lt_of_lt_of_le raised moved.version⟩

end Versions

/-! ### The guarantee -/

/-- What a load derives from the rows of the sandbox; only the fence is read elsewhere. -/
def Derived (platform : Platform) (db : Db) (id : ID) (intent : ComputeIntent) : Prop :=
  ∃ q row, Stored platform db id q row ∧ Desires platform db id q row intent.current intent

/-- The Attempt, the Execution or the generation of the scope is no longer the current
one of its Session. -/
def Superseded (db : Db) (scope : Scope) : Prop :=
  ∀ s ∈ db .sessions, s.id = scope.sessionID →
    s.currentExecutionID ≠ some scope.executionID ∨ s.executionGeneration ≠ scope.generation ∨
      ∀ a ∈ db .attempts, a.id = scope.attemptID → a.current = false

section Observations
variable {platform : Platform} {db middle after : Db} {id : ID} {intent : ComputeIntent}
  {clock : Clock} {ids : RecoveryIDs} {observed : ComputeObservation}

theorem Untouched.derived (untouched : Untouched id db after)
    (derived : Derived platform db id intent) :
    Derived platform after id intent := by
  obtain ⟨q, row, stored, desires⟩ := derived
  exact ⟨q, row, untouched.stored stored, untouched.desires desires⟩

/-- The version of a derived intent is the one of its binding. -/
theorem Derived.version (derived : Derived platform db id intent) :
    ∃ row ∈ db .sandboxBindings, row.id = id ∧ row.stateVersion = intent.version := by
  obtain ⟨q, row, stored, desires⟩ := derived
  refine ⟨row, stored.mem.2.1, stored.mem.2.2, ?_⟩
  generalize intent.current = current at desires
  cases desires <;> rfl

/-- Superseded compute degrades no Session. -/
theorem Superseded.undegradable {scope : Scope} (superseded : Superseded db scope)
    {s : SessionRow} (member : s ∈ db .sessions) : degradable db scope s = false := by
  rw [Bool.eq_false_iff]
  intro lost
  simp only [degradable, Bool.and_eq_true, decide_eq_true_eq, List.any_eq_true] at lost
  obtain ⟨⟨⟨⟨key, -⟩, execution⟩, generation⟩, a, present, ⟨attempt, current⟩, -⟩ := lost
  rcases superseded s member key with other | other | retired
  · exact other execution
  · exact other generation
  · rw [retired a present attempt] at current
    cases current

/-- An observation of superseded compute leaves every Session as it is. -/
theorem recorded_sessions {operationID : ID} {row : SandboxBindingRow}
    (recorded : Recorded platform clock operationID intent observed db after q row current middle)
    (superseded : Superseded db current.binding.request.scope) :
    after .sessions = db .sessions := by
  have sessions : middle .sessions = db .sessions := recorded.observes.others _ rfl
  have reads : degradable middle = degradable db := by
    funext scope
    exact degradable_congr (recorded.observes.others _ rfl) (recorded.observes.others _ rfl)
  have unlost : ∀ now, updated (degradable middle current.binding.request.scope) (degrade now)
      (middle .sessions) = db .sessions := by
    intro now
    rw [reads, sessions]
    exact updated_eq_self fun s member => superseded.undegradable member
  cases recorded.follows with
  | recovery _ recovered =>
    cases recovered with
    | quarantined _ _ others => rw [others _ rfl, sessions]
    | known _ _ same => rw [same, sessions]
    | unbound _ _ _ lost | released _ _ _ lost =>
      obtain ⟨now, lost⟩ := lost
      rw [lost, unlost]
  | confirmed _ _ others => rw [others _ rfl, sessions]
  | plain _ _ same => rw [same, sessions]

/-- A binding whose version is the same at the end of a run was left alone by it. -/
theorem untouched_of_version (sound : Sound db) (derived : Derived platform db id intent)
    (first : Postgres.Moves platform .closed db middle)
    (second : Postgres.Moves platform .closed middle after)
    {row : SandboxBindingRow} (member : row ∈ after .sandboxBindings) (owner : row.id = id)
    (same : row.stateVersion = intent.version) : Untouched id db middle := by
  obtain ⟨start, present, key, version⟩ := derived.version
  rcases touched_run sound present key first with
    untouched | ⟨old, old', key', new, new', key'', raised⟩
  · exact untouched
  · -- The version was raised on the way and never falls.
    have between := (first.keeps sound).1
    obtain ⟨final, persists⟩ := second.keeps between
    obtain ⟨last, last', advanced⟩ := persists.bindings new new'
    obtain rfl := sound.binding_eq old' present (key'.trans key.symm)
    obtain rfl := final.binding_eq last' member ((advanced.key.trans key'').trans owner.symm)
    have grown := advanced.version
    omega

end Observations

/-- Observations are applied to what they were made for. If `RecordCompute` commits an
observation, then from the load of its intent on every store of the run derives the
same intent, and for running compute the fence is found as it was loaded. A step
leaves what is derived as it is or raises the version of the binding. And compute
that is no longer the current one of its Session leaves the Session as it is. -/
theorem compute_observations_are_fresh (platform : Platform) {initial db later after : Db}
    (pristine : Pristine initial)
    (run : Relation.ReflTransGen (LifecycleStep platform .closed) initial db) {now : Time} {id : ID}
    {intent : ComputeIntent} (loads : LoadsCompute platform now db id intent)
    (more : Relation.ReflTransGen (LifecycleStep platform .closed) db later) {clock : Clock}
    {ids : RecoveryIDs} {observed : ComputeObservation}
    (committed : (rules clock.transaction).commit Fault.error
      (recordCompute platform clock ids intent observed) later = .ok ((), after)) :
    (∀ middle, Relation.ReflTransGen (LifecycleStep platform .closed) db middle →
        Relation.ReflTransGen (LifecycleStep platform .closed) middle later →
        Derived platform middle id intent) ∧
      (intent.desired = .running → ∃ found,
        LoadsCompute platform clock.transaction later id found ∧ found.current = intent.current) ∧
      (∀ before next, Relation.ReflTransGen (LifecycleStep platform .closed) initial before →
        LifecycleStep platform .closed before next → ∀ other derived,
          Derived platform before other derived →
            Derived platform next other derived ∨ Raised other before next) ∧
      (Superseded later intent.binding.request.scope → after .sessions = later .sessions) := by
  have reached : ∀ {d}, Relation.ReflTransGen (LifecycleStep platform .closed) initial d →
      Sound d :=
    fun run => ((moves_of_run pristine.sound run).keeps pristine.sound).1
  have sound := reached run
  obtain ⟨⟨q, row, loaded⟩, settled⟩ := loadsCompute_iff.mp loads
  have derived : Derived platform db id intent := ⟨q, row, loaded.stored, loaded.desired⟩
  have scope := loaded.scope
  obtain ⟨success, -⟩ := Rules.commit_ok.mp committed
  obtain ⟨q', row', found, middle, recorded⟩ := recordCompute_effects success
  have reloaded := recorded.loaded
  rw [scope] at reloaded
  obtain ⟨fence, version, -, -, desired, -, -⟩ := sameIntent_ok recorded.unchanged
  obtain ⟨-, binding, owner⟩ := reloaded.stored.mem
  have same : row'.stateVersion = intent.version := reloaded.version.1.symm.trans version
  have kept : ∀ middle, Relation.ReflTransGen (LifecycleStep platform .closed) db middle →
      Relation.ReflTransGen (LifecycleStep platform .closed) middle later →
      Derived platform middle id intent := by
    intro middle first second
    have moves := moves_of_run sound first
    exact (untouched_of_version sound derived moves
      (moves_of_run (moves.keeps sound).1 second) binding owner same).derived derived
  refine ⟨kept, fun running => ?_, ?_, fun superseded => ?_⟩
  · exact ⟨found, loadsCompute_iff.mpr ⟨⟨q', row', reloaded⟩, settled_of_run settled more⟩,
      fence (desired.trans running)⟩
  · intro before next run step other derived' derives
    obtain ⟨start, present, key, -⟩ := derives.version
    rcases touched_run (reached run) present key (step.moves (reached run)) with untouched | raised
    · exact .inl (untouched.derived derives)
    · exact .inr raised
  · obtain ⟨p, b, stored, desires⟩ := kept later more .refl
    cases stored.request.symm.trans reloaded.stored.request
    cases stored.binding.symm.trans reloaded.stored.binding
    have one : found.binding = intent.binding := reloaded.binding.trans desires.binding.symm
    exact recorded_sessions recorded (one ▸ superseded)

namespace Sample.Sandboxes

def boundIntent : ComputeIntent := runningIntent (requestRow request) boundBinding true

/-- A transition of the Session by its repository. -/
def moveSession (next : Session.State) (now : Time) : Transaction Unit := do
  let s ← Sessions.getForUpdate (ID.v7 2)
  let value ← Tx.lift (s.transition next s.stateVersion now)
  Sessions.update value s.stateVersion

theorem moveSession_elsewhere {next : Session.State} {now : Time} :
    (moveSession next now).Submits Elsewhere := by
  unfold moveSession
  refine .bind (by simp [Sessions.getForUpdate, Sessions.get]) fun s => ?_
  rw [Tx.submits_lift_bind]
  intro value _
  simp [Sessions.update, Elsewhere, Statement.table, sandboxTables]

/-- The Session degrades, which fences its compute. -/
def pausedRows : Db := fun
  | .sessions => [degrade 12 session]
  | t => boundRows t

def paused : Db := leaving 12 (moveSession .degraded 12) bound pausedRows

theorem pauses_evaluates :
    evaluatesTo 12 (moveSession .degraded 12) bound pausedRows = true := by
  decide +kernel

/-- The Session recovers. -/
def recoveredRows : Db := fun
  | .sessions => [{ session with stateVersion := 4, updatedAt := 13 }]
  | t => boundRows t

def recovered : Db := leaving 13 (moveSession .active 13) paused recoveredRows

theorem recovers_evaluates :
    evaluatesTo 13 (moveSession .active 13) paused recoveredRows = true := by
  decide +kernel

def starting : ComputeObservation :=
  { state := .provisioning, code := "COMPUTE_PENDING", converged := false
    recoveryRequired := false, effective := unverified }

/-- The observation of a worker that loaded the binding before the Session degraded. -/
def lateObservation : Transaction Unit :=
  recordCompute platform (at_ 14) recoveryIDs boundIntent starting

def startingRows : Db := fun
  | .sandboxBindings => [observeOn platform starting 14 boundBinding]
  | t => recoveredRows t

theorem lateObservation_evaluates :
    evaluatesTo 14 lateObservation recovered startingRows = true := by
  decide +kernel

theorem reaches_paused : Reaches .closed paused := by
  have call : Call platform .closed bound 12 (moveSession .degraded 12) :=
    .other 12 _ moveSession_elsewhere
  exact (reaches_bound .closed).step call pauses_evaluates

theorem reaches_recovered : Reaches .closed recovered := by
  have call : Call platform .closed paused 13 (moveSession .active 13) :=
    .other 13 _ moveSession_elsewhere
  exact reaches_paused.step call recovers_evaluates

theorem pauses : LifecycleStep platform .closed bound paused := by
  obtain ⟨result, committed⟩ :=
    commits_of_evaluatesTo (reaches_bound .closed).sound pauses_evaluates
  exact ⟨Unit, 12, moveSession .degraded 12, result, .other 12 _ moveSession_elsewhere, committed⟩

theorem recovers : LifecycleStep platform .closed paused recovered := by
  obtain ⟨result, committed⟩ := commits_of_evaluatesTo reaches_paused.sound recovers_evaluates
  exact ⟨Unit, 13, moveSession .active 13, result, .other 13 _ moveSession_elsewhere, committed⟩

theorem loads_bound : LoadsCompute platform 12 bound (ID.v7 5) boundIntent :=
  loadsCompute_of_evaluates (reaches_bound .closed).settled (by decide +kernel)

end Sample.Sandboxes

section Fence
open Sample.Sandboxes

/-- The fence of running compute may be lost and found again between a load and the
observation that is recorded for it. -/
theorem compute_fence_returns :
    ¬ ∀ (db middle later after : Db) (now then_ : Time) (id : ID)
      (intent found : ComputeIntent) (clock : Clock) (ids : RecoveryIDs)
      (observed : ComputeObservation),
      Relation.ReflTransGen (LifecycleStep platform .closed) admitted db →
      LoadsCompute platform now db id intent → intent.desired = .running →
      Relation.ReflTransGen (LifecycleStep platform .closed) db middle →
      Relation.ReflTransGen (LifecycleStep platform .closed) middle later →
      (rules clock.transaction).commit Fault.error
        (recordCompute platform clock ids intent observed)
        later = .ok ((), after) →
      LoadsCompute platform then_ middle id found → found.current = intent.current := by
  intro kept
  obtain ⟨_, committed⟩ := commits_of_evaluatesTo reaches_recovered.sound lateObservation_evaluates
  have fenced : LoadsCompute platform 13 paused (ID.v7 5)
      (runningIntent (requestRow request) boundBinding false) :=
    loadsCompute_of_evaluates reaches_paused.settled (by decide +kernel)
  cases kept bound paused recovered _ 12 13 (ID.v7 5) boundIntent _ (at_ 14) recoveryIDs starting
    (reaches_bound .closed).run loads_bound rfl (.single pauses) (.single recovers) committed fenced

theorem compute_observations_are_fresh_after_recovery :
    ∃ middle later after, (middle .sessions).map (·.state) = [.degraded] ∧
      (rules 14).commit Fault.error lateObservation later = .ok ((), after) ∧
      Derived platform middle (ID.v7 5) boundIntent ∧
      Derived platform later (ID.v7 5) boundIntent := by
  have more : Relation.ReflTransGen (LifecycleStep platform .closed) bound recovered :=
    .tail (.single pauses) recovers
  obtain ⟨_, committed⟩ := commits_of_evaluatesTo reaches_recovered.sound lateObservation_evaluates
  have recorded : (rules (at_ 14).transaction).commit Fault.error
      (recordCompute platform (at_ 14) recoveryIDs boundIntent starting) recovered =
      .ok ((), leaving 14 lateObservation recovered startingRows) := committed
  have fresh := (compute_observations_are_fresh platform admitted_pristine
    (reaches_bound .closed).run loads_bound more recorded).1
  have degraded : (paused .sessions).map (·.state) = [.degraded] := by decide +kernel
  exact ⟨paused, recovered, _, degraded, committed, fresh _ (.single pauses) (.single recovers),
    fresh _ more .refl⟩

end Fence

end ThinkPixelAR.Guarantees
