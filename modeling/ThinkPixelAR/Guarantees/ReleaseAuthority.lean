import ThinkPixelAR.Guarantees.SandboxJournal

/-!
What a release can rely on: whether RELEASED is final, whether the desired state can
revert, and whether a journalled release is authorized. The desired state has two
sources, the journal and, while it is empty, the cleanup intent of the bound resource;
both are followed through every run.
-/
namespace ThinkPixelAR.Guarantees

open Relational Postgres

variable {q : SandboxBindingRequestRow} {row : SandboxBindingRow} {intent : Sandbox.ComputeIntent}

/-! ### Withdrawn compute -/

/-- The sandbox has a journal, or an intent to remove its bound resource exists in one
of the given states. -/
def Withdrawn (states : Cleanup.State → Prop) (db : Db) (id : ID) : Prop :=
  ∃ q ∈ db .sandboxBindingRequests, q.sandboxBindingID = id ∧
    (q.operationRevision ≠ 0 ∨ ∃ row ∈ db .sandboxBindings, row.id = id ∧
      row.providerReference ≠ none ∧ ∃ c ∈ db .cleanupIntents,
        isTarget ⟨q.canonicalRequest, row.providerReference⟩ id c = true ∧ states c.state)

section Withdrawn
variable {platform : Platform} {rule : Discipline} {db after : Db} {id : ID} {now : Time}
  {states : Cleanup.State → Prop}

theorem isTarget_owner {b : Sandbox.Binding} {c : CleanupIntentRow}
    (target : isTarget b id c = true) : c.ownerType = "sandbox-binding" ∧ c.ownerID = id := by
  simp only [isTarget, Bool.and_eq_true, decide_eq_true_eq] at target
  exact target.1.1.1.1

/-- Withdrawn compute stays so if its intents stay in the given states while its
journal is empty. -/
theorem Withdrawn.persists (withdrawn : Withdrawn states db id) (persists : Persists db after)
    (kept : ∀ q ∈ db .sandboxBindingRequests, q.sandboxBindingID = id → q.operationRevision = 0 →
      ∀ c ∈ db .cleanupIntents, c.ownerID = id → states c.state →
        ∃ c' ∈ after .cleanupIntents, cleanupIdentity c' = cleanupIdentity c ∧ states c'.state) :
    Withdrawn states after id := by
  obtain ⟨q, request, key, evidence⟩ := withdrawn
  obtain ⟨q', request', continued⟩ := persists.requests q request
  refine ⟨q', request', continued.key.trans key, ?_⟩
  by_cases empty : q.operationRevision = 0
  · obtain journalled | ⟨row, binding, key', bound, c, cleanup, target, state⟩ := evidence
    · exact (journalled empty).elim
    · obtain ⟨row', binding', advanced⟩ := persists.bindings row binding
      obtain ⟨c', cleanup', same, state'⟩ :=
        kept q request key empty c cleanup (isTarget_owner target).2 state
      have reference := advanced.reference bound
      refine .inr ⟨row', binding', advanced.key.trans key', reference ▸ bound, c', cleanup',
        ?_, state'⟩
      rwa [continued.request, reference, isTarget_congr same]
  · exact .inl fun none => empty (Nat.le_zero.mp (none ▸ continued.revision))

/-- Withdrawn compute is not to be running. -/
theorem Withdrawn.desired (withdrawn : Withdrawn states db id) (sound : Sound db)
    (active : ∀ s, states s → s ≠ .quarantined)
    (loaded : ComputeLoaded platform now db id q row intent) : intent.desired = .released := by
  obtain ⟨q', request, key, evidence⟩ := withdrawn
  obtain ⟨⟨stored, key''⟩, binding, key'⟩ := loaded.stored.mem
  obtain rfl := sound.request_eq request stored (key.trans key''.symm)
  have desired := loaded.desired
  generalize intent.current = current at desired
  cases desired with
  | cleanup => rfl
  | journal => rfl
  | running empty clean =>
    obtain journalled | ⟨row', present, same, bound, c, cleanup, target, state⟩ := evidence
    · exact (journalled empty).elim
    · obtain rfl := sound.binding_eq present binding (same.trans key'.symm)
      have settled : c.state = .pending ∨ c.state = .confirmed := by
        have := active c.state state
        cases h : c.state <;> simp_all
      have none := List.find?_eq_none.mp clean c cleanup
      rw [Bool.and_eq_true, isRelease_iff] at none
      exact (none ⟨Option.isSome_iff_ne_none.mpr bound, target, settled⟩).elim

/-- Compute that is loaded for release is withdrawn. -/
theorem withdrawn_of_loaded (loaded : ComputeLoaded platform now db id q row intent)
    (released : intent.desired = .released) : Withdrawn (· ≠ .quarantined) db id := by
  obtain ⟨⟨request, key⟩, binding, key'⟩ := loaded.stored.mem
  refine ⟨q, request, key, ?_⟩
  have desired := loaded.desired
  generalize intent.current = current at desired
  cases desired with
  | running => cases released
  | journal journalled => exact .inl journalled
  | @cleanup c _ found =>
    have release := List.find?_some found
    rw [Bool.and_eq_true, isRelease_iff] at release
    refine .inr ⟨row, binding, key', Option.isSome_iff_ne_none.mp release.1, c,
      List.mem_of_find?_eq_some found, release.2.1, ?_⟩
    rcases release.2.2 with state | state <;> simp [state]

end Withdrawn

/-! ### Release is final -/

/-- Of a RELEASED binding only RELEASED is observed. -/
def releasedOnly : Discipline :=
  { Discipline.free with
    observes := fun db id state => state ≠ .released →
      ∀ row ∈ db .sandboxBindings, row.id = id → row.state ≠ .released }

/-- A RELEASED binding is RELEASED later. -/
def ReleasedKept (db later : Db) : Prop :=
  ∀ row ∈ db .sandboxBindings, row.state = .released →
    ∃ new ∈ later .sandboxBindings, new.id = row.id ∧ new.state = .released

/-- The compute of a RELEASED binding is withdrawn for good. -/
def ReleasedWithdrawn (db : Db) : Prop :=
  ∀ row ∈ db .sandboxBindings, row.state = .released → Withdrawn (· = .confirmed) db row.id

section Final
variable {platform : Platform} {rule : Discipline} {db after : Db} {id : ID}

/-- A confirmed intent stays as it is. -/
theorem Withdrawn.confirmed_persists (withdrawn : Withdrawn (· = .confirmed) db id)
    (persists : Persists db after) : Withdrawn (· = .confirmed) after id := by
  refine withdrawn.persists persists fun _ _ _ _ c cleanup _ confirmed => ?_
  obtain ⟨c', present, tracked⟩ := persists.cleanup c cleanup
  obtain rfl := tracked.terminal (by rw [confirmed]; decide)
  exact ⟨c', present, rfl, confirmed⟩

/-- Absence is recorded of withdrawn compute, together with the confirmation. -/
theorem withdrawn_of_confirmed {current : Sandbox.ComputeIntent}
    {observed : Sandbox.ComputeObservation}
    (release : ReleaseObserved platform db after id q row current observed)
    (cleanup : ∃ now, after .cleanupIntents =
      updated (fun c => c.cleanupOperationID = current.operation.id &&
        c.ownerType = "sandbox-binding" && c.ownerID = id && c.state = .pending)
        (confirmCleanup now) (db .cleanupIntents)) : Withdrawn (· = .confirmed) after id := by
  obtain ⟨_, loaded⟩ := release.loaded
  obtain ⟨now, bindings⟩ := release.bindings
  obtain ⟨then_, cleanup⟩ := cleanup
  obtain ⟨⟨request, key⟩, binding, key'⟩ := loaded.stored.mem
  refine ⟨q, by rwa [release.requests], key, ?_⟩
  have desired := loaded.desired
  have wanted := release.desired
  generalize current.current = fence at desired
  cases desired with
  | running => cases wanted
  | journal journalled => exact .inl journalled
  | @cleanup c _ found =>
    have matched := List.find?_some found
    rw [Bool.and_eq_true, isRelease_iff] at matched
    obtain ⟨bound, target, state⟩ := matched
    have member := List.mem_of_find?_eq_some found
    refine .inr ⟨observeOn platform observed now row, ?_, key',
      Option.isSome_iff_ne_none.mp bound, ?_⟩
    · rw [bindings]
      exact mem_updated.mpr ⟨row, binding, .inl ⟨by simpa using key', rfl⟩⟩
    · rw [cleanup]
      rcases state with pending | confirmed
      · refine ⟨confirmCleanup then_ c, mem_updated.mpr ⟨c, member, .inl ⟨?_, rfl⟩⟩, target, rfl⟩
        obtain ⟨owner, same⟩ := isTarget_owner target
        simp [releasedIntent, owner, same, pending]
      · refine ⟨c, mem_updated.mpr ⟨c, member, .inr ⟨?_, rfl⟩⟩, target, confirmed⟩
        simp [confirmed]

theorem releasedWithdrawn_step (sound : Sound db) (settled : Sound after)
    (before : ReleasedWithdrawn db) (change : Change platform rule db after) :
    ReleasedWithdrawn after := by
  intro new member absent
  cases change.restates settled member with
  | kept present kept =>
    rw [kept.key]
    exact (before _ present (kept.state ▸ absent)).confirmed_persists (change.persists sound)
  | requested _ state =>
    rw [state] at absent
    cases absent
  | running _ _ present => exact (present absent).elim
  | releasing _ _ present =>
    rcases present with other | other <;> rw [other] at absent <;> cases absent
  | confirmed release _ cleanup => exact withdrawn_of_confirmed release cleanup

/-- No change takes a binding out of RELEASED. -/
theorem releasedKept_step (sound : Sound db) (settled : Sound after)
    (withdrawn : ReleasedWithdrawn db) (change : Change platform releasedOnly db after) :
    ReleasedKept db after := by
  intro row present released
  obtain ⟨new, member, advanced⟩ := (change.persists sound).bindings row present
  refine ⟨new, member, advanced.key, ?_⟩
  have evidence : Withdrawn (· = .confirmed) db new.id :=
    advanced.key ▸ withdrawn row present released
  cases change.restates settled member with
  | kept before kept =>
    rw [kept.state, sound.binding_eq before present (kept.key.symm.trans advanced.key), released]
  | requested unknown => exact (unknown row present advanced.key.symm).elim
  | running loaded running =>
    have wanted := evidence.desired sound (fun s confirmed => by rw [confirmed]; decide) loaded
    rw [running] at wanted
    cases wanted
  | releasing _ allowed _ =>
    by_contra other
    exact allowed other row present advanced.key.symm released
  | confirmed _ absent => exact absent

end Final

/-- RELEASED is final in every run in which only RELEASED is observed of a RELEASED
binding: no recovery, suspension, resumption, replacement or late observation of
running compute takes the state back. -/
theorem released_is_final (platform : Platform) {initial db later : Db}
    (pristine : Pristine initial)
    (run : Relation.ReflTransGen (LifecycleStep platform releasedOnly) initial db)
    (more : Relation.ReflTransGen (LifecycleStep platform releasedOnly) db later) :
    ReleasedKept db later := by
  have moves := moves_of_run pristine.sound run
  have sound := (moves.keeps pristine.sound).1
  have start : ReleasedWithdrawn initial := by
    intro row member
    rw [pristine.empty .sandboxBindings (by decide)] at member
    cases member
  have withdrawn : ReleasedWithdrawn db :=
    moves.invariant releasedWithdrawn_step pristine.sound start
  have both : ReleasedWithdrawn later ∧ ReleasedKept db later := by
    refine (moves_of_run sound more).invariant (I := fun d => ReleasedWithdrawn d ∧
      ReleasedKept db d) ?_ sound
      ⟨withdrawn, fun row member released => ⟨row, member, rfl, released⟩⟩
    intro d e sound settled before change
    refine ⟨releasedWithdrawn_step sound settled before.1 change, fun row member released => ?_⟩
    obtain ⟨middle, between, same, state⟩ := before.2 row member released
    obtain ⟨new, present, key, final⟩ :=
      releasedKept_step sound settled before.1 change middle between state
    exact ⟨new, present, key.trans same, final⟩
  exact both.2

namespace Sample.Sandboxes

/-- The provider does not answer. -/
def unavailable : Sandbox.ComputeObservation :=
  { state := .unknown, code := "PROVIDER_UNAVAILABLE", converged := false
    recoveryRequired := false, effective := unverified }

def relapse : Transaction Unit :=
  recordCompute platform (at_ 14) recoveryIDs (releaseIntent removedBinding) unavailable

/-- A worker that loaded the RELEASED binding gets no answer from the provider. -/
def relapsedRows : Db := fun
  | .sandboxBindings => [observeOn platform unavailable 14 removedBinding]
  | t => removedRows t

def relapsed : Db := leaving 14 relapse removed relapsedRows

def relapseEvaluated : Evaluated 14 relapse removed where
  store := relapsedRows
  evaluates := by decide +kernel

theorem relapse_evaluates : evaluatesTo 14 relapse removed relapsedRows = true :=
  relapseEvaluated.evaluates

theorem unused_removed : Unused removed recoveryIDs.operation := by
  unfold Unused
  decide +kernel

theorem relapses : LifecycleStep platform .closed removed relapsed := by
  have reaches : Reaches .closed removed := reaches_removed trivial trivial
  have call : Call platform .closed removed 14 relapse :=
    .recordCompute (at_ 14) recoveryIDs _ unavailable unused_removed trivial nofun
  obtain ⟨result, committed⟩ := commits_of_evaluatesTo reaches.sound relapse_evaluates
  exact ⟨Unit, 14, relapse, result, call, committed⟩

/-- Absence is confirmed once more. -/
def again : Transaction Unit :=
  recordCompute platform (at_ 14) recoveryIDs (releaseIntent removedBinding) absent

def againRows : Db := fun
  | .sandboxBindings => [observeOn platform absent 14 removedBinding]
  | t => removedRows t

def againEvaluated : Evaluated 14 again removed where
  store := againRows
  evaluates := by decide +kernel

theorem again_evaluates : evaluatesTo 14 again removed againRows = true :=
  againEvaluated.evaluates

end Sample.Sandboxes

section Relapse
open Sample.Sandboxes

/-- A late answer of the provider takes a binding out of RELEASED. -/
theorem released_state_relapses :
    ¬ ∀ db later : Db,
      Relation.ReflTransGen (LifecycleStep platform .closed) admitted db →
      Relation.ReflTransGen (LifecycleStep platform .closed) db later → ReleasedKept db later := by
  intro kept
  have reaches : Reaches .closed removed := reaches_removed trivial trivial
  obtain ⟨new, member, -, released⟩ := kept _ _ reaches.run (.single relapses)
    removedBinding (List.mem_singleton_self _) rfl
  obtain rfl := List.mem_singleton.mp (show new ∈ [observeOn _ unavailable 14 _] from member)
  cases released

theorem released_is_final_after_removal :
    ∃ db later, db ≠ later ∧
      (db .sandboxBindings).map (·.state) = [.released] ∧ ReleasedKept db later := by
  have observes : releasedOnly.observes bound (ID.v7 5) .unknown := by
    intro _ row member
    obtain rfl := List.mem_singleton.mp (show row ∈ [boundBinding] from member)
    decide
  have reaches : Reaches releasedOnly removed :=
    reaches_removed observes fun other => (other rfl).elim
  have call : Call platform releasedOnly removed 14 again :=
    .recordCompute (at_ 14) recoveryIDs _ absent unused_removed (fun other => (other rfl).elim)
      nofun
  obtain ⟨_, committed⟩ := commits_of_evaluatesTo reaches.sound again_evaluates
  refine ⟨_, _, ?_, rfl, released_is_final _ admitted_pristine reaches.run
    (.single ⟨_, _, _, _, call, committed⟩)⟩
  intro same
  have versions := congrArg (fun db : Db => (db .sandboxBindings).map (·.stateVersion)) same
  exact absurd versions (by decide +kernel)

end Relapse

/-! ### The desired state -/

/-- Only intents of journalled sandboxes are quarantined. -/
def journalledQuarantines : Discipline :=
  { Discipline.free with
    quarantines := fun db c => ∀ q ∈ db .sandboxBindingRequests, q.sandboxBindingID = c.ownerID →
      q.operationRevision ≠ 0 }

/-- No change gives withdrawn compute back. -/
theorem withdrawn_step {platform : Platform} {db after : Db} {id : ID} (sound : Sound db)
    (withdrawn : Withdrawn (· ≠ .quarantined) db id)
    (change : Change platform journalledQuarantines db after) :
    Withdrawn (· ≠ .quarantined) after id := by
  refine withdrawn.persists (change.persists sound)
    fun q request key empty c cleanup owner active => ?_
  obtain ⟨c', present, tracked, quarantined⟩ := change.retains c cleanup
  refine ⟨c', present, tracked.identity, fun state => ?_⟩
  exact quarantined active state q request (key.trans owner.symm) empty

/-- Once a load returned Desired Released, every later load does, in every run that
quarantines no intent of a sandbox whose journal is empty. -/
theorem desired_stays_released (platform : Platform) {initial db later : Db}
    (pristine : Pristine initial)
    (run : Relation.ReflTransGen (LifecycleStep platform journalledQuarantines) initial db)
    (more : Relation.ReflTransGen (LifecycleStep platform journalledQuarantines) db later)
    {now then_ : Time} {id : ID} {intent next : Sandbox.ComputeIntent}
    (loads : LoadsCompute platform now db id intent) (released : intent.desired = .released)
    (again : LoadsCompute platform then_ later id next) : next.desired = .released := by
  have sound := ((moves_of_run pristine.sound run).keeps pristine.sound).1
  have moves := moves_of_run sound more
  obtain ⟨⟨q, row, loaded⟩, -⟩ := loadsCompute_iff.mp loads
  obtain ⟨⟨q', row', reloaded⟩, -⟩ := loadsCompute_iff.mp again
  have withdrawn : Withdrawn (· ≠ .quarantined) later id :=
    moves.invariant (fun sound _ before change => withdrawn_step sound before change) sound
      (withdrawn_of_loaded loaded released)
  exact withdrawn.desired (moves.keeps sound).1 (fun _ active => active) reloaded

namespace Sample.Sandboxes

/-- The removal of the bound resource, planned before any journal entry. -/
def plan : CleanupIntentRow :=
  pendingCleanup platform 12 ⟨request, some "uid"⟩ (ID.v7 9) false digest

def plans : Transaction Unit := CleanupIntents.add plan

def plannedRows : Db := fun
  | .cleanupIntents => [plan]
  | t => boundRows t

def planned : Db := leaving 12 plans bound plannedRows

def plansEvaluated : Evaluated 12 plans bound where
  store := plannedRows
  evaluates := by decide +kernel

theorem plans_evaluates : evaluatesTo 12 plans bound plannedRows = true :=
  plansEvaluated.evaluates

theorem planned_eq : planned = plannedRows := by
  have writes : plans.Submits (OnTables [.cleanupIntents]) := submits_execWrapped.mpr (by simp)
  refine leaving_eq (reaches_bound .closed).sound plans_evaluates writes rfl ?_
  exact congrFun bound_eq.symm .outboxMessages

def plannedIntent : Sandbox.ComputeIntent :=
  releasedIntent (requestRow request) boundBinding true ⟨ID.v7 9, digest⟩ true

/-- The provider refuses the release of a resource it does not recognize. -/
def refused : Sandbox.ComputeObservation :=
  { missing with code := "PROVIDER_INTEGRITY_FAILURE" }

def refusal : Transaction Unit :=
  recordCompute platform (at_ 13) recoveryIDs plannedIntent refused

def refusedBinding : SandboxBindingRow := observeOn platform refused 13 boundBinding

def refusalPayload : String :=
  "\x7b\"reason_code\":\"PROVIDER_INTEGRITY_FAILURE\",\"recovery_required\":true," ++
    "\"sandbox_id\":\"00000000-0000-7000-8000-000000000005\"\x7d"

/-- The planned removal is quarantined. -/
def refusedRows : Db := fun
  | .sandboxBindings => [refusedBinding]
  | .cleanupIntents => [quarantineCleanup 13 plan]
  | .reconciliationWork =>
      [work, { recoveryWork with
        lastErrorCode := some "PROVIDER_INTEGRITY_FAILURE", nextAttemptAt := 13, createdAt := 13
        updatedAt := 13 }]
  | .runtimeEventStreams => [{ sessionID := ID.v7 2, lastSequence := 1, updatedAt := 13 }]
  | .runtimeEvents => [(scopeSubject request.scope "sandbox-binding" (ID.v7 5)).event (ID.v7 8) 1 2
      .sandboxHealthChanged .isInternal refusalPayload "runtime-control" 13]
  | t => plannedRows t

def unplanned : Db := leaving 13 refusal planned refusedRows

def refusalEvaluated : Evaluated 13 refusal plannedRows where
  store := refusedRows
  evaluates := by decide +kernel

theorem refusal_evaluates : evaluatesTo 13 refusal planned refusedRows = true :=
  planned_eq ▸ refusalEvaluated.evaluates

theorem unused_planned : Unused planned recoveryIDs.operation := by
  unfold Unused
  decide +kernel

theorem reaches_planned : Reaches .free planned := by
  have call : Call platform .free bound 12 plans := .addCleanup 12 plan trivial
  exact (reaches_bound .free).step call plans_evaluates

theorem reaches_unplanned :
    LifecycleStep platform .free planned unplanned ∧ Reaches .free unplanned := by
  have call : Call platform .free planned 13 refusal :=
    .recordCompute (at_ 13) recoveryIDs plannedIntent refused unused_planned trivial
      fun _ _ _ _ _ => trivial
  obtain ⟨result, committed⟩ := commits_of_evaluatesTo reaches_planned.sound refusal_evaluates
  exact ⟨⟨Unit, 13, refusal, result, call, committed⟩, reaches_planned.step call refusal_evaluates⟩

end Sample.Sandboxes

section Reversion
open Sample.Sandboxes

/-- The quarantine of an intent that no journal entry backs makes released compute
desired again. -/
theorem desired_state_reverts :
    ¬ ∀ (db later : Db) (now then_ : Time) (id : ID) (intent next : Sandbox.ComputeIntent),
      Relation.ReflTransGen (LifecycleStep platform .free) admitted db →
      Relation.ReflTransGen (LifecycleStep platform .free) db later →
      LoadsCompute platform now db id intent → intent.desired = .released →
      LoadsCompute platform then_ later id next → next.desired = .released := by
  intro kept
  obtain ⟨step, reaches⟩ := reaches_unplanned
  have before : LoadsCompute platform 13 planned (ID.v7 5) plannedIntent :=
    loadsCompute_of_evaluates reaches_planned.settled (by decide +kernel)
  have after : LoadsCompute platform 14 unplanned (ID.v7 5)
      (runningIntent (requestRow request) refusedBinding true) :=
    loadsCompute_of_evaluates reaches.settled (by decide +kernel)
  cases kept _ _ 13 14 _ _ _ reaches_planned.run (.single step) before rfl after

theorem desired_stays_released_after_loss :
    ∃ db later, db ≠ later ∧ ∃ intent, LoadsCompute platform 13 later (ID.v7 5) intent ∧
      intent.desired = .released := by
  have reaches : Reaches journalledQuarantines lost := reaches_lost trivial
  have call : Call platform journalledQuarantines lost 13 removal :=
    .recordCompute (at_ 13) recoveryIDs _ absent unused_lost trivial nofun
  obtain ⟨_, committed⟩ := commits_of_evaluatesTo reaches.sound removal_evaluates
  have later : Reaches journalledQuarantines removed := reaches.step call removal_evaluates
  have before : LoadsCompute platform 13 lost (ID.v7 5) (releaseIntent lostBinding) :=
    loadsCompute_of_evaluates reaches.settled (by decide +kernel)
  have after : LoadsCompute platform 13 removed (ID.v7 5) (releaseIntent removedBinding) :=
    loadsCompute_of_evaluates later.settled (by decide +kernel)
  refine ⟨lost, removed, ?_, _, after, desired_stays_released _ admitted_pristine reaches.run
    (.single ⟨_, _, _, _, call, committed⟩) before rfl after⟩
  intro same
  have versions := congrArg (fun db : Db => (db .sandboxBindings).map (·.stateVersion)) same
  exact absurd versions (by decide +kernel)

end Reversion

/-! ### Authorization of journalled releases -/

/-- New releases of the sandbox are begun once a matching intent exists. -/
def authorizedReleases (platform : Platform) (id : ID) : Discipline :=
  { Discipline.free with
    releases := fun db begun op => begun = id →
      (∀ o ∈ db .sandboxOperations, o.operationID ≠ op.id) →
      ∀ q row, Stored platform db id q row →
        cleanupAuthorizes db ⟨q.canonicalRequest, row.providerReference⟩ id op = true }

/-- An intent that exactly matches the operation, the reference and the digests. -/
def MatchingIntent (db : Db) (id : ID) (op : RecordedOperation) (c : CleanupIntentRow) : Prop :=
  c ∈ db .cleanupIntents ∧ c.cleanupOperationID = op.id ∧ c.requestDigest = op.digest ∧
    ∃ q ∈ db .sandboxBindingRequests, q.sandboxBindingID = id ∧ ∃ row ∈ db .sandboxBindings,
      row.id = id ∧ isTarget ⟨q.canonicalRequest, row.providerReference⟩ id c = true

/-- Every journalled release of the sandbox has its intent. -/
def ReleasesMatched (db : Db) (id : ID) : Prop :=
  ∀ o ∈ db .sandboxOperations, o.kind = .release → o.sandboxBindingID = id →
    ∃ c, MatchingIntent db id ⟨o.operationID, o.requestDigest⟩ c

section Authorization
variable {platform : Platform} {db after : Db} {id : ID} {op : RecordedOperation}
  {c : CleanupIntentRow}

/-- The target of an intent is bound, so the intent keeps matching. -/
theorem MatchingIntent.persists (sound : Sound db) (matching : MatchingIntent db id op c)
    (persists : Persists db after) : ∃ c', MatchingIntent after id op c' := by
  obtain ⟨member, same, digest, q, request, key, row, binding, key', target⟩ := matching
  obtain ⟨q', request', continued⟩ := persists.requests q request
  obtain ⟨row', binding', advanced⟩ := persists.bindings row binding
  obtain ⟨c', member', tracked⟩ := persists.cleanup c member
  have bound : row.providerReference ≠ none := by
    intro none
    simp only [isTarget, none, Bool.and_eq_true, decide_eq_true_eq] at target
    exact sound.cleanup_target member target.1.2
  have identity := tracked.identity
  have operation : ∀ c, c.cleanupOperationID = (cleanupIdentity c).cleanupOperationID ∧
      c.requestDigest = (cleanupIdentity c).requestDigest := fun _ => ⟨rfl, rfl⟩
  refine ⟨c', member', ?_, ?_, q', request', continued.key.trans key, row', binding',
    advanced.key.trans key', ?_⟩
  · rw [(operation c').1, identity]
    exact same
  · rw [(operation c').2, identity]
    exact digest
  · rwa [continued.request, advanced.reference bound, isTarget_congr identity]

theorem matchingIntent_of_authorized (stored : Stored platform db id q row)
    (authorized : cleanupAuthorizes db ⟨q.canonicalRequest, row.providerReference⟩ id op = true) :
    ∃ c, MatchingIntent db id op c := by
  obtain ⟨c, member, matched⟩ := List.any_eq_true.mp authorized
  simp only [Bool.and_eq_true, decide_eq_true_eq, isRelease_iff] at matched
  obtain ⟨⟨request, key⟩, binding, key'⟩ := stored.mem
  exact ⟨c, member, matched.1.2, matched.2, q, request, key, row, binding, key', matched.1.1.1⟩

/-- The intent that is journalled with a release matches it. -/
theorem matchingIntent_of_journalled {operationID : ID} {now : Time} {orphan : Bool}
    {proof : Digest} (owned : Owned db intent) (bound : intent.binding.providerReference ≠ none)
    (persists : Persists db after) (stamped : intent.binding.request.operation.digest = some proof)
    (cleanup : after .cleanupIntents = db .cleanupIntents ++
      [pendingCleanup platform now intent.binding operationID orphan proof]) :
    MatchingIntent after intent.binding.request.scope.sandboxID
      ⟨operationID, Sandbox.lifecycleDigest platform intent.binding.request.scope.sandboxID
        "release" operationID⟩
      (pendingCleanup platform now intent.binding operationID orphan proof) := by
  obtain ⟨q, request, key, canonical⟩ := owned.request
  obtain ⟨row, binding, key', reference⟩ := owned.binding
  obtain ⟨q', request', continued⟩ := persists.requests q request
  obtain ⟨row', binding', advanced⟩ := persists.bindings row binding
  have kept := advanced.reference (reference ▸ bound)
  refine ⟨?_, rfl, rfl, q', request', continued.key.trans key, row', binding',
    advanced.key.trans key', ?_⟩
  · rw [cleanup]
    exact List.mem_append_right _ (List.mem_singleton_self _)
  · simp [isTarget, pendingCleanup, continued.request, canonical, kept, reference, stamped]

theorem releasesMatched_step (sound : Sound db) (settled : Sound after)
    (before : ReleasesMatched db id)
    (change : Change platform (authorizedReleases platform id) db after) :
    ReleasesMatched after id := by
  have persists := change.persists sound
  have known : ∀ o ∈ db .sandboxOperations, o.kind = .release → o.sandboxBindingID = id →
      ∃ c, MatchingIntent after id ⟨o.operationID, o.requestDigest⟩ c := by
    intro o operation kind owner
    obtain ⟨c, matching⟩ := before o operation kind owner
    exact matching.persists sound persists
  intro o member kind owner
  cases change with
  | quiet same => exact known o (same .sandboxOperations (by decide) ▸ member) kind owner
  | reserved _ _ _ _ _ _ _ _ operations => exact known o (operations ▸ member) kind owner
  | bound _ _ changed | observed _ _ _ _ changed =>
    exact known o (changed.others .sandboxOperations rfl ▸ member) kind owner
  | releasing release | confirmed release | quarantined release =>
    exact known o (release.operations ▸ member) kind owner
  | appended stored _ allowed appended =>
    rw [appended.operations] at member
    rcases List.mem_append.mp member with old | new
    · exact known o old kind owner
    · -- The release was begun under a matching intent, which the append keeps.
      obtain rfl := List.mem_singleton.mp new
      obtain rfl : _ = id := owner
      have unique := settled.operation_unique
      rw [appended.operations] at unique
      obtain ⟨c, matching⟩ := matchingIntent_of_authorized stored
        (allowed kind rfl (fun o present => unique.inserted present) _ _ stored)
      exact matching.persists sound persists
  | @journalled intent operationID owned bound _ release =>
    obtain ⟨_, _, entry⟩ := release.entry
    obtain ⟨now, orphan, proof, stamped, cleanup⟩ := release.cleanup
    rw [entry.operations] at member
    rcases List.mem_append.mp member with old | new
    · exact known o old kind owner
    · obtain rfl := List.mem_singleton.mp new
      obtain rfl : _ = id := owner
      exact ⟨_, matchingIntent_of_journalled owned bound persists stamped cleanup⟩
  | added _ same | cleaned _ same => exact known o (same.2.2 ▸ member) kind owner

/-- A load of a matched release is authorized, or its intent is quarantined. -/
theorem ReleasesMatched.authorized (sound : Sound db) (matched : ReleasesMatched db id) {now : Time}
    (loaded : ComputeLoaded platform now db id q row intent)
    (released : intent.desired = .released) :
    intent.releaseAuthorized = true ∨ ∃ op c, intent.operation = ⟨op.id, some op.digest⟩ ∧
      MatchingIntent db id op c ∧ c.state = .quarantined := by
  obtain ⟨⟨request, key⟩, binding, key'⟩ := loaded.stored.mem
  have desired := loaded.desired
  generalize intent.current = current at desired
  cases desired with
  | running => cases released
  | cleanup => exact .inl rfl
  | @journal o _ found kind =>
    have owner := List.find?_some found
    simp only [Bool.and_eq_true, decide_eq_true_eq] at owner
    obtain ⟨c, matching⟩ := matched o (List.mem_of_find?_eq_some found) kind owner.1
    have ⟨member, same, digest, _, request', rekey, _, binding', rekey', target⟩ := matching
    obtain rfl := sound.request_eq request' request (rekey.trans key.symm)
    obtain rfl := sound.binding_eq binding' binding (rekey'.trans key'.symm)
    by_cases quarantined : c.state = .quarantined
    · exact .inr ⟨_, c, rfl, matching, quarantined⟩
    · refine .inl (List.any_eq_true.mpr ⟨c, member, ?_⟩)
      simp only [Bool.and_eq_true, decide_eq_true_eq, isRelease_iff]
      refine ⟨⟨⟨target, ?_⟩, same⟩, digest⟩
      cases h : c.state <;> simp_all

end Authorization

/-- In every run in which the releases of a sandbox are begun under a matching intent,
a load that returns Desired Released is authorized unless that intent is quarantined. -/
theorem journalled_release_is_authorized (platform : Platform) {initial db : Db} {id : ID}
    (pristine : Pristine initial)
    (run : Relation.ReflTransGen (LifecycleStep platform (authorizedReleases platform id))
      initial db)
    {now : Time} {intent : Sandbox.ComputeIntent} (loads : LoadsCompute platform now db id intent)
    (released : intent.desired = .released) :
    intent.releaseAuthorized = true ∨ ∃ op c, intent.operation = ⟨op.id, some op.digest⟩ ∧
      MatchingIntent db id op c ∧ c.state = .quarantined := by
  have moves := moves_of_run pristine.sound run
  obtain ⟨⟨q, row, loaded⟩, -⟩ := loadsCompute_iff.mp loads
  have start : ReleasesMatched initial id := by
    intro o member
    rw [pristine.empty .sandboxOperations (by decide)] at member
    cases member
  have matched : ReleasesMatched db id :=
    moves.invariant releasesMatched_step pristine.sound start
  exact matched.authorized (moves.keeps pristine.sound).1 loaded released

namespace Sample.Sandboxes

def begins : Transaction Nat :=
  beginOperation platform 12 (ID.v7 5) .release ⟨ID.v7 9, some digest⟩

def begunBinding : SandboxBindingRow := beginOn .release ⟨ID.v7 9, digest⟩ 12 boundBinding

/-- A release is begun before anything plans the removal. -/
def begunRows : Db := fun
  | .sandboxBindings => [begunBinding]
  | .sandboxBindingRequests => [lostRequest]
  | .sandboxOperations => [operationRow (ID.v7 5) .release ⟨ID.v7 9, digest⟩ 1 12]
  | t => boundRows t

def begun : Db := leaving 12 begins bound begunRows

def beginsEvaluated : Evaluated 12 begins bound where
  store := begunRows
  evaluates := by decide +kernel

theorem begins_evaluates : evaluatesTo 12 begins bound begunRows = true :=
  beginsEvaluated.evaluates

theorem reaches_begun : Reaches .closed begun := by
  have call : Call platform .closed bound 12 begins :=
    .beginOperation 12 (ID.v7 5) .release ⟨ID.v7 9, some digest⟩ fun _ _ _ => trivial
  exact (reaches_bound .closed).step call begins_evaluates

end Sample.Sandboxes

section Unauthorized
open Sample.Sandboxes

/-- A release that was begun without a cleanup intent is not authorized, and no intent
of it is quarantined. -/
theorem begun_release_is_unauthorized :
    ¬ ∀ (db : Db) (now : Time) (id : ID) (intent : Sandbox.ComputeIntent),
      Relation.ReflTransGen (LifecycleStep platform .closed) admitted db →
      LoadsCompute platform now db id intent → intent.desired = .released →
      intent.releaseAuthorized = true ∨ ∃ op c, intent.operation = ⟨op.id, some op.digest⟩ ∧
        MatchingIntent db id op c ∧ c.state = .quarantined := by
  intro authorized
  have loads : LoadsCompute platform 13 begun (ID.v7 5)
      (releasedIntent lostRequest begunBinding true ⟨ID.v7 9, digest⟩ false) :=
    loadsCompute_of_evaluates reaches_begun.settled (by decide +kernel)
  rcases authorized _ _ _ _ reaches_begun.run loads rfl with denied | ⟨_, c, -, matching, -⟩
  · cases denied
  · have planned : c ∈ ([] : List CleanupIntentRow) := matching.1
    cases planned

theorem journalled_release_is_authorized_after_loss :
    ∃ db, Reaches (authorizedReleases platform (ID.v7 5)) db ∧
      ∃ intent, LoadsCompute platform 13 db (ID.v7 5) intent ∧ intent.desired = .released ∧
        (intent.releaseAuthorized = true ∨ ∃ op c, intent.operation = ⟨op.id, some op.digest⟩ ∧
          MatchingIntent db (ID.v7 5) op c ∧ c.state = .quarantined) := by
  have reaches : Reaches (authorizedReleases platform (ID.v7 5)) lost := reaches_lost trivial
  have loads : LoadsCompute platform 13 lost (ID.v7 5) (releaseIntent lostBinding) :=
    loadsCompute_of_evaluates reaches.settled (by decide +kernel)
  exact ⟨lost, reaches, _, loads, rfl,
    journalled_release_is_authorized _ admitted_pristine reaches.run loads rfl⟩

end Unauthorized

end ThinkPixelAR.Guarantees
