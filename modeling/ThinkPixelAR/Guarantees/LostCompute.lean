import ThinkPixelAR.Guarantees.ReleaseAuthority

/-!
The release of lost compute. A recovery of bound compute journals its release with a
cleanup intent, once for each sandbox: the recovery work doubles as the test that a
recovery was already made, also of one that had nothing to release yet.
-/
namespace ThinkPixelAR.Guarantees

open Relational Postgres

/-- A call that recovers the lost or fenced compute of a sandbox: an observation that
requires it, or the expiry of the last credentials. -/
inductive Recovery (platform : Platform) (clock : Clock) (ids : RecoveryIDs) (db : Db) (id : ID)
    (current : Sandbox.ComputeIntent) : Transaction Unit → Prop
  | observed {expected : Sandbox.ComputeIntent} {observed : Sandbox.ComputeObservation}
      (target : expected.binding.request.scope.sandboxID = id)
      (required : observed.recoveryRequired = true) :
      Recovery platform clock ids db id current (recordCompute platform clock ids expected observed)
  | expired
      (expired : credentialsExpired db clock id current.binding.request.scope.attemptID = true) :
      Recovery platform clock ids db id current (recoverExpiredAgentd platform clock ids id)

/-- A release is journalled with a matching PENDING intent, and every load from `now` on
finds it authorized. -/
def ReleaseScheduled (platform : Platform) (now : Time) (db : Db) (id : ID) : Prop :=
  (∃ o ∈ db .sandboxOperations, o.kind = .release ∧ o.sandboxBindingID = id ∧
      ∃ c, MatchingIntent db id ⟨o.operationID, o.requestDigest⟩ c ∧ c.state = .pending) ∧
    ∀ later, now ≤ later → ∃ intent, LoadsCompute platform later db id intent ∧
      intent.desired = .released ∧ intent.releaseAuthorized = true

section Recovery
variable {platform : Platform} {clock : Clock} {ids : RecoveryIDs} {db middle after : Db} {id : ID}
  {now later t : Time} {current : Sandbox.ComputeIntent}

variable {r : Sandbox.AcquireRequest} {known : Bool}

/-- The fence stays known as time passes. -/
theorem sandboxFence_later {s : SessionRow} {e : Execution} {a : Attempt}
    (known : sandboxFence now r s e a ≠ .unknown) (passed : now ≤ later) :
    sandboxFence later r s e a ≠ .unknown := by
  by_cases due : later < e.deadline
  · have before : now < e.deadline := lt_of_le_of_lt passed due
    simpa [sandboxFence, due, before] using known
  · have expired : (sandboxFence later r s e a).Fails := by simp [sandboxFence, due]
    rw [expired]
    decide

theorem fenced_iff : (∃ known, Fenced now db r known) ↔
    ∃ s e a, scopeRows db r.scope = some (s, e, a) ∧ sandboxFence now r s e a ≠ .unknown := by
  constructor
  · rintro ⟨_, s, e, a, rows, ⟨-, holds⟩ | ⟨-, fails⟩⟩
    · exact ⟨s, e, a, rows, by rw [holds]; decide⟩
    · exact ⟨s, e, a, rows, by rw [fails]; decide⟩
  · rintro ⟨s, e, a, rows, known⟩
    cases h : sandboxFence now r s e a with
    | unknown => exact (known h).elim
    | true => exact ⟨true, s, e, a, rows, .inl ⟨rfl, h⟩⟩
    | false => exact ⟨false, s, e, a, rows, .inr ⟨rfl, h⟩⟩

/-- The fence stays known when the Session degrades. -/
theorem fenced_later {selects : SessionRow → Bool} (fence : Fenced now db r known)
    (settled : Sound after) (passed : now ≤ later)
    (sessions : after .sessions = updated selects (degrade t) (db .sessions))
    (executions : after .executions = db .executions) (attempts : after .attempts = db .attempts) :
    ∃ known, Fenced later after r known := by
  obtain ⟨s, e, a, rows, known⟩ := fenced_iff.mp ⟨_, fence⟩
  obtain ⟨⟨session, key⟩, -⟩ := scopeRows_ok rows
  have joined : ∀ s' ∈ after .sessions, s'.id = s.id →
      scopeRows after r.scope = some (s', e, a) := by
    intro s' member same
    have found : (after .sessions).find? (fun s => s.id = r.scope.sessionID) = some s' :=
      find?_eq_of_only member (decide_eq_true (same.trans key)) fun other present id =>
        settled.session_eq present member ((of_decide_eq_true id).trans (same.trans key).symm)
    simp only [scopeRows, Option.bind_eq_bind, Option.bind_eq_some_iff, Option.pure_def,
      Option.some.injEq, Prod.mk.injEq, executions, attempts] at rows ⊢
    obtain ⟨_, -, _, execution, _, attempt, rfl, rfl, rfl⟩ := rows
    rw [← same] at execution
    exact ⟨s', found, _, execution, _, attempt, rfl, rfl, rfl⟩
  refine fenced_iff.mpr ?_
  cases lost : selects s with
  | true =>
    have member : degrade t s ∈ after .sessions := by
      rw [sessions]
      exact mem_updated.mpr ⟨s, session, .inl ⟨lost, rfl⟩⟩
    have fenced : (sandboxFence later r (degrade t s) e a).Fails := by simp [sandboxFence, degrade]
    exact ⟨_, e, a, joined _ member rfl, by rw [fenced]; decide⟩
  | false =>
    have member : s ∈ after .sessions := by
      rw [sessions]
      exact mem_updated.mpr ⟨s, session, .inr ⟨lost, rfl⟩⟩
    exact ⟨s, e, a, joined s member rfl, sandboxFence_later known passed⟩

/-- Every load of a journalled release finds it authorized. -/
theorem loads_of_journalled (settled : Sound after) (deferred : Settled after)
    (owned : Owned db current) (bound : current.binding.providerReference ≠ none)
    (persists : Persists db after) {operationID : ID}
    (release : Postgres.Journalled platform db after current operationID)
    {q : SandboxBindingRequestRow} {row : SandboxBindingRow}
    (stored : Stored platform db current.binding.request.scope.sandboxID q row)
    (fence : Fenced later after q.canonicalRequest known) :
    ∃ intent, LoadsCompute platform later after current.binding.request.scope.sandboxID intent ∧
      intent.desired = .released ∧ intent.releaseAuthorized = true := by
  obtain ⟨q', row', stored', continued, -⟩ := stored.persists settled persists
  obtain ⟨txNow, _, entry⟩ := release.entry
  obtain ⟨now, orphan, proof, stamped, cleanup⟩ := release.cleanup
  obtain ⟨⟨request, key⟩, binding, key'⟩ := stored'.mem
  have revision : q'.operationRevision = current.revision + 1 := by
    rw [entry.requests] at request
    obtain ⟨old, -, ⟨-, rfl⟩ | ⟨other, rfl⟩⟩ := mem_updated.mp request
    · rfl
    · exact absurd key (of_decide_eq_false other)
  have last : releaseEntry platform txNow current.binding.request.scope.sandboxID operationID
      (current.revision + 1) ∈ after .sandboxOperations := by
    rw [entry.operations]
    exact List.mem_append_right _ (List.mem_singleton_self _)
  have found : journalledOperation after current.binding.request.scope.sandboxID
      q'.operationRevision = some (releaseEntry platform txNow
        current.binding.request.scope.sandboxID operationID (current.revision + 1)) := by
    refine find?_eq_of_only last (by simp [releaseEntry, revision]) fun o member same => ?_
    simp only [Bool.and_eq_true, decide_eq_true_eq] at same
    exact settled.revision_eq member last same.1 (same.2.trans revision)
  have matching : MatchingIntent after current.binding.request.scope.sandboxID _
      (pendingCleanup platform now current.binding operationID orphan proof) :=
    matchingIntent_of_journalled owned bound persists stamped cleanup
  obtain ⟨member, same, digest, p, request', rekey, b, binding', rekey', target⟩ := matching
  obtain rfl := settled.request_eq request' request (rekey.trans key.symm)
  obtain rfl := settled.binding_eq binding' binding (rekey'.trans key'.symm)
  have authorized : cleanupAuthorizes after ⟨p.canonicalRequest, b.providerReference⟩
      current.binding.request.scope.sandboxID ⟨operationID, Sandbox.lifecycleDigest platform
        current.binding.request.scope.sandboxID "release" operationID⟩ = true := by
    refine List.any_eq_true.mpr ⟨_, member, ?_⟩
    simp only [Bool.and_eq_true, decide_eq_true_eq, isRelease_iff]
    exact ⟨⟨⟨target, .inl rfl⟩, same⟩, digest⟩
  have loaded : ComputeLoaded platform later after current.binding.request.scope.sandboxID p b
      (releasedIntent p b known _ _) :=
    ⟨stored', continued.request ▸ fence, .journal (revision ▸ Nat.succ_ne_zero _) found rfl⟩
  exact ⟨_, loadsCompute_iff.mpr ⟨⟨p, b, loaded⟩, deferred⟩, rfl, authorized⟩

end Recovery

section Scheduling
variable {platform : Platform} {clock : Clock} {ids : RecoveryIDs} {db middle after : Db} {id : ID}
  {current : Sandbox.ComputeIntent} {q : SandboxBindingRequestRow} {row : SandboxBindingRow}

/-- A recovery writes an observation on the binding, and then recovers. -/
theorem Recovery.recovered {x : Transaction Unit}
    (recovery : Recovery platform clock ids db id current x)
    (loaded : ComputeLoaded platform clock.transaction db id q row current)
    (running : current.desired = .running)
    (success : x.run (rules clock.transaction).execute db = .ok ((), after)) :
    ∃ middle set, Observes set ∧ BindingChanged db middle id set ∧ Sound middle ∧
      Recovered platform ids.operation current middle after := by
  cases recovery with
  | observed target required =>
    obtain ⟨_, _, found, middle, recorded⟩ := recordCompute_effects success
    have again := recorded.loaded
    rw [target] at again
    obtain rfl := again.eq loaded
    refine ⟨middle, _, observeOn_observes _ _, target ▸ recorded.observes, recorded.sound, ?_⟩
    cases recorded.follows with
    | recovery _ recovered => exact recovered
    | confirmed absent =>
      have fits := recorded.fits
      simp [fitsDesired, running, absent] at fits
    | plain unrequired =>
      rw [required] at unrequired
      cases unrequired
  | expired expired =>
    obtain ⟨_, _, found, again, outcome⟩ := recoverExpiredAgentd_effects success
    obtain rfl := again.eq loaded
    obtain ⟨-, valid⟩ | ⟨-, -, middle, changed, sound, recovered⟩ := outcome
    · exact (valid ⟨by rw [running]; decide, expired⟩).elim
    · exact ⟨middle, _, expireOn_observes _, changed, sound, recovered⟩

/-- The recovery of bound compute that was not recorded before schedules its release. -/
theorem scheduled_of_recovered {set : SandboxBindingRow → SandboxBindingRow}
    (loaded : ComputeLoaded platform clock.transaction db id q row current)
    (observes : Observes set) (changed : BindingChanged db middle id set) (settled : Sound middle)
    {between : Db} (sound' : Sound between) {operationID : ID}
    (bound : current.binding.providerReference ≠ none)
    (sessions : ∃ now, after .sessions = updated
      (degradable middle current.binding.request.scope) (degrade now) (middle .sessions))
    (quiet : ∀ u, outside (.sessions :: recoveryTables) u = true → between u = middle u)
    (release : Postgres.Journalled platform between after current operationID) (final : Sound after)
    (deferred : Settled after) : ReleaseScheduled platform clock.transaction after id := by
  have scope := loaded.scope
  have first : Persists db middle := changed.persists fun b _ _ => observes.advanced b
  have second : Persists middle between := by
    have change : Change platform .free middle between := .quiet fun u member =>
      quiet u (List.all_eq_true.mp (by decide) u member)
    exact change.persists settled
  have owned : Owned between current := by
    have kept := loaded.owned.observed observes changed
    refine ⟨?_, ?_⟩
    · rw [quiet .sandboxBindingRequests rfl]
      exact kept.request
    · rw [quiet .sandboxBindings rfl]
      exact kept.binding
  obtain ⟨q', row', stored, continued, -⟩ := loaded.stored.persists sound' (first.trans second)
  rw [← scope] at stored
  refine ⟨?_, fun later passed => ?_⟩
  · obtain ⟨txNow, _, entry⟩ := release.entry
    obtain ⟨now, orphan, proof, stamped, cleanup⟩ := release.cleanup
    have matching : MatchingIntent after current.binding.request.scope.sandboxID _
        (pendingCleanup platform now current.binding operationID orphan proof) :=
      matchingIntent_of_journalled owned bound release.persists stamped cleanup
    rw [scope] at matching
    refine ⟨_, by rw [entry.operations]; exact List.mem_append_right _ (List.mem_singleton_self _),
      rfl, scope, pendingCleanup platform now current.binding operationID orphan proof, ?_, rfl⟩
    simpa [releaseEntry, scope] using matching
  · obtain ⟨now, sessions⟩ := sessions
    rw [changed.others _ rfl] at sessions
    obtain ⟨known, fence⟩ : ∃ known, Fenced later after q.canonicalRequest known := by
      refine fenced_later loaded.fence final passed sessions ?_ ?_
      · rw [release.others _ rfl, quiet _ rfl, changed.others _ rfl]
      · rw [release.others _ rfl, quiet _ rfl, changed.others _ rfl]
    rw [← continued.request] at fence
    have loads :=
      loads_of_journalled final deferred owned bound release.persists release stored fence
    rwa [scope] at loads

end Scheduling

/-- In every reachable state, the recovery of compute that should be running and whose
resource is bound schedules its release exactly if no recovery of the sandbox was
recorded before. -/
theorem lost_compute_is_released (platform : Platform) {initial db after : Db}
    (pristine : Pristine initial)
    (run : Relation.ReflTransGen (LifecycleStep platform .free) initial db) {clock : Clock}
    {ids : RecoveryIDs} {id : ID} {current : Sandbox.ComputeIntent} {x : Transaction Unit}
    (loads : LoadsCompute platform clock.transaction db id current)
    (running : current.desired = .running) (bound : current.binding.providerReference ≠ none)
    (recovery : Recovery platform clock ids db id current x)
    (committed : (rules clock.transaction).commit Fault.error x db = .ok ((), after)) :
    ReleaseScheduled platform clock.transaction after id ↔ knownRecovery db id = false := by
  have moves := moves_of_run pristine.sound run
  have sound := (moves.keeps pristine.sound).1
  have journal : Journal db := moves.invariant journal_step pristine.sound
    (pristine_lifecycle pristine).journal
  obtain ⟨⟨q, row, loaded⟩, -⟩ := loadsCompute_iff.mp loads
  obtain ⟨success, deferred⟩ := Rules.commit_ok.mp committed
  obtain ⟨middle, set, observes, changed, settled, recovered⟩ :=
    recovery.recovered loaded running success
  have work : knownRecovery middle current.binding.request.scope.sandboxID =
      knownRecovery db id := by
    rw [knownRecovery, changed.others _ rfl, loaded.scope, knownRecovery]
  cases recovered with
  | quarantined desired => rw [running] at desired; cases desired
  | unbound _ _ reference => exact (bound reference).elim
  | known _ recorded same =>
    refine iff_of_false (fun scheduled => ?_) (by rw [← work, recorded]; decide)
    -- The journal is as empty as it was.
    obtain ⟨⟨o, member, -, owner, -⟩, -⟩ := scheduled
    rw [same, changed.others _ rfl] at member
    obtain ⟨⟨request, key⟩, -⟩ := loaded.stored.mem
    have empty := journal.contiguous q request
    rw [← loaded.version.2, loaded.first running, key] at empty
    have listed : o ∈ journalOf db id := List.mem_filter.mpr ⟨member, decide_eq_true owner⟩
    rw [List.map_eq_nil_iff.mp empty] at listed
    cases listed
  | released _ unrecorded _ sessions between sound' quiet release =>
    refine iff_of_true ?_ (work ▸ unrecorded)
    exact scheduled_of_recovered loaded observes changed settled sound' bound sessions quiet release
      (commit_sound sound committed) (deferred_ok.mp deferred)

namespace Sample.Sandboxes

/-- The provider refuses to acquire; nothing is bound yet. -/
def suspicion : Transaction Unit :=
  recordCompute platform (at_ 11) recoveryIDs
    (runningIntent (requestRow request) binding true) refused

def suspectBinding : SandboxBindingRow := observeOn platform refused 11 binding

def suspectPayload : String :=
  "\x7b\"previous_state\":\"ACTIVE\",\"reason_code\":\"PROVIDER_INTEGRITY_FAILURE\"," ++
    "\"recovery_required\":true,\"sandbox_id\":\"00000000-0000-7000-8000-000000000005\"," ++
    "\"state\":\"DEGRADED\"\x7d"

/-- Recovery work is recorded, without a target to release. -/
def suspectRows : Db := fun
  | .sessions => [degrade 11 session]
  | .sandboxBindings => [suspectBinding]
  | .reconciliationWork =>
      [work, { recoveryWork with
        lastErrorCode := some "PROVIDER_INTEGRITY_FAILURE", nextAttemptAt := 11, createdAt := 11
        updatedAt := 11 }]
  | .runtimeEventStreams => [{ sessionID := ID.v7 2, lastSequence := 1, updatedAt := 11 }]
  | .runtimeEvents => [(scopeSubject request.scope "session" (ID.v7 2)).event (ID.v7 8) 1 3
      .sessionDegraded .isInternal suspectPayload "runtime-control" 11]
  | t => reservedRows t

def suspect : Db := leaving 11 suspicion reserved suspectRows

def suspicionEvaluated : Evaluated 11 suspicion reservedRows where
  store := suspectRows
  evaluates := by decide +kernel

theorem suspicion_evaluates : evaluatesTo 11 suspicion reserved suspectRows = true :=
  reserved_eq ▸ suspicionEvaluated.evaluates

def bindsLate : Transaction Unit := bindReference platform 12 (ID.v7 5) "uid"

def lateBinding : SandboxBindingRow := bindTo "uid" 12 suspectBinding

/-- The provider had created the resource after all, and its reference is saved. -/
def lateRows : Db := fun
  | .sandboxBindings => [lateBinding]
  | t => suspectRows t

def late : Db := leaving 12 bindsLate suspect lateRows

def bindsLateEvaluated : Evaluated 12 bindsLate suspect where
  store := lateRows
  evaluates := by decide +kernel

theorem bindsLate_evaluates : evaluatesTo 12 bindsLate suspect lateRows = true :=
  bindsLateEvaluated.evaluates

def fenced : Sandbox.ComputeObservation := { missing with code := "FENCED_COMPUTE" }

def lateIntent : Sandbox.ComputeIntent := runningIntent (requestRow request) lateBinding false

/-- The next reconciliation finds the compute fenced. -/
def fencing : Transaction Unit := recordCompute platform (at_ 13) recoveryIDs lateIntent fenced

def leakedRows : Db := fun
  | .sandboxBindings => [observeOn platform fenced 13 lateBinding]
  | t => lateRows t

def leaked : Db := leaving 13 fencing late leakedRows

def fencingEvaluated : Evaluated 13 fencing late where
  store := leakedRows
  evaluates := by decide +kernel

theorem fencing_evaluates : evaluatesTo 13 fencing late leakedRows = true :=
  fencingEvaluated.evaluates

theorem unused_reserved : Unused reserved recoveryIDs.operation := by
  unfold Unused
  decide +kernel

theorem reaches_late : Reaches .free late := by
  have suspects : Call platform .free reserved 11 suspicion :=
    .recordCompute (at_ 11) recoveryIDs _ refused unused_reserved trivial fun _ => nofun
  have binds : Call platform .free suspect 12 bindsLate := .bindReference 12 (ID.v7 5) "uid"
  exact ((reaches_reserved .free).step suspects suspicion_evaluates).step binds bindsLate_evaluates

end Sample.Sandboxes

section Leak
open Sample.Sandboxes

/-- Compute whose recovery was recorded before its reference was bound is not released
when it is found fenced. -/
theorem lost_compute_is_leaked :
    ¬ ∀ (db after : Db) (clock : Clock) (ids : RecoveryIDs) (id : ID)
      (current : Sandbox.ComputeIntent) (x : Transaction Unit),
      Relation.ReflTransGen (LifecycleStep platform .free) admitted db →
      LoadsCompute platform clock.transaction db id current → current.desired = .running →
      current.binding.providerReference ≠ none → Recovery platform clock ids db id current x →
      (rules clock.transaction).commit Fault.error x db = .ok ((), after) →
      ReleaseScheduled platform clock.transaction after id := by
  intro scheduled
  have loads : LoadsCompute platform (at_ 13).transaction late (ID.v7 5) lateIntent :=
    loadsCompute_of_evaluates reaches_late.settled (by decide +kernel)
  have recovery : Recovery platform (at_ 13) recoveryIDs late (ID.v7 5) lateIntent fencing :=
    .observed rfl rfl
  obtain ⟨_, committed⟩ := commits_of_evaluatesTo reaches_late.sound fencing_evaluates
  obtain ⟨⟨o, journalled, -⟩, -⟩ := scheduled late leaked (at_ 13) recoveryIDs (ID.v7 5) lateIntent
    fencing reaches_late.run loads rfl nofun recovery committed
  have empty : o ∈ ([] : List SandboxOperationRow) := journalled
  cases empty

theorem lost_compute_is_released_after_loss :
    ∃ after, (rules 12).commit Fault.error loss bound = .ok ((), after) ∧
      ReleaseScheduled platform 12 after (ID.v7 5) := by
  have reaches := reaches_bound .free
  have loads : LoadsCompute platform (at_ 12).transaction bound (ID.v7 5)
      (runningIntent (requestRow request) boundBinding true) :=
    loadsCompute_of_evaluates reaches.settled (by decide +kernel)
  obtain ⟨_, committed⟩ := commits_of_evaluatesTo reaches.sound loss_evaluates
  have recovery : Recovery platform (at_ 12) recoveryIDs bound (ID.v7 5)
      (runningIntent (requestRow request) boundBinding true) loss := .observed rfl rfl
  exact ⟨_, committed, (lost_compute_is_released platform admitted_pristine reaches.run loads
    rfl nofun recovery committed).mpr (by decide +kernel)⟩

end Leak

end ThinkPixelAR.Guarantees
