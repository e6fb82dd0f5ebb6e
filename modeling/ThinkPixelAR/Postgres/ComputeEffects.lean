import ThinkPixelAR.Postgres.ComputeReconciliation

/-!
What compute reconciliation leaves in the store: the intent a load returns, the
journal entries of a release, and the tables an observation or a recovery changes.
-/
namespace ThinkPixelAR.Postgres

open Relational
open Sandbox (ComputeIntent Binding lifecycleDigest ComputeObservation Scope)

variable {platform : Platform} {now : Time} {id : ID} {intent : ComputeIntent} {db : Db}

/-! ### Loading -/

/-- The intent of a sandbox before its journal and its cleanup are consulted. -/
def runningIntent (q : SandboxBindingRequestRow) (row : SandboxBindingRow) (current : Bool) :
    ComputeIntent :=
  { binding := { request := q.canonicalRequest, providerReference := row.providerReference }
    desired := .running, operation := q.canonicalRequest.operation, version := row.stateVersion
    revision := q.operationRevision, current, releaseAuthorized := false }

/-- The intent of a release with operation `op`. -/
def releasedIntent (q : SandboxBindingRequestRow) (row : SandboxBindingRow) (current : Bool)
    (op : RecordedOperation) (authorized : Bool) : ComputeIntent :=
  { runningIntent q row current with
    desired := .released
    operation := { id := op.id, digest := some op.digest }
    releaseAuthorized := authorized }

/-- The cleanup intent that stands for a release before any journal entry. -/
def unjournalledCleanup (db : Db) (b : Binding) (id : ID) : Option CleanupIntentRow :=
  (db .cleanupIntents).find? fun c => b.providerReference.isSome && isRelease b id c

/-- The last entry of the journal. -/
def journalledOperation (db : Db) (id : ID) (revision : Nat) : Option SandboxOperationRow :=
  (db .sandboxOperations).find? fun o => o.sandboxBindingID = id && o.revision = revision

/-- The three ways a desired state is found. -/
inductive Desires (platform : Platform) (db : Db) (id : ID) (q : SandboxBindingRequestRow)
    (row : SandboxBindingRow) (current : Bool) : ComputeIntent → Prop
  | running (unjournalled : q.operationRevision = 0)
      (clean : unjournalledCleanup db ⟨q.canonicalRequest, row.providerReference⟩ id = none) :
      Desires platform db id q row current (runningIntent q row current)
  | cleanup {c : CleanupIntentRow} (unjournalled : q.operationRevision = 0)
      (found : unjournalledCleanup db ⟨q.canonicalRequest, row.providerReference⟩ id = some c)
      (digest : c.requestDigest =
        lifecycleDigest platform id "release" c.cleanupOperationID) :
      Desires platform db id q row current
        (releasedIntent q row current ⟨c.cleanupOperationID, c.requestDigest⟩ true)
  | journal {o : SandboxOperationRow} (journalled : q.operationRevision ≠ 0)
      (found : journalledOperation db id q.operationRevision = some o)
      (release : o.kind = .release) :
      Desires platform db id q row current
        (releasedIntent q row current ⟨o.operationID, o.requestDigest⟩
          (cleanupAuthorizes db ⟨q.canonicalRequest, row.providerReference⟩ id
            ⟨o.operationID, o.requestDigest⟩))

/-- What `loadCompute` finds for a sandbox. -/
structure ComputeLoaded (platform : Platform) (now : Time) (db : Db) (id : ID)
    (q : SandboxBindingRequestRow) (row : SandboxBindingRow) (intent : ComputeIntent) :
    Prop where
  stored : Stored platform db id q row
  fence : Fenced now db q.canonicalRequest intent.current
  desired : Desires platform db id q row intent.current intent

section Loaded
variable {q : SandboxBindingRequestRow} {row : SandboxBindingRow}

theorem Desires.binding {current : Bool} (desires : Desires platform db id q row current intent) :
    intent.binding =
      { request := q.canonicalRequest, providerReference := row.providerReference } := by
  cases desires <;> rfl

theorem ComputeLoaded.binding (loaded : ComputeLoaded platform now db id q row intent) :
    intent.binding =
      { request := q.canonicalRequest, providerReference := row.providerReference } :=
  loaded.desired.binding

theorem ComputeLoaded.version (loaded : ComputeLoaded platform now db id q row intent) :
    intent.version = row.stateVersion ∧ intent.revision = q.operationRevision := by
  obtain ⟨-, -, desired⟩ := loaded
  generalize intent.current = current at desired
  cases desired <;> exact ⟨rfl, rfl⟩

theorem ComputeLoaded.scope (loaded : ComputeLoaded platform now db id q row intent) :
    intent.binding.request.scope.sandboxID = id := by
  rw [loaded.binding]
  exact loaded.stored.scope

end Loaded

/-- `loadCompute` only reads, and returns exactly the loaded intents. -/
theorem run_loadCompute {step : Stmt → Db → Except Fault (Nat × Db)} {after : Db} :
    (loadCompute platform now id).run step db = .ok (intent, after) ↔
      after = db ∧ ∃ q row, ComputeLoaded platform now db id q row intent := by
  constructor
  · intro success
    simp only [loadCompute, Tx.run_bind, Tx.run_get, run_queryRow] at success
    obtain ⟨⟨_, _⟩, _, read, current, _, locked, ⟨b, revision⟩, _, again, _, _, ⟨rfl, rfl⟩, row, _,
      ⟨found, rfl⟩, success⟩ := success
    obtain ⟨rfl, q, _, stored, rfl, rfl⟩ := run_readSandboxBinding.mp read
    obtain ⟨rfl, fence⟩ := run_lockSandboxFence.mp locked
    obtain ⟨rfl, q', row', stored', rfl, rfl⟩ := run_readSandboxBinding.mp again
    cases stored.request.symm.trans stored'.request
    cases found.symm.trans stored'.binding
    dsimp only at success
    split at success
    next unjournalled =>
      split at success
      next clean =>
        obtain ⟨rfl, rfl⟩ := Tx.run_pure.mp success
        exact ⟨rfl, q, row, stored', fence, .running unjournalled clean⟩
      next c cleanup =>
        simp only [Tx.run_bind, Tx.run_require, Tx.run_pure] at success
        obtain ⟨_, _, ⟨digest, rfl⟩, rfl, rfl⟩ := success
        exact ⟨rfl, q, row, stored', fence, .cleanup unjournalled cleanup digest⟩
    next journalled =>
      simp only [Tx.run_bind, run_queryRow, Tx.run_require, Tx.run_pure] at success
      obtain ⟨o, _, ⟨operation, rfl⟩, _, _, ⟨release, rfl⟩, rfl, rfl⟩ := success
      exact ⟨rfl, q, row, stored', fence, .journal journalled operation release⟩
  · rintro ⟨rfl, q, row, stored, fence, desired⟩
    have read : (readSandboxBinding platform id).run step after = .ok ((⟨q.canonicalRequest,
        row.providerReference⟩, q.operationRevision), after) :=
      run_readSandboxBinding.mpr ⟨rfl, q, row, stored, rfl, rfl⟩
    have locked : (lockSandboxFence now q.canonicalRequest).run step after =
        .ok (intent.current, after) := run_lockSandboxFence.mpr ⟨rfl, fence⟩
    simp only [loadCompute, Tx.run_bind, Tx.run_get, run_queryRow]
    refine ⟨_, _, read, _, _, locked, _, _, read, _, _, ⟨rfl, rfl⟩, row, _,
      ⟨stored.binding, rfl⟩, ?_⟩
    generalize intent.current = current at desired
    cases desired with
    | running unjournalled clean =>
      unfold unjournalledCleanup at clean
      simp only [unjournalled, if_true, clean, Tx.run_pure]
      exact ⟨by simp [runningIntent, unjournalled], trivial⟩
    | cleanup unjournalled found digest =>
      unfold unjournalledCleanup at found
      simp only [unjournalled, if_true, found, Tx.run_bind, Tx.run_require, Tx.run_pure]
      exact ⟨(), _, ⟨digest, rfl⟩, by simp [releasedIntent, runningIntent, unjournalled], rfl⟩
    | journal journalled found release =>
      unfold journalledOperation at found
      simp only [journalled, if_false, found, Tx.run_bind, run_queryRow, Tx.run_require,
        Tx.run_pure, Option.some.injEq]
      exact ⟨_, _, ⟨rfl, rfl⟩, (), _, ⟨release, rfl⟩, rfl, rfl⟩

/-- A load has one result. -/
theorem ComputeLoaded.eq {q q' : SandboxBindingRequestRow} {row row' : SandboxBindingRow}
    {other : ComputeIntent} (loaded : ComputeLoaded platform now db id q row intent)
    (again : ComputeLoaded platform now db id q' row' other) : intent = other := by
  have first : (loadCompute platform now id).run (rules now).execute db = .ok (intent, db) :=
    run_loadCompute.mpr ⟨rfl, q, row, loaded⟩
  have second : (loadCompute platform now id).run (rules now).execute db = .ok (other, db) :=
    run_loadCompute.mpr ⟨rfl, q', row', again⟩
  rw [first] at second
  cases second
  rfl

/-- `SandboxBindings.LoadCompute` returns the intent. -/
def LoadsCompute (platform : Platform) (now : Time) (db : Db) (id : ID)
    (intent : ComputeIntent) : Prop :=
  (rules now).commit Fault.error (loadCompute platform now id) db = .ok (intent, db)

theorem loadsCompute_iff : LoadsCompute platform now db id intent ↔
      (∃ q row, ComputeLoaded platform now db id q row intent) ∧ Settled db := by
  unfold LoadsCompute
  rw [Rules.commit_ok, run_loadCompute]
  exact and_congr (and_iff_right rfl) deferred_ok

/-- What a load evaluates to; it submits no statement. -/
def loadedCompute (platform : Platform) (now : Time) (db : Db) (id : ID) :
    Option ComputeIntent :=
  ((loadCompute platform now id).run (fun _ db => .ok (0, db)) db).toOption.map (·.1)

theorem loadsCompute_of_evaluates (settled : Settled db)
    (evaluated : loadedCompute platform now db id = some intent) :
    LoadsCompute platform now db id intent := by
  unfold loadedCompute at evaluated
  cases ran : (loadCompute platform now id).run (fun _ db => .ok (0, db)) db with
  | error e => simp [ran, Except.toOption] at evaluated
  | ok result =>
    obtain ⟨found, after⟩ := result
    obtain ⟨rfl, loaded⟩ := run_loadCompute.mp ran
    obtain rfl : found = intent := by simpa [ran, Except.toOption] using evaluated
    exact loadsCompute_iff.mpr ⟨loaded, settled⟩

/-! ### Journalling a release -/

/-- The tables that hold the lifecycle of sandboxes. -/
def sandboxTables : List Table :=
  [.cleanupIntents, .sandboxOperations, .sandboxBindingRequests, .sandboxBindings]

/-- The operation `o` was appended to the journal of its sandbox, whose binding was
changed by `set`. The journal was empty or did not end in a release. -/
structure Appended (db after : Db) (o : SandboxOperationRow)
    (set : SandboxBindingRow → SandboxBindingRow) : Prop where
  operations : after .sandboxOperations = db .sandboxOperations ++ [o]
  requests : after .sandboxBindingRequests = updated (·.sandboxBindingID = o.sandboxBindingID)
    (fun q => { q with operationRevision := o.revision }) (db .sandboxBindingRequests)
  bindings : after .sandboxBindings =
    updated (·.id = o.sandboxBindingID) set (db .sandboxBindings)
  advances : ∀ q ∈ db .sandboxBindingRequests, q.sandboxBindingID = o.sandboxBindingID →
    o.revision = q.operationRevision + 1
  last : o.revision = 1 ∨ ∃ before,
    journalledOperation db o.sandboxBindingID (o.revision - 1) = some before ∧
      before.kind ≠ .release

/-- The trigger of the request journal: only the revision moves, by one. -/
theorem updateTrigger_requests {old new : SandboxBindingRequestRow}
    (accepted : (rules now).updateTrigger .sandboxBindingRequests db old new = .ok ()) :
    new = { old with operationRevision := old.operationRevision + 1 } := by
  have kept := refuse_ok.mp (show refuse _ _ = _ from accepted)
  simp only [not_or, not_not] at kept
  obtain ⟨same, raised⟩ := kept
  rw [← same, ← raised]

/-- The cleanup intent of a release, PENDING. -/
def pendingCleanup (platform : Platform) (now : Time) (b : Binding) (operationID : ID)
    (orphan : Bool) (proof : Digest) : CleanupIntentRow :=
  { id := operationID, ownerType := "sandbox-binding", ownerID := b.request.scope.sandboxID
    targetType := "sandbox", providerKind := b.request.profile.providerKind
    externalReference := b.providerReference.getD "", cleanupOperationID := operationID
    requestDigest := lifecycleDigest platform b.request.scope.sandboxID "release" operationID
    ownershipProofDigest := proof, isOrphan := orphan, state := .pending, stateVersion := 0
    attempts := 0, nextAttemptAt := now, lastErrorCode := none, createdAt := now, updatedAt := now
    confirmedAt := none, quarantinedAt := none }

/-- The journal entry of a release. -/
def releaseEntry (platform : Platform) (now : Time) (id operationID : ID) (revision : Nat) :
    SandboxOperationRow :=
  { sandboxBindingID := id, operationID, kind := .release
    requestDigest := lifecycleDigest platform id "release" operationID, revision
    createdAt := now }

/-- The release operation, written on the binding. -/
def releaseOn (op : RecordedOperation) (now : Time) (b : SandboxBindingRow) : SandboxBindingRow :=
  { b with releaseOperation := some op, stateVersion := b.stateVersion + 1, updatedAt := now }

/-- A release was journalled together with its cleanup intent. -/
structure Journalled (platform : Platform) (db after : Db) (intent : ComputeIntent)
    (operationID : ID) : Prop where
  cleanup : ∃ now orphan proof, intent.binding.request.operation.digest = some proof ∧
    after .cleanupIntents = db .cleanupIntents ++
      [pendingCleanup platform now intent.binding operationID orphan proof]
  entry : ∃ txNow now, Appended db after
    (releaseEntry platform txNow intent.binding.request.scope.sandboxID operationID
      (intent.revision + 1))
    (releaseOn ⟨operationID, lifecycleDigest platform
      intent.binding.request.scope.sandboxID "release" operationID⟩ now)
  others : ∀ u, outside sandboxTables u = true → after u = db u

/-- Recovery work is already recorded for the sandbox. -/
def knownRecovery (db : Db) (id : ID) : Bool :=
  (db .reconciliationWork).any fun w =>
    w.kind = "sandbox.recover" && w.targetType = "sandbox" && w.targetID = id

/-- A release whose target is uncertain is quarantined. -/
def quarantineCleanup (now : Time) (c : CleanupIntentRow) : CleanupIntentRow :=
  { c with
    state := .quarantined
    stateVersion := c.stateVersion + 1
    attempts := c.attempts + 1
    lastErrorCode := some "PROVIDER_INTEGRITY_FAILURE"
    quarantinedAt := some now
    updatedAt := now }

/-- What recovery writes besides the Session and the sandbox tables. -/
def recoveryTables : List Table := .reconciliationWork :: eventTables

/-- What a recovery leaves. Work that is already recorded ends it; otherwise the
Session of running compute may degrade and bound compute is released. -/
inductive Recovered (platform : Platform) (operationID : ID) (intent : ComputeIntent)
    (db after : Db) : Prop
  | quarantined (desired : intent.desired = .released)
      (cleanup : ∃ now, after .cleanupIntents =
        updated (fun c => c.cleanupOperationID = intent.operation.id && c.state = .pending)
          (quarantineCleanup now) (db .cleanupIntents))
      (others : ∀ u, outside (.cleanupIntents :: recoveryTables) u = true → after u = db u)
  | known (desired : intent.desired = .running)
      (recorded : knownRecovery db intent.binding.request.scope.sandboxID = true)
      (same : after = db)
  | unbound (desired : intent.desired = .running)
      (unrecorded : knownRecovery db intent.binding.request.scope.sandboxID = false)
      (reference : intent.binding.providerReference = none)
      (sessions : ∃ now, after .sessions =
        updated (degradable db intent.binding.request.scope) (degrade now) (db .sessions))
      (others : ∀ u, outside (.sessions :: recoveryTables) u = true → after u = db u)
  | released (desired : intent.desired = .running)
      (unrecorded : knownRecovery db intent.binding.request.scope.sandboxID = false)
      (reference : intent.binding.providerReference ≠ none)
      (sessions : ∃ now, after .sessions =
        updated (degradable db intent.binding.request.scope) (degrade now) (db .sessions))
      (middle : Db) (sound : Sound middle)
      (quiet : ∀ u, outside (.sessions :: recoveryTables) u = true → middle u = db u)
      (release : Journalled platform middle after intent operationID)

/-- The columns an observation writes. -/
def observeOn (platform : Platform) (observed : ComputeObservation) (now : Time)
    (b : SandboxBindingRow) : SandboxBindingRow :=
  { b with
    state := observed.state
    reason := some observed.code
    effectiveFactsDigest :=
      if observed.effective.verified then
        some (platform.sha256 (effectiveFactsJson observed.effective).encode)
      else none
    observedAt := some now
    updatedAt := now
    stateVersion := b.stateVersion + 1 }

/-- The columns the loss of the last credentials writes. -/
def expireOn (now : Time) (b : SandboxBindingRow) : SandboxBindingRow :=
  { b with
    state := .unknown
    reason := some "AGENTD_CREDENTIALS_EXPIRED"
    effectiveFactsDigest := none
    observedAt := some now
    updatedAt := now
    stateVersion := b.stateVersion + 1 }

/-- Absence is confirmed. -/
def confirmCleanup (now : Time) (c : CleanupIntentRow) : CleanupIntentRow :=
  { c with
    state := .confirmed
    stateVersion := c.stateVersion + 1
    attempts := c.attempts + 1
    lastErrorCode := none
    confirmedAt := some now
    updatedAt := now }

/-- Only the binding of the sandbox was changed, by `set`. -/
structure BindingChanged (db after : Db) (id : ID)
    (set : SandboxBindingRow → SandboxBindingRow) : Prop where
  bindings : after .sandboxBindings = updated (·.id = id) set (db .sandboxBindings)
  others : ∀ u, outside [.sandboxBindings] u = true → after u = db u

/-- What follows the write of an observation. -/
inductive Followed (platform : Platform) (operationID : ID) (current : ComputeIntent)
    (observed : ComputeObservation) (db after : Db) : Prop
  | recovery (required : observed.recoveryRequired = true)
      (recovered : Recovered platform operationID current db after)
  | confirmed (absent : observed.state = .released)
      (cleanup : ∃ now, after .cleanupIntents =
        updated (fun c => c.cleanupOperationID = current.operation.id &&
          c.ownerType = "sandbox-binding" &&
          c.ownerID = current.binding.request.scope.sandboxID && c.state = .pending)
          (confirmCleanup now) (db .cleanupIntents))
      (others : ∀ u, outside [.cleanupIntents] u = true → after u = db u)
  | plain (required : observed.recoveryRequired = false) (present : observed.state ≠ .released)
      (same : after = db)

/-- A committed observation: the intent is the one that was loaded, the observation
is written on the binding, and what it calls for follows. -/
structure Recorded (platform : Platform) (clock : Clock) (operationID : ID)
    (expected : ComputeIntent) (observed : ComputeObservation) (db after : Db)
    (q : SandboxBindingRequestRow) (row : SandboxBindingRow) (current : ComputeIntent)
    (middle : Db) : Prop where
  valid : validObservation observed = .ok ()
  loaded : ComputeLoaded platform clock.transaction db expected.binding.request.scope.sandboxID q
    row current
  unchanged : sameIntent current expected = true
  permitted : mayRecord current expected observed = true
  fits : fitsDesired current.desired observed.state = true
  observes : BindingChanged db middle expected.binding.request.scope.sandboxID
    (observeOn platform observed (clock.reading 0))
  sound : Sound middle
  follows : Followed platform operationID current observed middle after

section Effects
variable {clock : Clock} {txNow : Time} {ids : RecoveryIDs} {after : Db} {t : Time} {u : Unit}

/-- The release of compute that was running is the first entry of its journal. -/
theorem journalRelease_effects {observed : Time} {operationID : ID} {orphan : Bool}
    (first : intent.revision = 0)
    (success : (journalRelease platform txNow now observed intent operationID orphan).run
      (rules t).execute db = .ok (u, after)) : Journalled platform db after intent operationID := by
  have footprint : (journalRelease platform txNow now observed intent operationID orphan).Submits
      (OnTables sandboxTables) := by
    simp only [journalRelease, Tx.submits_expect_bind]
    exact fun _ _ => .bind (by simp [sandboxTables]) fun _ => .bind (by simp [sandboxTables])
      fun _ => .bind (by simp [sandboxTables]) fun _ => by simp [sandboxTables]
  have others : ∀ u, outside sandboxTables u = true → after u = db u := fun u other =>
    run_outside footprint success other
  simp only [journalRelease, Tx.run_bind, Tx.run_expect, run_exec] at success
  obtain ⟨proof, d0, ⟨digest, rfl⟩, _, d1, ⟨_, cleaned⟩, _, d2, ⟨_, journalled⟩, _, d3,
    ⟨_, advanced⟩, _, bound⟩ := success
  have advances : ∀ q ∈ d0 .sandboxBindingRequests,
      q.sandboxBindingID = intent.binding.request.scope.sandboxID →
      intent.revision + 1 = q.operationRevision + 1 := by
    intro q member same
    have present : q ∈ d2 .sandboxBindingRequests := by
      rw [execute_outside journalled rfl, execute_outside cleaned rfl]
      exact member
    have trigger := (Rules.execute_update.mp advanced).1 q present (by simpa using same)
    have kept := updateTrigger_requests trigger
    simpa using congrArg (·.operationRevision) kept
  refine ⟨⟨now, orphan, proof, digest, ?_⟩, ⟨txNow, observed, ?_, ?_, ?_, advances, .inl ?_⟩,
    others⟩
  · rw [execute_outside bound rfl, execute_outside advanced rfl, execute_outside journalled rfl,
      execute_insert_rows cleaned]
    rfl
  · rw [execute_outside bound rfl, execute_outside advanced rfl, execute_insert_rows journalled,
      execute_outside cleaned rfl]
    rfl
  · rw [execute_outside bound rfl, execute_update_rows advanced, execute_outside journalled rfl,
      execute_outside cleaned rfl]
    rfl
  · rw [execute_update_rows bound, execute_outside advanced rfl, execute_outside journalled rfl,
      execute_outside cleaned rfl]
    rfl
  · simp [releaseEntry, first]

theorem degradable_congr {d e : Db} {scope : Scope} (attempts : d .attempts = e .attempts)
    (executions : d .executions = e .executions) : degradable d scope = degradable e scope := by
  funext s
  simp only [degradable, attempts, executions]

/-- Recovery of a loaded intent: running compute has an empty journal. -/
theorem recordComputeRecovery_effects {code : String}
    (first : intent.desired = .running → intent.revision = 0)
    (success : (recordComputeRecovery platform txNow ids intent code now).run (rules t).execute db =
      .ok (u, after)) : Recovered platform ids.operation intent db after := by
  have event : ∀ {degraded version d e}, (recordRecoveryEvent platform txNow intent ids.event code
      degraded version now).run (rules t).execute d = .ok (u, e) →
      ∀ w, outside eventTables w = true → e w = d w := fun appended w other =>
    run_outside (recordRecoveryEvent_submits.mono fun _ h => h.on) appended other
  simp only [recordComputeRecovery, Tx.run_bind, Tx.run_get] at success
  obtain ⟨_, d0, ⟨rfl, rfl⟩, _, d1, worked, success⟩ := success
  have work : ∀ w, outside [.reconciliationWork] w = true → d1 w = d0 w := by
    intro w other
    rcases Tx.run_onlyIf.mp worked with ⟨-, inserted⟩ | ⟨-, same⟩
    · obtain ⟨_, inserted⟩ := run_exec.mp inserted
      exact execute_outside inserted other
    · rw [same]
  split at success
  next desired =>
    simp only [Tx.run_bind, run_exec, Tx.run_onlyIf] at success
    obtain ⟨_, d2, ⟨_, updated⟩, success⟩ := success
    have rest : ∀ w, outside eventTables w = true → after w = d2 w := by
      rcases success with ⟨-, appended⟩ | ⟨-, same⟩
      · exact event appended
      · exact fun w _ => congrFun same w
    refine .quarantined desired ⟨now, ?_⟩ fun w other => ?_
    · rw [rest _ rfl, execute_update_rows updated, work _ rfl]
      rfl
    · have apart := outside_cons.mp other
      rw [rest _ (outside_cons.mp apart.2).2, execute_outside updated apart.1,
        work _ (outside_cons.mp apart.2).1]
  next desired =>
    have running : intent.desired = .running := by
      cases h : intent.desired with
      | running => rfl
      | released => exact (desired h).elim
    rcases Tx.run_onlyIf.mp success with ⟨unrecorded, success⟩ | ⟨recorded, same⟩
    · simp only [Tx.run_bind, Tx.run_get, run_exec] at success
      obtain ⟨_, _, ⟨rfl, rfl⟩, _, d2, ⟨_, degraded⟩, _, d3, appended, success⟩ := success
      have rows : d3 .sessions = updated (degradable d0 intent.binding.request.scope) (degrade now)
          (d0 .sessions) := by
        rw [event appended _ rfl, execute_update_rows degraded, work _ rfl,
          degradable_congr (work .attempts rfl) (work .executions rfl)]
      have quiet : ∀ w, outside (.sessions :: recoveryTables) w = true → d3 w = d0 w := by
        intro w other
        have apart := outside_cons.mp other
        rw [event appended _ (outside_cons.mp apart.2).2, execute_outside degraded apart.1,
          work _ (outside_cons.mp apart.2).1]
      rcases Tx.run_onlyIf.mp success with ⟨bound, journalled⟩ | ⟨unbound, rfl⟩
      · have release := journalRelease_effects (first running) journalled
        refine .released running unrecorded (by simpa [Option.isSome_iff_ne_none] using bound)
          ⟨now, ?_⟩ d3 (run_sound (execute_sound degraded) appended) quiet release
        rw [release.others _ rfl, rows]
      · exact .unbound running unrecorded (by simpa using unbound) ⟨now, rows⟩ quiet
    · rcases Tx.run_onlyIf.mp worked with ⟨unrecorded, -⟩ | ⟨-, nothing⟩
      · exact (recorded unrecorded).elim
      · exact .known running (eq_true_of_ne_false recorded) (same.trans nothing)

/-- Running compute has an empty journal. -/
theorem ComputeLoaded.first {q : SandboxBindingRequestRow} {row : SandboxBindingRow}
    (loaded : ComputeLoaded platform now db id q row intent) (running : intent.desired = .running) :
    intent.revision = 0 := by
  obtain ⟨-, -, desired⟩ := loaded
  generalize intent.current = current at desired
  cases desired with
  | running unjournalled => exact unjournalled
  | cleanup => cases running
  | journal => cases running

theorem bindingChanged_of_execute {set : SandboxBindingRow → SandboxBindingRow} {n : Nat}
    (accepted : (rules t).execute (.update .sandboxBindings (·.id = id) set) db = .ok (n, after)) :
    BindingChanged db after id set :=
  ⟨execute_update_rows accepted, fun _ other => execute_outside accepted other⟩

theorem recordCompute_effects {expected : ComputeIntent}
    {observed : ComputeObservation}
    (success : (recordCompute platform clock ids expected observed).run (rules t).execute db =
      .ok (u, after)) :
    ∃ q row current middle, Recorded platform clock ids.operation expected observed db after q row
      current middle := by
  simp only [recordCompute, Tx.run_bind, Tx.run_lift, Tx.run_require, run_exec] at success
  obtain ⟨_, d0, ⟨valid, rfl⟩, current, _, load, _, _, ⟨unchanged, rfl⟩, _, _, ⟨permitted, rfl⟩, _,
    _,
    ⟨fits, rfl⟩, _, middle, ⟨_, written⟩, success⟩ := success
  obtain ⟨rfl, q, row, loaded⟩ := run_loadCompute.mp load
  refine ⟨q, row, current, middle, valid, loaded, unchanged, permitted, fits,
    bindingChanged_of_execute written, execute_sound written, ?_⟩
  split at success
  next required => exact .recovery required (recordComputeRecovery_effects loaded.first success)
  next required =>
    rcases Tx.run_onlyIf.mp success with ⟨absent, confirmed⟩ | ⟨present, same⟩
    · obtain ⟨_, confirmed⟩ := run_exec.mp confirmed
      refine .confirmed absent ⟨clock.reading 0, ?_⟩ fun _ other => execute_outside confirmed other
      rw [execute_update_rows confirmed, loaded.scope]
      rfl
    · exact .plain (Bool.eq_false_of_not_eq_true required) present same

/-- The loss of credentials is recorded once the compute should be running and its
last certificate has expired; otherwise nothing happens. -/
theorem recoverExpiredAgentd_effects
    (success : (recoverExpiredAgentd platform clock ids id).run (rules t).execute db =
      .ok (u, after)) :
    ∃ q row current, ComputeLoaded platform clock.transaction db id q row current ∧
      ((after = db ∧ ¬ (current.desired ≠ .released ∧
          credentialsExpired db clock id current.binding.request.scope.attemptID = true)) ∨
        (current.desired = .running ∧
        credentialsExpired db clock id current.binding.request.scope.attemptID = true ∧
        ∃ middle, BindingChanged db middle id (expireOn (clock.reading 2)) ∧ Sound middle ∧
          Recovered platform ids.operation current middle after)) := by
  simp only [recoverExpiredAgentd, Tx.run_bind, Tx.run_get] at success
  obtain ⟨current, _, load, _, d0, ⟨rfl, rfl⟩, success⟩ := success
  obtain ⟨rfl, q, row, loaded⟩ := run_loadCompute.mp load
  refine ⟨q, row, current, loaded, ?_⟩
  rcases Tx.run_onlyIf.mp success with ⟨⟨desired, expired⟩, success⟩ | ⟨valid, same⟩
  · simp only [Tx.run_bind, run_exec] at success
    obtain ⟨_, middle, ⟨_, written⟩, recovered⟩ := success
    have running : current.desired = .running := by
      cases h : current.desired with
      | running => rfl
      | released => exact (desired h).elim
    exact .inr ⟨running, expired, middle, bindingChanged_of_execute written, execute_sound written,
      recordComputeRecovery_effects loaded.first recovered⟩
  · exact .inl ⟨same, valid⟩

end Effects

end ThinkPixelAR.Postgres
