import ThinkPixelAR.Postgres.SandboxBindings

/-!
Compute reconciliation (`compute_reconciliation.go`, `compute_recovery.go`,
`agentd_recovery.go`): loading the desired compute of a sandbox, recording an
observation and degrading the Session when recovery is required.
-/
namespace ThinkPixelAR.Postgres

open Relational
open Sandbox

variable {platform : Platform} {now txNow : Time} {intent : ComputeIntent}

/-- `observationCode`: an upper-case letter and at most 63 more characters. -/
def observationCode (code : String) : Bool :=
  match code.toList with
  | [] => false
  | first :: rest => first.isUpper && rest.length ≤ 63 &&
      rest.all fun c => c.isUpper || c.isDigit || c = '_'

/-- The cleanup intent of a sandbox that a release may rely on. -/
def isRelease (b : Binding) (id : ID) (c : CleanupIntentRow) : Bool :=
  c.ownerType = "sandbox-binding" && c.ownerID = id && c.targetType = "sandbox" &&
    c.providerKind = b.request.profile.providerKind &&
    c.externalReference = b.providerReference.getD "" &&
    some c.ownershipProofDigest = b.request.operation.digest &&
    (c.state = .pending || c.state = .confirmed)

/-- A cleanup intent authorizes exactly this release operation. -/
def cleanupAuthorizes (db : Db) (b : Binding) (id : ID) (op : RecordedOperation) : Bool :=
  (db .cleanupIntents).any fun c =>
    isRelease b id c && c.cleanupOperationID = op.id && c.requestDigest = op.digest

/-- `loadCompute`: a release comes from the journal, or, before any journal entry,
from a cleanup intent of the bound provider resource. -/
def loadCompute (platform : Platform) (now : Time) (id : ID) :
    Transaction ComputeIntent := do
  let first ← readSandboxBinding platform id
  let current ← lockSandboxFence now first.1.request
  let (b, revision) ← readSandboxBinding platform id
  let db ← Tx.get
  let row ← queryRow ((db .sandboxBindings).find? (·.id = id))
  let intent : ComputeIntent :=
    { binding := b, desired := .running, operation := b.request.operation
      version := row.stateVersion, revision, current, releaseAuthorized := false }
  if revision = 0 then
    match (db .cleanupIntents).find? fun c => b.providerReference.isSome && isRelease b id c with
    | none => return intent
    | some c => do
      Tx.require (c.requestDigest =
        lifecycleDigest platform id "release" c.cleanupOperationID) errIntegrity
      return { intent with
        desired := .released
        operation := { id := c.cleanupOperationID, digest := some c.requestDigest }
        releaseAuthorized := true }
  else do
    let operation ← queryRow ((db .sandboxOperations).find? fun o =>
      o.sandboxBindingID = id && o.revision = revision)
    Tx.require (operation.kind = .release) errUnsupported
    return { intent with
      desired := .released
      operation := { id := operation.operationID, digest := some operation.requestDigest }
      releaseAuthorized := (db .cleanupIntents).any fun c => isRelease b id c &&
        c.cleanupOperationID = operation.operationID &&
        c.requestDigest = operation.requestDigest }

/-! ### Recovery -/

/-- Identifiers a recovery draws from `primitives.NewID`. -/
structure RecoveryIDs where
  recovery : ID
  event : ID
  operation : ID

def scopeSubject (scope : Scope) (aggregateType : String) (aggregateID : ID) :
    EventSubject :=
  { sessionID := scope.sessionID, executionID := some scope.executionID
    attemptID := some scope.attemptID, aggregateType, aggregateID }

/-- `recordRecoveryEvent`: `session.degraded`, or `sandbox.health_changed` when the
Session was not degraded. -/
def recordRecoveryEvent (platform : Platform) (txNow : Time) (intent : ComputeIntent)
    (eventID : ID) (code : String) (degraded : Bool) (version : Nat) (now : Time) :
    Transaction Unit :=
  let scope := intent.binding.request.scope
  if degraded then
    appendWithEnvelope platform txNow (scopeSubject scope "session" scope.sessionID) eventID version
      .sessionDegraded
      (.object [("previous_state", .string "ACTIVE"), ("reason_code", .string code),
        ("recovery_required", .bool true), ("sandbox_id", .string scope.sandboxID.text),
        ("state", .string "DEGRADED")]) now
  else
    appendWithEnvelope platform txNow (scopeSubject scope "sandbox-binding" scope.sandboxID) eventID
      version .sandboxHealthChanged
      (.object [("reason_code", .string code), ("recovery_required", .bool true),
        ("sandbox_id", .string scope.sandboxID.text)]) now

/-- The Session this scope may degrade: ACTIVE on the scope's Execution and
generation, with the scope's Attempt current. -/
def degradable (db : Db) (scope : Scope) (s : SessionRow) : Bool :=
  s.id = scope.sessionID && s.state = .active && s.currentExecutionID = some scope.executionID &&
    s.executionGeneration = scope.generation &&
    (db .attempts).any fun a => a.id = scope.attemptID && a.current &&
      (db .executions).any fun e => e.id = a.binding.executionID &&
        (e.state = .materializing || e.state = .running)

def degrade (now : Time) (s : SessionRow) : SessionRow :=
  { s with
    state := .degraded
    recoveryState := some .active
    stateVersion := s.stateVersion + 1
    updatedAt := now }

/-- The journal entries of a release whose provider resource is known; `now` is
written on the cleanup intent and `observed` on the binding. -/
def journalRelease (platform : Platform) (txNow now observed : Time)
    (intent : ComputeIntent) (operationID : ID) (orphan : Bool) : Transaction Unit := do
  let scope := intent.binding.request.scope
  let digest := lifecycleDigest platform scope.sandboxID "release" operationID
  let proof ← Tx.expect intent.binding.request.operation.digest
    (Fault.error ⟨.checkViolation, "violates check constraint"⟩)
  exec (.insert .cleanupIntents
    { id := operationID, ownerType := "sandbox-binding", ownerID := scope.sandboxID
      targetType := "sandbox", providerKind := intent.binding.request.profile.providerKind
      externalReference := intent.binding.providerReference.getD ""
      cleanupOperationID := operationID, requestDigest := digest, ownershipProofDigest := proof
      isOrphan := orphan, state := .pending, stateVersion := 0, attempts := 0
      nextAttemptAt := now, lastErrorCode := none, createdAt := now, updatedAt := now
      confirmedAt := none, quarantinedAt := none })
  exec (.insert .sandboxOperations
    { sandboxBindingID := scope.sandboxID, operationID, kind := .release, requestDigest := digest
      revision := intent.revision + 1, createdAt := txNow })
  exec (.update .sandboxBindingRequests (·.sandboxBindingID = scope.sandboxID)
    fun r => { r with operationRevision := intent.revision + 1 })
  exec (.update .sandboxBindings (·.id = scope.sandboxID) fun b =>
    { b with
      releaseOperation := some { id := operationID, digest }
      stateVersion := b.stateVersion + 1
      updatedAt := observed })

/-- `recordComputeRecovery`: durable recovery work, and, for compute that should be
running, the loss of an ACTIVE Session and the release of what is left. -/
def recordComputeRecovery (platform : Platform) (txNow : Time) (ids : RecoveryIDs)
    (intent : ComputeIntent) (code : String) (now : Time) : Transaction Unit := do
  let scope := intent.binding.request.scope
  let db ← Tx.get
  let known := (db .reconciliationWork).any fun w =>
    w.kind = "sandbox.recover" && w.targetType = "sandbox" && w.targetID = scope.sandboxID
  Tx.onlyIf (known = false) (exec (.insert .reconciliationWork
    { id := ids.recovery, targetID := scope.sandboxID, ownerID := none, kind := "sandbox.recover"
      targetType := "sandbox", lastErrorCode := some code, state := .pending, attempts := 0
      claimFence := 0, nextAttemptAt := now, claimExpiresAt := none, completedAt := none
      createdAt := now, updatedAt := now }))
  if intent.desired = .released then do
    -- The release exists but its target is uncertain: quarantine, do not delete again.
    exec (.update .cleanupIntents
      (fun c => c.cleanupOperationID = intent.operation.id && c.state = .pending)
      fun c => { c with
        state := .quarantined
        stateVersion := c.stateVersion + 1
        attempts := c.attempts + 1
        lastErrorCode := some "PROVIDER_INTEGRITY_FAILURE"
        quarantinedAt := some now
        updatedAt := now })
    Tx.onlyIf (known = false)
      (recordRecoveryEvent platform txNow intent ids.event code false (intent.version + 1) now)
  else
    Tx.onlyIf (known = false) do
      let db ← Tx.get
      let lost := (db .sessions).find? (degradable db scope)
      exec (.update .sessions (degradable db scope) (degrade now))
      recordRecoveryEvent platform txNow intent ids.event code lost.isSome
        (match lost with | some s => s.stateVersion + 1 | none => intent.version + 1) now
      Tx.onlyIf (intent.binding.providerReference.isSome = true)
        (journalRelease platform txNow now now intent ids.operation (!intent.current))

/-! ### Observations -/

def effectiveFactsJson (f : EffectiveFacts) : Json :=
  .object [("IsolationClass", .string f.isolationClass), ("Image", .string f.image),
    ("Architecture", .string f.architecture), ("ResourceDigest", .string f.resourceDigest),
    ("NetworkClass", .string f.networkClass),
    ("AttachmentReference", .string f.attachmentReference), ("Verified", .bool f.verified)]

/-- The states `RecordCompute` accepts. -/
def observable : State → Bool
  | .unknown | .provisioning | .requested | .resuming | .ready | .releasing | .released => true
  | _ => false

/-- The checks `RecordCompute` makes before its transaction. -/
def validObservation (observed : ComputeObservation) : Except Error Unit :=
  if !observationCode observed.code || !observable observed.state then .error errInvalid
  else if observed.converged != (observed.state = .ready || observed.state = .released) ||
      (observed.recoveryRequired && observed.state ≠ .unknown) then .error errInvalid
  else if observed.state = .ready && !observed.effective.verified then .error errIntegrity
  else .ok ()

/-- The loaded intent is the one the observation was made for. -/
def sameIntent (current expected : ComputeIntent) : Bool :=
  (current.desired ≠ .running || current.current = expected.current) &&
    current.version = expected.version && current.revision = expected.revision &&
    current.operation = expected.operation && current.desired = expected.desired &&
    current.binding.request.operation = expected.binding.request.operation &&
    current.binding.providerReference = expected.binding.providerReference

/-- An observation of running compute needs the fence, one of a release needs its
authorization. -/
def mayRecord (current expected : ComputeIntent)
    (observed : ComputeObservation) : Bool :=
  match current.desired with
  | .running => current.current ||
      (observed.recoveryRequired && observed.code = "FENCED_COMPUTE" && !expected.current)
  | .released => current.releaseAuthorized

/-- The observed state fits what was desired. -/
def fitsDesired (desired : DesiredCompute) (state : State) : Bool :=
  match desired with
  | .running => state ≠ .released && state ≠ .releasing
  | .released => state = .released || state = .releasing || state = .unknown

/-- `SandboxBindings.RecordCompute`. -/
def recordCompute (platform : Platform) (clock : Clock) (ids : RecoveryIDs)
    (expected : ComputeIntent) (observed : ComputeObservation) :
    Transaction Unit := do
  Tx.lift (validObservation observed)
  let scope := expected.binding.request.scope
  let current ← loadCompute platform clock.transaction scope.sandboxID
  Tx.require (sameIntent current expected = true) Sandbox.errConflict
  Tx.require (mayRecord current expected observed = true) Sandbox.errConflict
  Tx.require (fitsDesired current.desired observed.state = true) errIntegrity
  let now := clock.reading 0
  exec (.update .sandboxBindings (·.id = scope.sandboxID) fun b =>
    { b with
      state := observed.state
      reason := some observed.code
      effectiveFactsDigest :=
        if observed.effective.verified then
          some (platform.sha256 (effectiveFactsJson observed.effective).encode)
        else none
      observedAt := some now
      updatedAt := now
      stateVersion := b.stateVersion + 1 })
  if observed.recoveryRequired then
    recordComputeRecovery platform clock.transaction ids current observed.code now
  else
    Tx.onlyIf (observed.state = .released) (exec (.update .cleanupIntents
      (fun c => c.cleanupOperationID = current.operation.id && c.ownerType = "sandbox-binding" &&
        c.ownerID = scope.sandboxID && c.state = .pending)
      fun c => { c with
        state := .confirmed
        stateVersion := c.stateVersion + 1
        attempts := c.attempts + 1
        lastErrorCode := none
        confirmedAt := some now
        updatedAt := now }))

/-- The latest certificate of the sandbox has expired and no connection is left. -/
def credentialsExpired (db : Db) (clock : Clock) (id attemptID : ID) : Bool :=
  (db .agentdCredentialState).any fun s => s.sandboxBindingID = id && s.attemptID = attemptID &&
    s.connectionDeadline.all (· ≤ clock.reading 1) && (db .agentdCredentials).any fun c =>
      c.sandboxBindingID = id && s.latestDigest = some c.certificateDigest &&
        c.expiresAt ≤ clock.reading 0

/-- `SandboxBindings.RecoverExpiredAgentd`. -/
def recoverExpiredAgentd (platform : Platform) (clock : Clock) (ids : RecoveryIDs) (id : ID) :
    Transaction Unit := do
  let intent ← loadCompute platform clock.transaction id
  let db ← Tx.get
  Tx.onlyIf (intent.desired ≠ .released ∧ credentialsExpired db clock id
      intent.binding.request.scope.attemptID = true) do
    let now := clock.reading 2
    exec (.update .sandboxBindings (·.id = id) fun b =>
      { b with
        state := .unknown
        reason := some "AGENTD_CREDENTIALS_EXPIRED"
        effectiveFactsDigest := none
        observedAt := some now
        updatedAt := now
        stateVersion := b.stateVersion + 1 })
    recordComputeRecovery platform clock.transaction ids intent "AGENTD_CREDENTIALS_EXPIRED" now

/-! ### Footprints -/

/-- What compute reconciliation writes besides the Session. -/
def computeTables : List Table :=
  [.reconciliationWork, .cleanupIntents, .sandboxOperations, .sandboxBindingRequests,
    .sandboxBindings, .runtimeEventStreams, .runtimeEvents, .outboxMessages]

theorem eventTables_compute : eventTables ⊆ computeTables := by decide

section Submits
variable {P : Stmt → Prop}

theorem loadCompute_submits {id : ID} : (loadCompute platform now id).Submits P := by
  unfold loadCompute
  refine .bind readSandboxBinding_submits fun first => ?_
  refine .bind lockSandboxFence_submits fun current => ?_
  refine .bind readSandboxBinding_submits fun ⟨b, revision⟩ => ?_
  rw [Tx.submits_get_bind]
  intro db
  rw [submits_queryRow_bind]
  intro row _
  split
  · split <;> simp
  · simp

variable {code : String} {ids : RecoveryIDs} {clock : Clock}

theorem recordRecoveryEvent_submits {eventID : ID} {degraded : Bool} {version : Nat} :
    (recordRecoveryEvent platform txNow intent eventID code degraded version now).Submits
      EventStatement := by
  unfold recordRecoveryEvent
  dsimp only
  split <;> exact appendWithEnvelope_submits

theorem journalRelease_submits {observed : Time} {operationID : ID} {orphan : Bool} :
    (journalRelease platform txNow now observed intent operationID orphan).Submits
      (OnTables computeTables) := by
  unfold journalRelease
  rw [Tx.submits_expect_bind]
  intro proof _
  refine .bind (by simp [computeTables]) fun _ => ?_
  refine .bind (by simp [computeTables]) fun _ => ?_
  exact .bind (by simp [computeTables]) fun _ => by simp [computeTables]

/-- Recovery writes the compute tables and may degrade the Session of its scope. -/
theorem recordComputeRecovery_submits (tables : ∀ c, OnTables computeTables c → P c)
    (degrading : ∀ db, P (.update .sessions (degradable db intent.binding.request.scope)
      (degrade now))) : (recordComputeRecovery platform txNow ids intent code now).Submits P := by
  have event : ∀ degraded version, (recordRecoveryEvent platform txNow intent ids.event code
      degraded version now).Submits P := fun degraded version =>
    recordRecoveryEvent_submits.mono fun c h => tables c (h.on.mono eventTables_compute)
  unfold recordComputeRecovery
  rw [Tx.submits_get_bind]
  intro db
  refine .bind (by simpa using fun _ => tables _ (by simp [computeTables])) fun _ => ?_
  split
  · refine .bind (by simpa using tables _ (by simp [computeTables])) fun _ => ?_
    rw [Tx.submits_onlyIf]
    exact fun _ => event _ _
  · rw [Tx.submits_onlyIf]
    intro _
    rw [Tx.submits_get_bind]
    intro db
    refine .bind (by simpa using degrading db) fun _ => .bind (event _ _) fun _ => ?_
    rw [Tx.submits_onlyIf]
    exact fun _ => journalRelease_submits.mono tables

theorem recordCompute_submits {expected : ComputeIntent}
    {observed : ComputeObservation} (tables : ∀ c, OnTables computeTables c → P c)
    (degrading : ∀ db scope now, P (.update .sessions (degradable db scope) (degrade now))) :
    (recordCompute platform clock ids expected observed).Submits P := by
  unfold recordCompute
  rw [Tx.submits_lift_bind]
  intro _ _
  refine .bind loadCompute_submits fun current => ?_
  rw [Tx.submits_require_bind]
  intro _
  rw [Tx.submits_require_bind]
  intro _
  rw [Tx.submits_require_bind]
  intro _
  refine .bind (by simpa using tables _ (by simp [computeTables])) fun _ => ?_
  split
  · exact recordComputeRecovery_submits tables fun db => degrading db _ _
  · simpa using fun _ => tables _ (by simp [computeTables])

theorem recoverExpiredAgentd_submits {id : ID} (tables : ∀ c, OnTables computeTables c → P c)
    (degrading : ∀ db scope now, P (.update .sessions (degradable db scope) (degrade now))) :
    (recoverExpiredAgentd platform clock ids id).Submits P := by
  unfold recoverExpiredAgentd
  refine .bind loadCompute_submits fun intent => ?_
  rw [Tx.submits_get_bind]
  intro db
  rw [Tx.submits_onlyIf]
  intro _
  refine .bind (by simpa using tables _ (by simp [computeTables])) fun _ => ?_
  exact recordComputeRecovery_submits tables fun db => degrading db _ _

end Submits
end ThinkPixelAR.Postgres
