import ThinkPixelAR.Postgres.Triggers

/-!
Integrity constraints of the store, grouped by table: the range of `bigint`
columns, `CHECK`s, primary keys with unique indexes, and foreign keys. Sizes of
JSON text are left to the types of the values they encode; everything else is
checked as the migrations state it. No code inspects which constraint of a kind
was violated, so a fault carries only the kind.
-/
namespace ThinkPixelAR.Postgres

open Relational

def Table.all : List Table :=
  [.sessions, .executions, .attempts, .workspaces, .workspaceGenerations, .checkpoints,
    .sandboxBindings, .sandboxBindingRequests, .sandboxOperations, .harnessBindings,
    .runtimeEventStreams, .runtimeEvents, .idempotencyRecords, .outboxMessages,
    .reconciliationWork, .cleanupIntents, .agentdCredentialState, .agentdCredentials,
    .agentdBootstrapDelivery, .agentdAdmission, .agentdCommands, .agentdFrameSequences,
    .localAuthorityGrants, .executionInputs, .executionSignals, .workspaceCheckpointOperations,
    .sessionSuspendOperations, .sessionResumeOperations, .sandboxReplacements,
    .runtimeProfileResolutions]

theorem Table.mem_all (t : Table) : t ∈ Table.all := by
  cases t <;> decide

/-! ### Columns -/

/-- The `bigint` columns of a row. -/
def bigints : (t : Table) → Row t → List Nat
  | .sessions, s => [s.stateVersion, s.executionGeneration]
  | .executions, e => [e.stateVersion, e.binding.raw.sessionGeneration]
  | .attempts, a => [a.stateVersion, a.binding.executionGeneration, a.binding.number]
  | .workspaces, w => w.stateVersion :: w.currentGeneration.toList
  | .workspaceGenerations, g => [g.generation, g.logicalBytes, g.logicalFiles]
  | .checkpoints, c => [c.stateVersion, c.binding.workspaceGeneration]
  | .sandboxBindings, b => [b.stateVersion, b.executionGeneration, b.attemptNo]
  | .sandboxBindingRequests, r => [r.operationRevision]
  | .sandboxOperations, o => [o.revision]
  | .harnessBindings, b => [b.stateVersion, b.executionGeneration, b.attemptNo]
  | .runtimeEventStreams, s => [s.lastSequence]
  | .runtimeEvents, e => [e.sequence, e.aggregateVersion]
  | .idempotencyRecords, r => [r.ownerFence]
  | .outboxMessages, m => [m.attempts, m.claimFence, m.envelope.aggregateVersion]
  | .reconciliationWork, w => [w.attempts, w.claimFence]
  | .cleanupIntents, c => [c.stateVersion, c.attempts]
  | .agentdCredentialState, c => [c.version, c.connectionEpoch]
  | .agentdCommands, c => [c.connectionEpoch, c.sequence]
  | .agentdFrameSequences, f => [f.sequence]
  | .localAuthorityGrants, g => [g.stateVersion]
  | .sessionSuspendOperations, o => [o.stateVersion, o.executionGeneration]
  | .agentdCredentials, _ => []
  | .agentdBootstrapDelivery, _ => []
  | .agentdAdmission, _ => []
  | .executionInputs, _ => []
  | .executionSignals, _ => []
  | .workspaceCheckpointOperations, _ => []
  | .sessionResumeOperations, _ => []
  | .sandboxReplacements, _ => []
  | .runtimeProfileResolutions, _ => []

def inRange (t : Table) (row : Row t) : Bool := (bigints t row).all (· ≤ maxInt64)

def sessionCheck (s : SessionRow) : Bool :=
  s.createdAt ≤ s.updatedAt && decide (s.state = .closed) = s.closedAt.isSome &&
    s.closedAt.all (s.createdAt ≤ ·) && decide (s.state = .degraded) = s.recoveryState.isSome &&
    s.recoveryState ≠ some .degraded && s.recoveryState ≠ some .closed

def executionCheck (e : Execution) : Bool :=
  e.createdAt < e.deadline && e.createdAt ≤ e.updatedAt &&
    e.state.isTerminal = e.terminalAt.isSome && e.state.isTerminal = e.terminalResult.isSome &&
    e.terminalAt.all (e.createdAt ≤ ·) && e.terminalResult.all (boundedString 2048 ·.reference)

def attemptCheck (a : Attempt) : Bool :=
  0 < a.binding.executionGeneration && 0 < a.binding.number && a.createdAt ≤ a.updatedAt &&
    a.sandboxHeartbeatAt.all (fun t => a.createdAt ≤ t && t ≤ a.updatedAt) &&
    a.harnessHeartbeatAt.all (fun t => a.createdAt ≤ t && t ≤ a.updatedAt) &&
    a.state.isTerminal = a.terminalAt.isSome && a.state.isTerminal = a.terminalResult.isSome &&
    a.terminalAt.all (a.createdAt ≤ ·) && (!a.current || !a.state.isTerminal) &&
    a.terminalResult.all (boundedString 2048 ·.reference)

def workspaceCheck (w : WorkspaceRow) : Bool :=
  boundedString 255 w.providerKind && boundedString 2048 w.providerReference &&
    boundedString 255 w.storageProfile && boundedString 255 w.retentionDisposition &&
    w.currentGeneration.isNone = w.currentWorkspaceGenerationID.isNone &&
    (!(w.state = .ready || w.state = .attached || w.state = .snapshotting) ||
      w.currentGeneration.isSome) &&
    decide (w.state = .deleted) = w.deletedAt.isSome && w.createdAt ≤ w.updatedAt &&
    w.deletedAt.all (w.createdAt ≤ ·)

def workspaceGenerationCheck (g : WorkspaceGenerationRow) : Bool :=
  g.providerSnapshotReference.all (boundedString 2048) && boundedString 255 g.integrityAlgorithm &&
    decide (g.generation = 0) = g.parentID.isNone &&
    g.parentID.isNone = g.parentGeneration.isNone &&
    g.parentGeneration.all (fun p => p + 1 = g.generation) &&
    g.creatorExecutionID.isNone = g.creatorAttemptID.isNone &&
    g.creatorExecutionID.isNone = g.creatorExecutionGeneration.isNone &&
    g.creatorExecutionGeneration.all (0 < ·) && validJSONObject g.storageEvidence &&
    boundedString 255 g.retentionDisposition

/-- `jsonb_array_length`. -/
def vendorObjects (text : String) : Nat :=
  match Json.decode text with
  | some (.array items) => items.length
  | _ => 0

def checkpointCheck (c : CheckpointRow) : Bool :=
  [c.binding.runtimeSpecID, c.binding.adapterKind, c.binding.adapterVersion,
      c.binding.protocolName, c.binding.protocolVersion, c.binding.stateFormatName,
      c.binding.stateFormatVersion].all (boundedString 128) &&
    [c.binding.runtimeSpecDigest, c.binding.adapterBuildDigest,
      c.binding.runtimeProfileDigest].all Checkpoint.validDigest &&
    boundedString 255 c.binding.retentionDisposition &&
    c.binding.parentCheckpointID ≠ some c.id &&
    c.integrity.all (fun i => i.canonicalManifest.utf8ByteSize ≤ 262144 &&
      Checkpoint.validJSONKind false 262144 i.vendorState && vendorObjects i.vendorState ≤ 64 &&
      i.exclusions.length = 7 && Checkpoint.requiredExclusions.all i.exclusions.contains &&
      i.canonicalization = "RFC8785-JCS" &&
      (i.digestAlgorithm = "sha-256" || i.digestAlgorithm = "sha-512") &&
      Checkpoint.validDigest i.payloadDigest && Checkpoint.validDigest i.compositeRoot &&
      boundedString 64 i.signatureAlgorithm && boundedString 128 i.signer &&
      boundedString 128 i.keyID && 32 ≤ i.signature.utf8ByteSize &&
      i.signature.utf8ByteSize ≤ 4096 && i.signature.toList.all Checkpoint.isDigestChar &&
      c.committedAt.all (i.signedAt ≤ ·)) &&
    (c.state ≠ .committed || c.committedAt.isSome) &&
    (c.state ≠ .creating || c.committedAt.isNone) &&
    decide (c.state = .deleted) = c.deletedAt.isSome && c.integrity.isNone = c.committedAt.isNone &&
    c.createdAt ≤ c.updatedAt && c.committedAt.all (c.createdAt ≤ ·) &&
    c.deletedAt.all (c.committedAt.getD c.createdAt ≤ ·)

def sandboxBindingCheck (b : SandboxBindingRow) : Bool :=
  0 < b.executionGeneration && 0 < b.attemptNo && boundedString 128 b.providerKind &&
    b.providerReference.all (boundedString 2048) && b.reason.all (boundedString 255) &&
    b.observedAt.all (fun t => b.createdAt ≤ t && t ≤ b.updatedAt) && b.createdAt ≤ b.updatedAt

def harnessBindingCheck (b : HarnessBindingRow) : Bool :=
  0 < b.executionGeneration && 0 < b.attemptNo &&
    [b.adapterKind, b.adapterVersion, b.protocolName, b.protocolVersion].all (boundedString 128) &&
    boundedString 255 b.processReference && boundedString 2048 b.vendorSessionReference &&
    b.reason.all (boundedString 255) &&
    b.observedAt.all (fun t => b.createdAt ≤ t && t ≤ b.updatedAt) && b.createdAt ≤ b.updatedAt

/-- `runtime_events`, with the version check of migration 24. -/
def runtimeEventCheck (e : RuntimeEvent.Event) : Bool :=
  0 < e.sequence &&
    (0 < e.aggregateVersion || (e.attemptID.isNone &&
      ((e.kind = .sessionCreated && e.sequence = 1 && e.executionID.isNone) ||
        (e.kind = .executionAccepted && e.executionID.isSome)))) &&
    (Json.decode e.payload).any Json.isObject &&
    e.correlation.traceID.all (RuntimeEvent.lowerHex 32) &&
    e.correlation.spanID.all (RuntimeEvent.lowerHex 16) && boundedString 128 e.retentionPolicy &&
    (e.attemptID.isNone || e.executionID.isSome) &&
    (e.correlation.spanID.isNone || e.correlation.traceID.isSome) &&
    e.retainUntil.all (e.recordedAt < ·)

/-- `idempotency_records`; an empty payload or reference is stored as NULL. -/
def idempotencyCheck (r : Idempotency.Record) : Bool :=
  boundedString 255 r.scope.action && boundedString 64 r.normalizationVersion &&
    0 < r.ownerFence && r.createdAt ≤ r.updatedAt && r.createdAt < r.expiresAt &&
    match r.state with
    | .inProgress => r.leaseExpiresAt.any (· < r.expiresAt) && r.completedAt.isNone &&
        r.response.isNone && r.failure.isNone
    | .succeeded => r.leaseExpiresAt.isNone && r.completedAt.isSome &&
        r.response.any (fun v => 200 ≤ v.httpStatus && v.httpStatus ≤ 399 &&
          v.payload.length ≤ 65536 && v.reference.utf8ByteSize ≤ 2048 &&
          (v.payload ≠ [] || v.reference ≠ "")) && r.failure.isNone
    | .failed => r.leaseExpiresAt.isNone && r.completedAt.isSome && r.response.isNone &&
        r.failure.any fun v => 400 ≤ v.httpStatus && v.httpStatus ≤ 499 &&
          boundedString 255 v.problemType && boundedString 128 v.problemCode

def outboxCheck (m : Outbox.Message) : Bool :=
  boundedString 255 m.envelope.topic && boundedString 128 m.envelope.schemaVersion &&
    boundedString 64 m.envelope.aggregateType && 0 < m.envelope.aggregateVersion &&
    m.envelope.payload.isSome != m.envelope.payloadReference.isSome &&
    m.envelope.payloadReference.all (boundedString 2048) &&
    m.lastErrorCode.all (boundedString 128) &&
    m.deadLetter.all (fun d => boundedString 128 d.reasonCode && d.detail.utf8ByteSize ≤ 1024) &&
    m.createdAt ≤ m.updatedAt &&
    match m.state with
    | .pending => m.ownerID.isNone && m.claimExpiresAt.isNone && m.deliveredAt.isNone &&
        m.deadLetter.isNone
    | .claimed => 0 < m.attempts && 0 < m.claimFence && m.ownerID.isSome &&
        m.claimExpiresAt.all (m.updatedAt < ·) && m.deliveredAt.isNone && m.deadLetter.isNone
    | .delivered => m.ownerID.isNone && m.claimExpiresAt.isNone && m.deliveredAt.isSome &&
        m.deadLetter.isNone
    | .deadLettered => m.ownerID.isNone && m.claimExpiresAt.isNone && m.deliveredAt.isNone &&
        m.deadLetter.isSome

def reconciliationCheck (w : Reconciliation.Work) : Bool :=
  boundedString 128 w.kind && boundedString 64 w.targetType &&
    w.lastErrorCode.all (boundedString 128) && w.createdAt ≤ w.updatedAt &&
    match w.state with
    | .pending => w.ownerID.isNone && w.claimExpiresAt.isNone && w.completedAt.isNone
    | .claimed => 0 < w.attempts && 0 < w.claimFence && w.ownerID.isSome &&
        w.claimExpiresAt.all (w.updatedAt < ·) && w.completedAt.isNone
    | .completed => 0 < w.attempts && 0 < w.claimFence && w.ownerID.isNone &&
        w.claimExpiresAt.isNone && w.completedAt.all (· = w.updatedAt)

def cleanupCheck (c : CleanupIntentRow) : Bool :=
  boundedString 64 c.ownerType && boundedString 64 c.targetType &&
    boundedString 128 c.providerKind && boundedString 2048 c.externalReference &&
    c.lastErrorCode.all (boundedString 128) && c.createdAt ≤ c.updatedAt &&
    match c.state with
    | .pending => c.confirmedAt.isNone && c.quarantinedAt.isNone
    | .confirmed => 0 < c.attempts && c.confirmedAt.all (· = c.updatedAt) &&
        c.quarantinedAt.isNone && c.lastErrorCode.isNone
    | .quarantined => 0 < c.attempts && c.quarantinedAt.all (· = c.updatedAt) &&
        c.confirmedAt.isNone && c.lastErrorCode.isSome

def credentialStateCheck (c : CredentialStateRow) : Bool :=
  0 < c.version && c.latestDigest.isNone = c.issuedAt.isNone &&
    c.connectionID.isNone = c.connectionDigest.isNone &&
    c.connectionID.isNone = c.connectionDeadline.isNone &&
    (c.connectionID.isNone || 0 < c.connectionEpoch)

/-- Ten minutes for a bootstrap certificate and fifteen for the others. -/
def credentialCheck (c : CredentialRow) : Bool :=
  c.bootstrap = c.proofDigest.isSome && c.notBefore < c.expiresAt &&
    c.expiresAt - c.notBefore ≤ (if c.bootstrap then 600000000000 else 900000000000) &&
    c.consumedAt.all fun t => c.bootstrap && c.notBefore ≤ t && t < c.expiresAt

/-- The row `CHECK`s of each table. -/
def checks : (t : Table) → Row t → Bool
  | .sessions, s => sessionCheck s
  | .executions, e => executionCheck e
  | .attempts, a => attemptCheck a
  | .workspaces, w => workspaceCheck w
  | .workspaceGenerations, g => workspaceGenerationCheck g
  | .checkpoints, c => checkpointCheck c
  | .sandboxBindings, b => sandboxBindingCheck b
  | .sandboxBindingRequests, _ => true
  | .sandboxOperations, o => 0 < o.revision
  | .harnessBindings, b => harnessBindingCheck b
  | .runtimeEventStreams, _ => true
  | .runtimeEvents, e => runtimeEventCheck e
  | .idempotencyRecords, r => idempotencyCheck r
  | .outboxMessages, m => outboxCheck m
  | .reconciliationWork, w => reconciliationCheck w
  | .cleanupIntents, c => cleanupCheck c
  | .agentdCredentialState, c => credentialStateCheck c
  | .agentdCredentials, c => credentialCheck c
  | .agentdBootstrapDelivery, d =>
    d.providerUID.length ≤ 256 && (!d.cleaned || (d.cleanupRequested && d.providerUID ≠ ""))
  | .agentdAdmission, _ => true
  | .agentdCommands, c => 0 < c.connectionEpoch && 0 < c.sequence
  | .agentdFrameSequences, f => 0 < f.sequence
  | .localAuthorityGrants, g =>
    if g.state = .active then g.stateVersion = 0 && g.terminalAt.isNone
    else g.stateVersion = 1 && g.terminalAt.isSome
  | .executionInputs, i => boundedString 262144 i.input
  | .executionSignals, s => boundedString 65536 s.payload
  | .workspaceCheckpointOperations, o =>
    (o.priorState = .ready || o.priorState = .attached) &&
      decide (o.state = .committed) = o.proofDigest.isSome &&
      decide (o.state = .committed) = o.proof.isSome
  | .sessionSuspendOperations, o =>
    (o.priorState = .ready || o.priorState = .idle) && 0 < o.stateVersion
  | .sessionResumeOperations, o =>
    (o.state = .ready || o.state = .idle) = o.observation.isSome &&
      (!o.cleaned || o.state = .degraded)
  | .sandboxReplacements, r => r.oldSandboxID ≠ r.newSandboxID
  | .runtimeProfileResolutions, p =>
    2 ≤ p.canonicalResolution.utf8ByteSize && p.canonicalResolution.utf8ByteSize ≤ 65536

/-! ### Keys and references -/

def unique {α κ : Type} [DecidableEq κ] (rows : List α) (key : α → κ) : Bool :=
  decide (UniqueOn rows (fun _ => true) key)

def uniqueWhere {α κ : Type} [DecidableEq κ] (rows : List α) (p : α → Bool) (key : α → κ) : Bool :=
  decide (UniqueOn rows p key)

/-- The condition of `session_resume_one_candidate`. -/
def ResumeOperationRow.isCandidate (o : ResumeOperationRow) : Bool :=
  o.state = .resuming || (o.state = .degraded && !o.cleaned)

/-- Primary keys and unique indexes of each table. A unique constraint that
contains the primary key adds nothing and is left out. -/
def keys : Table → Db → Bool
  | .sessions, db => unique (db .sessions) (·.id)
  | .executions, db =>
    unique (db .executions) (·.id) &&
      unique (db .executions) (fun e => (e.binding.raw.authorityMode,
        e.binding.raw.authorityNamespace, e.binding.raw.authorityReference)) &&
      uniqueWhere (db .executions) (·.state.isMutable) (·.binding.raw.sessionID) &&
      unique (db .executions) (fun e =>
        (e.binding.raw.sessionID, e.binding.raw.sessionGeneration))
  | .attempts, db =>
    unique (db .attempts) (·.id) &&
      unique (db .attempts) (fun a => (a.binding.executionID, a.binding.number)) &&
      uniqueWhere (db .attempts) (·.current) (·.binding.executionID)
  | .workspaces, db =>
    unique (db .workspaces) (·.id) && unique (db .workspaces) (·.sessionID) &&
      unique (db .workspaces) (fun w => (w.providerKind, w.providerReference)) &&
      unique (db .workspaces) (·.createOperationID)
  | .workspaceGenerations, db =>
    unique (db .workspaceGenerations) (·.id) &&
      unique (db .workspaceGenerations) (fun g => (g.workspaceID, g.generation)) &&
      unique (db .workspaceGenerations) (fun g => (g.workspaceID, g.operationID))
  | .checkpoints, db =>
    unique (db .checkpoints) (·.id) && unique (db .checkpoints) (·.binding.operationID)
  | .sandboxBindings, db =>
    unique (db .sandboxBindings) (·.id) && unique (db .sandboxBindings) (·.attemptID) &&
      uniqueWhere (db .sandboxBindings) (·.providerReference.isSome)
        (fun b => (b.providerKind, b.providerReference))
  | .sandboxBindingRequests, db =>
    unique (db .sandboxBindingRequests) (·.sandboxBindingID) &&
      unique (db .sandboxBindingRequests) (·.acquireOperationID)
  | .sandboxOperations, db =>
    unique (db .sandboxOperations) (·.operationID) &&
      unique (db .sandboxOperations) (fun o => (o.sandboxBindingID, o.revision))
  | .harnessBindings, db =>
    unique (db .harnessBindings) (·.id) && unique (db .harnessBindings) (·.attemptID)
  | .runtimeEventStreams, db => unique (db .runtimeEventStreams) (·.sessionID)
  | .runtimeEvents, db =>
    unique (db .runtimeEvents) (·.eventID) &&
      unique (db .runtimeEvents) (fun e => (e.sessionID, e.sequence))
  | .idempotencyRecords, db =>
    unique (db .idempotencyRecords) (·.id) && unique (db .idempotencyRecords) (·.scope)
  | .outboxMessages, db =>
    unique (db .outboxMessages) (·.id) &&
      unique (db .outboxMessages) (fun m => (m.envelope.topic, m.envelope.eventID))
  | .reconciliationWork, db =>
    unique (db .reconciliationWork) (·.id) &&
      unique (db .reconciliationWork) (fun w => (w.kind, w.targetType, w.targetID))
  | .cleanupIntents, db =>
    unique (db .cleanupIntents) (·.id) && unique (db .cleanupIntents) (·.cleanupOperationID) &&
      unique (db .cleanupIntents) (fun c => (c.providerKind, c.targetType, c.externalReference))
  | .agentdCredentialState, db => unique (db .agentdCredentialState) (·.sandboxBindingID)
  | .agentdCredentials, db =>
    unique (db .agentdCredentials) (·.credentialID) &&
      unique (db .agentdCredentials) (·.certificateDigest)
  | .agentdBootstrapDelivery, db => unique (db .agentdBootstrapDelivery) (·.credentialID)
  | .agentdAdmission, db => unique (db .agentdAdmission) (·.sandboxBindingID)
  | .agentdCommands, db => unique (db .agentdCommands) (·.operationID)
  | .agentdFrameSequences, db =>
    unique (db .agentdFrameSequences) (fun f => (f.sandboxBindingID, f.connectionID, f.direction))
  | .localAuthorityGrants, db => unique (db .localAuthorityGrants) (·.id)
  | .executionInputs, db => unique (db .executionInputs) (·.executionID)
  | .executionSignals, db => unique (db .executionSignals) (·.id)
  | .workspaceCheckpointOperations, db =>
    unique (db .workspaceCheckpointOperations) (·.operationID) &&
      uniqueWhere (db .workspaceCheckpointOperations) (·.state = .prepared) (·.workspaceID)
  | .sessionSuspendOperations, db => unique (db .sessionSuspendOperations) (·.operationID)
  | .sessionResumeOperations, db =>
    unique (db .sessionResumeOperations) (·.operationID) &&
      unique (db .sessionResumeOperations) (·.sandboxID) &&
      unique (db .sessionResumeOperations) (·.bootstrapID) &&
      unique (db .sessionResumeOperations) (·.attachmentID) &&
      uniqueWhere (db .sessionResumeOperations) (·.isCandidate) (·.sessionID)
  | .sandboxReplacements, db =>
    unique (db .sandboxReplacements) (·.oldSandboxID) &&
      unique (db .sandboxReplacements) (·.newSandboxID)
  | .runtimeProfileResolutions, db => unique (db .runtimeProfileResolutions) (·.executionID)

def references {α β κ : Type} [DecidableEq κ] (children : List α) (reference : α → Option κ)
    (parents : List β) (key : β → κ) : Bool :=
  decide (References children reference parents key)

/-- Foreign keys of each table that are checked after every statement. A
composite reference with a null column is not checked. -/
def foreignKeys : Table → Db → Bool
  | .sessions, db =>
    references (db .sessions) (fun s => s.currentCheckpointID.map (s.id, ·))
      (db .checkpoints) (fun c => (c.binding.sessionID, c.id))
  | .executions, db =>
    references (db .executions) (fun e => some e.binding.raw.sessionID) (db .sessions) (·.id)
  | .attempts, db =>
    references (db .attempts)
      (fun a => some (a.binding.executionID, a.binding.executionGeneration))
      (db .executions) (fun e => (e.id, e.binding.raw.sessionGeneration))
  | .workspaces, db =>
    references (db .workspaces) (fun w => some w.sessionID) (db .sessions) (·.id)
  | .workspaceGenerations, db =>
    references (db .workspaceGenerations) (fun g => some (g.workspaceID, g.sessionID))
        (db .workspaces) (fun w => (w.id, w.sessionID)) &&
      references (db .workspaceGenerations)
        (fun g => g.creatorExecutionID.bind fun e =>
          g.creatorExecutionGeneration.map fun n => (e, g.sessionID, n))
        (db .executions)
        (fun e => (e.id, e.binding.raw.sessionID, e.binding.raw.sessionGeneration)) &&
      references (db .workspaceGenerations)
        (fun g => g.creatorAttemptID.bind fun a => g.creatorExecutionID.bind fun e =>
          g.creatorExecutionGeneration.map fun n => (a, e, n))
        (db .attempts) (fun a => (a.id, a.binding.executionID, a.binding.executionGeneration))
  | .checkpoints, db =>
    references (db .checkpoints) (fun c => some c.binding.sessionID) (db .sessions) (·.id) &&
      references (db .checkpoints) (fun c => some (c.binding.workspaceID, c.binding.sessionID))
        (db .workspaces) (fun w => (w.id, w.sessionID)) &&
      references (db .checkpoints)
        (fun c => some (c.binding.workspaceID, c.binding.workspaceGenerationID,
          c.binding.workspaceGeneration))
        (db .workspaceGenerations) (fun g => (g.workspaceID, g.id, g.generation))
  | .sandboxBindings, db =>
    references (db .sandboxBindings) (fun b => some b.sessionID) (db .sessions) (·.id) &&
      references (db .sandboxBindings) (fun b => some (b.executionID, b.executionGeneration))
        (db .executions) (fun e => (e.id, e.binding.raw.sessionGeneration)) &&
      references (db .sandboxBindings) (fun b => some b.attemptID) (db .attempts) (·.id)
  | .sandboxBindingRequests, db =>
    references (db .sandboxBindingRequests) (fun r => some r.sandboxBindingID)
      (db .sandboxBindings) (·.id)
  | .sandboxOperations, db =>
    references (db .sandboxOperations) (fun o => some o.sandboxBindingID)
      (db .sandboxBindingRequests) (·.sandboxBindingID)
  | .harnessBindings, db =>
    references (db .harnessBindings) (fun b => some b.sessionID) (db .sessions) (·.id) &&
      references (db .harnessBindings) (fun b => some (b.executionID, b.executionGeneration))
        (db .executions) (fun e => (e.id, e.binding.raw.sessionGeneration)) &&
      references (db .harnessBindings) (fun b => some (b.attemptID, b.sandboxBindingID))
        (db .sandboxBindings) (fun b => (b.attemptID, b.id))
  | .runtimeEventStreams, db =>
    references (db .runtimeEventStreams) (fun s => some s.sessionID) (db .sessions) (·.id)
  | .runtimeEvents, db =>
    references (db .runtimeEvents) (fun e => some e.sessionID) (db .sessions) (·.id) &&
      references (db .runtimeEvents) (·.executionID) (db .executions) (·.id) &&
      references (db .runtimeEvents) (·.attemptID) (db .attempts) (·.id)
  | .agentdCredentialState, db =>
    references (db .agentdCredentialState) (fun c => some (c.attemptID, c.sandboxBindingID))
      (db .sandboxBindings) (fun b => (b.attemptID, b.id))
  | .agentdCredentials, db =>
    references (db .agentdCredentials) (fun c => some c.sandboxBindingID)
      (db .agentdCredentialState) (·.sandboxBindingID)
  | .agentdBootstrapDelivery, db =>
    references (db .agentdBootstrapDelivery) (fun d => some d.credentialID)
      (db .agentdCredentials) (·.credentialID)
  | .agentdAdmission, db =>
    references (db .agentdAdmission) (fun a => some a.sandboxBindingID) (db .sandboxBindings) (·.id)
  | .agentdCommands, db =>
    references (db .agentdCommands) (fun c => some c.sandboxBindingID)
      (db .agentdAdmission) (·.sandboxBindingID)
  | .agentdFrameSequences, db =>
    references (db .agentdFrameSequences) (fun f => some f.sandboxBindingID)
      (db .agentdAdmission) (·.sandboxBindingID)
  | .localAuthorityGrants, db =>
    references (db .localAuthorityGrants) (fun g => some g.sessionID) (db .sessions) (·.id)
  | .executionInputs, db =>
    references (db .executionInputs) (fun i => some i.executionID) (db .executions) (·.id)
  | .executionSignals, db =>
    references (db .executionSignals) (fun s => some s.executionID) (db .executions) (·.id)
  | .workspaceCheckpointOperations, db =>
    references (db .workspaceCheckpointOperations) (fun o => some (o.workspaceID, o.sessionID))
      (db .workspaces) (fun w => (w.id, w.sessionID))
  | .sessionSuspendOperations, db =>
    references (db .sessionSuspendOperations) (fun o => some o.sessionID) (db .sessions) (·.id) &&
      references (db .sessionSuspendOperations) (fun o => some (o.sessionID, o.checkpointID))
        (db .checkpoints) (fun c => (c.binding.sessionID, c.id))
  | .sessionResumeOperations, db =>
    references (db .sessionResumeOperations) (fun o => some o.sessionID) (db .sessions) (·.id) &&
      references (db .sessionResumeOperations) (fun o => some (o.sessionID, o.checkpointID))
        (db .checkpoints) (fun c => (c.binding.sessionID, c.id))
  | .sandboxReplacements, db =>
    references (db .sandboxReplacements) (fun r => some r.oldSandboxID)
        (db .sandboxBindings) (·.id) &&
      references (db .sandboxReplacements) (fun r => some r.newSandboxID)
        (db .sandboxBindings) (·.id)
  | .runtimeProfileResolutions, db =>
    references (db .runtimeProfileResolutions) (fun p => some p.executionID)
      (db .executions) (·.id)
  | .idempotencyRecords, _ => true
  | .outboxMessages, _ => true
  | .reconciliationWork, _ => true
  | .cleanupIntents, _ => true

/-- Foreign keys declared `DEFERRABLE INITIALLY DEFERRED`. -/
def deferredForeignKeys : Table → Db → Bool
  | .sessions, db =>
    references (db .sessions)
      (fun s => s.currentExecutionID.map (·, s.id, s.executionGeneration))
      (db .executions)
      (fun e => (e.id, e.binding.raw.sessionID, e.binding.raw.sessionGeneration))
  | .attempts, db =>
    references (db .attempts) (fun a => a.sandboxReference.map (a.id, ·))
        (db .sandboxBindings) (fun b => (b.attemptID, b.id)) &&
      references (db .attempts) (fun a => a.harnessReference.map (a.id, ·))
        (db .harnessBindings) (fun b => (b.attemptID, b.id))
  | .workspaces, db =>
    references (db .workspaces)
      (fun w => w.currentWorkspaceGenerationID.bind fun g =>
        w.currentGeneration.map fun n => (w.id, g, n))
      (db .workspaceGenerations) (fun g => (g.workspaceID, g.id, g.generation))
  | .workspaceGenerations, db =>
    references (db .workspaceGenerations)
      (fun g => g.parentID.bind fun p => g.parentGeneration.map fun n => (g.workspaceID, p, n))
      (db .workspaceGenerations) (fun g => (g.workspaceID, g.id, g.generation))
  | .checkpoints, db =>
    references (db .checkpoints) (·.binding.parentCheckpointID) (db .checkpoints) (·.id)
  | _, _ => true

/-- Constraints checked after every statement. -/
def immediate (db : Db) : Except Fault Unit := do
  refuse (¬ ∀ t ∈ Table.all, ∀ row ∈ db t, inRange t row = true)
    ⟨.numericOutOfRange, "bigint out of range"⟩
  refuse (¬ ∀ t ∈ Table.all, ∀ row ∈ db t, checks t row = true)
    ⟨.checkViolation, "violates check constraint"⟩
  refuse (¬ ∀ t ∈ Table.all, keys t db = true) ⟨.uniqueViolation, "duplicate key value"⟩
  refuse (¬ ∀ t ∈ Table.all, foreignKeys t db = true)
    ⟨.foreignKeyViolation, "violates foreign key constraint"⟩

/-- Constraints checked at commit. -/
def deferred (db : Db) : Except Fault Unit :=
  refuse (¬ ∀ t ∈ Table.all, deferredForeignKeys t db = true)
    ⟨.foreignKeyViolation, "violates foreign key constraint"⟩

/-- The schema with its constraints; `now` is `CURRENT_TIMESTAMP`. -/
def rules (now : Time) : Rules Row Fault where
  insertTrigger := insertTrigger now
  updateTrigger := updateTrigger now
  deleteTrigger := deleteTrigger
  immediate := immediate
  deferred := deferred

end ThinkPixelAR.Postgres
