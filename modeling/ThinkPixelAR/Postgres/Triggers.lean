import ThinkPixelAR.Postgres.Schema

/-!
Row triggers of the store, in the order PostgreSQL fires them (by name) and with
the conditions and messages of their latest migration. A trigger judges a row
against the store before the statement.
-/
namespace ThinkPixelAR.Postgres

open Relational

/-! ### Sessions, Executions and Attempts -/

/-- `enforce_session_execution_epoch` (migration 18). The last condition is read
with three-valued logic: `recovery_state` is nullable. -/
def enforceSessionExecutionEpoch (old new : SessionRow) : Except Fault Unit := do
  refuse (new.executionGeneration < old.executionGeneration ∨
      old.executionGeneration + 1 < new.executionGeneration)
    (raised "session execution generation must be monotonic and advance by one")
  refuse (old.executionGeneration < new.executionGeneration ∧
      (¬ (old.state = .ready ∨ old.state = .idle) ∨ new.state ≠ .active ∨
        new.currentExecutionID = none))
    (raised "session execution generation advances only on admission")
  refuse (Truth.Holds (.of (new.currentExecutionID ≠ none) &&&
      ((.of (new.state ≠ .active) &&& ~~~(.of (new.state = .degraded) &&&
          .compare (· = ·) new.recoveryState (some Session.State.active) &&&
          .of (new.currentExecutionID = old.currentExecutionID) &&&
          .of (new.executionGeneration = old.executionGeneration))) |||
        .of (new.executionGeneration = 0))))
    (raised "current execution requires an active session generation")

/-- `reject_session_binding_change`. -/
def rejectSessionBindingChange (old new : SessionRow) : Except Fault Unit :=
  refuse (new.id ≠ old.id ∨ new.binding ≠ old.binding)
    (raised "session identity and runtime binding are immutable")

/-- `reject_execution_binding_change`. -/
def rejectExecutionBindingChange (old new : Execution) : Except Fault Unit :=
  refuse (new.id ≠ old.id ∨ new.binding ≠ old.binding ∨ new.deadline ≠ old.deadline)
    (raised ("execution identity, generation, authority, agent evidence, and deadline are " ++
      "immutable"))

/-- The join read by the fence of migration 33: the Session is ACTIVE on this
Execution and its generation, and the Execution admits work. -/
def fenceIsCurrent (db : Db) (executionID : ID) (generation : Nat) : Bool :=
  (db .executions).any fun e => (db .sessions).any fun s =>
    e.id = executionID && s.id = e.binding.raw.sessionID && s.state = .active &&
      s.currentExecutionID = some e.id &&
      s.executionGeneration = e.binding.raw.sessionGeneration &&
      e.binding.raw.sessionGeneration = generation && e.state.isWorking

/-- `enforce_attempt_mutation_fence`; `designated` is `NEW.is_current` for an
insert and `OLD.is_current` for an update. -/
def enforceAttemptMutationFence (db : Db) (new : Attempt) (designated : Bool) :
    Except Fault Unit :=
  refuse (¬ (fenceIsCurrent db new.binding.executionID new.binding.executionGeneration = true ∧
    designated = true)) (raised "stale attempt mutation fence")

/-- `reject_attempt_identity_or_binding_change`. -/
def rejectAttemptIdentityOrBindingChange (old new : Attempt) : Except Fault Unit :=
  refuse (new.id ≠ old.id ∨ new.binding ≠ old.binding ∨
      (old.sandboxReference ≠ none ∧ new.sandboxReference ≠ old.sandboxReference) ∨
      (old.harnessReference ≠ none ∧ new.harnessReference ≠ old.harnessReference))
    (raised ("attempt identity, generation, ordinal, and established binding references are " ++
      "immutable"))

/-! ### Workspaces and checkpoints -/

/-- The columns `reject_workspace_identity_change` keeps. -/
def WorkspaceRow.identity (w : WorkspaceRow) : ID × ID × String × String × String × Digest × ID :=
  (w.id, w.sessionID, w.providerKind, w.providerReference, w.storageProfile, w.configDigest,
    w.createOperationID)

/-- `reject_workspace_identity_change`. -/
def rejectWorkspaceIdentityChange (old new : WorkspaceRow) : Except Fault Unit := do
  refuse (new.identity ≠ old.identity)
    (raised "workspace identity, provider, storage, and source binding are immutable")
  match old.currentGeneration, new.currentGeneration with
  | some before, some after =>
    refuse (after ≠ before ∧ (after ≠ before + 1 ∨ old.state ≠ .snapshotting ∨
        ¬ (new.state = .ready ∨ new.state = .attached)))
      (raised "workspace generation must advance by exactly one from snapshotting")
  | some _, none =>
    .error (raised "workspace generation must advance by exactly one from snapshotting")
  | none, some after =>
    refuse (after ≠ 0 ∨ old.state ≠ .provisioning ∨ new.state ≠ .ready)
      (raised "workspace initial generation must be zero at readiness")
  | none, none => .ok ()

/-- `enforce_workspace_checkpoint_operation`. -/
def enforceWorkspaceCheckpointOperation (old new : CheckpointOperationRow) :
    Except Fault Unit :=
  refuse ({ new with state := old.state, proof := old.proof, proofDigest := old.proofDigest } ≠
        old ∨ old.state ≠ .prepared ∨ ¬ (new.state = .committed ∨ new.state = .aborted))
    (raised "immutable checkpoint operation or illegal completion")

/-- The edges of `enforce_checkpoint_immutability`. -/
def checkpointEdge : Checkpoint.State → Checkpoint.State → Bool
  | .creating, .committed | .creating, .deleting | .committed, .deleting
  | .deleting, .deleting | .deleting, .deleted | .deleted, .deleted => true
  | _, _ => false

/-- `enforce_checkpoint_immutability` and `preserve_checkpoint_publication_request`. -/
def enforceCheckpointImmutability (old new : CheckpointRow) : Except Fault Unit := do
  refuse (new.id ≠ old.id ∨ new.binding ≠ old.binding)
    (raised ("checkpoint identity, generation, lineage, and compatibility binding are " ++
      "immutable"))
  refuse (old.state ≠ .creating ∧
      (new.integrity ≠ old.integrity ∨ new.committedAt ≠ old.committedAt))
    (raised "committed checkpoint integrity metadata is immutable")
  refuse (checkpointEdge old.state new.state = false)
    (raised "illegal checkpoint state transition")
  refuse (new.stateVersion ≠ old.stateVersion + 1)
    (raised "checkpoint state version must advance by exactly one")
  refuse (new.publicationRequestDigest ≠ old.publicationRequestDigest)
    (raised "checkpoint publication request is immutable")

/-! ### Runtime bindings and journals -/

/-- A recorded lifecycle operation is never replaced. -/
def keepsOperation (old new : Option RecordedOperation) : Bool := old.isNone || new = old

/-- `reject_runtime_binding_identity_change` on `sandbox_bindings`. -/
def rejectSandboxBindingIdentityChange (old new : SandboxBindingRow) : Except Fault Unit := do
  refuse ((new.sessionID, new.executionID, new.executionGeneration, new.attemptID,
        new.attemptNo) ≠
      (old.sessionID, old.executionID, old.executionGeneration, old.attemptID, old.attemptNo))
    (raised "runtime binding ownership and attempt fence are immutable")
  refuse (new.id ≠ old.id ∨ new.providerKind ≠ old.providerKind ∨
      (old.providerReference ≠ none ∧ new.providerReference ≠ old.providerReference) ∨
      new.resolutionDigest ≠ old.resolutionDigest ∨
      new.acquireOperationID ≠ old.acquireOperationID ∨
      new.acquireRequestDigest ≠ old.acquireRequestDigest)
    (raised "sandbox binding identity is immutable")
  refuse (!keepsOperation old.suspendOperation new.suspendOperation ||
      !keepsOperation old.resumeOperation new.resumeOperation ||
      !keepsOperation old.releaseOperation new.releaseOperation)
    (raised "established sandbox operation identities are immutable")

/-- `reject_runtime_binding_identity_change` on `harness_bindings`. -/
def rejectHarnessBindingIdentityChange (old new : HarnessBindingRow) : Except Fault Unit := do
  refuse ((new.sessionID, new.executionID, new.executionGeneration, new.attemptID,
        new.attemptNo) ≠
      (old.sessionID, old.executionID, old.executionGeneration, old.attemptID, old.attemptNo))
    (raised "runtime binding ownership and attempt fence are immutable")
  refuse ({ new with state := old.state, reason := old.reason, observedAt := old.observedAt
                     stateVersion := old.stateVersion, createdAt := old.createdAt
                     updatedAt := old.updatedAt } ≠ old)
    (raised "harness binding identity is immutable")

/-- `enforce_sandbox_request_journal`. -/
def enforceSandboxRequestJournal (old new : SandboxBindingRequestRow) : Except Fault Unit :=
  refuse ({ new with operationRevision := old.operationRevision } ≠ old ∨
      new.operationRevision ≠ old.operationRevision + 1)
    (raised "sandbox request is immutable and revision advances once")

/-! ### Runtime events -/

/-- The stream row of a Session, created with sequence zero if it is missing. -/
def withStream (streams : List RuntimeEventStreamRow) (sessionID : ID) (now : Time) :
    List RuntimeEventStreamRow :=
  if streams.any (·.sessionID = sessionID) then streams
  else streams ++ [{ sessionID, lastSequence := 0, updatedAt := now }]

/-- `allocate_runtime_event_sequence`. -/
def allocateRuntimeEventSequence (now : Time) (db : Db) (e : RuntimeEvent.Event) :
    Except Fault Db := do
  let streams := withStream (db .runtimeEventStreams) e.sessionID now
  refuse ((streams.find? (·.sessionID = e.sessionID)).all fun s =>
      e.sequence ≠ s.lastSequence + 1)
    (raised "runtime event sequence must advance by exactly one")
  return Function.update db .runtimeEventStreams
    (updated (·.sessionID = e.sessionID)
      (fun s => { s with lastSequence := e.sequence, updatedAt := e.recordedAt }) streams)

/-- `validate_runtime_event_lineage`. -/
def validateRuntimeEventLineage (db : Db) (e : RuntimeEvent.Event) : Except Fault Unit := do
  refuse (e.executionID.any fun id => !(db .executions).any fun x =>
      x.id = id && x.binding.raw.sessionID = e.sessionID)
    (raised "runtime event execution does not belong to session")
  refuse (e.attemptID.any fun id => !(db .attempts).any fun a =>
      a.id = id && some a.binding.executionID = e.executionID)
    (raised "runtime event attempt does not belong to execution")

/-! ### Leases and fences -/

/-- `enforce_idempotency_record_mutation`. -/
def enforceIdempotencyRecordMutation (now : Time) (old new : Idempotency.Record) :
    Except Fault Unit := do
  refuse ({ new with state := old.state, ownerID := old.ownerID, ownerFence := old.ownerFence
                     leaseExpiresAt := old.leaseExpiresAt, completedAt := old.completedAt
                     response := old.response, failure := old.failure
                     updatedAt := old.updatedAt } ≠ old)
    (raised "idempotency scope and logical operation are immutable")
  refuse (old.state ≠ .inProgress) (raised "terminal idempotency record is immutable")
  refuse (new.ownerFence < old.ownerFence ∨ old.ownerFence + 1 < new.ownerFence)
    (raised "idempotency owner fence must be monotonic")
  refuse (new.ownerFence = old.ownerFence ∧ new.ownerID ≠ old.ownerID)
    (raised "idempotency owner change requires a new fence")
  refuse (new.ownerFence = old.ownerFence + 1 ∧ old.leaseExpiresAt.all (now < ·))
    (raised "active idempotency lease cannot be taken over")

/-- `enforce_outbox_message_mutation`. -/
def enforceOutboxMessageMutation (now : Time) (old new : Outbox.Message) : Except Fault Unit := do
  refuse (new.id ≠ old.id ∨ new.envelope ≠ old.envelope ∨ new.createdAt ≠ old.createdAt)
    (raised "outbox semantic identity and envelope are immutable")
  refuse (old.state.isTerminal = true) (raised "terminal outbox message is immutable")
  refuse (new.claimFence < old.claimFence ∨ old.claimFence + 1 < new.claimFence)
    (raised "outbox claim fence must advance by at most one")
  refuse (new.state = .claimed ∧ new.claimFence ≠ old.claimFence + 1)
    (raised "outbox claim requires a new fence")
  refuse (old.state = .claimed ∧ new.state = .claimed ∧ old.claimExpiresAt.any (now < ·))
    (raised "active outbox claim cannot be taken over")

/-- `enforce_reconciliation_work_mutation`. -/
def enforceReconciliationWorkMutation (old new : Reconciliation.Work) : Except Fault Unit := do
  refuse (new.id ≠ old.id ∨ new.kind ≠ old.kind ∨ new.targetType ≠ old.targetType ∨
      new.targetID ≠ old.targetID ∨ new.createdAt ≠ old.createdAt)
    (raised "reconciliation work identity is immutable")
  refuse (old.state = .completed) (raised "completed reconciliation work is immutable")
  refuse (new.claimFence < old.claimFence ∨ old.claimFence + 1 < new.claimFence)
    (raised "reconciliation claim fence must advance by at most one")
  refuse (new.state = .claimed ∧ old.state ≠ .claimed ∧ new.claimFence ≠ old.claimFence + 1)
    (raised "reconciliation claim requires a new fence")
  refuse (old.state = .claimed ∧ new.state = .claimed ∧ new.claimFence = old.claimFence ∧
      new.ownerID ≠ old.ownerID)
    (raised "reconciliation claim owner requires a new fence")
  refuse (new.state ≠ .claimed ∧ new.claimFence ≠ old.claimFence)
    (raised "reconciliation completion or reschedule preserves claim fence")
  refuse (old.state = .claimed ∧ new.state = .claimed ∧ new.claimFence = old.claimFence + 1 ∧
      old.claimExpiresAt.any (new.updatedAt < ·))
    (raised "active reconciliation claim cannot be taken over")

/-- `enforce_cleanup_intent_mutation`. -/
def enforceCleanupIntentMutation (old new : CleanupIntentRow) : Except Fault Unit := do
  refuse ({ new with state := old.state, stateVersion := old.stateVersion
                     attempts := old.attempts, nextAttemptAt := old.nextAttemptAt
                     lastErrorCode := old.lastErrorCode, updatedAt := old.updatedAt
                     confirmedAt := old.confirmedAt, quarantinedAt := old.quarantinedAt } ≠ old)
    (raised "cleanup target and operation identity are immutable")
  refuse (old.state ≠ .pending) (raised "terminal cleanup tombstone is immutable")
  refuse (new.stateVersion ≠ old.stateVersion + 1 ∨ new.attempts ≠ old.attempts + 1)
    (raised "cleanup mutation must advance version and attempts exactly once")

/-! ### agentd -/

/-- `enforce_agentd_credential_history`. -/
def enforceAgentdCredentialHistory (old new : CredentialRow) : Except Fault Unit :=
  refuse ({ new with consumedAt := old.consumedAt } ≠ old ∨ old.consumedAt ≠ none ∨
      new.consumedAt = none)
    (raised "agentd credential identity is immutable and bootstrap consumption is once")

/-- `enforce_agentd_delivery_history`. -/
def enforceAgentdDeliveryHistory (old new : BootstrapDeliveryRow) : Except Fault Unit :=
  refuse (new.credentialID ≠ old.credentialID ∨ new.reference ≠ old.reference ∨
      new.expiresAt ≠ old.expiresAt ∨
      (old.providerUID ≠ "" ∧ new.providerUID ≠ old.providerUID) ∨
      (old.cleanupRequested = true ∧ new.cleanupRequested = false) ∨
      (old.cleaned = true ∧ new.cleaned = false))
    (raised "bootstrap delivery identity is immutable")

/-- `enforce_agentd_policy_history` on `agentd_admission`. -/
def enforceAgentdAdmissionHistory (old new : AdmissionRow) : Except Fault Unit :=
  refuse ({ new with revoked := old.revoked } ≠ old ∨
      (old.revoked = true ∧ new.revoked = false))
    (raised "agentd admission is immutable")

/-- `enforce_agentd_policy_history` on `agentd_commands`. -/
def enforceAgentdCommandHistory (old new : CommandRow) : Except Fault Unit :=
  refuse ({ new with outcome := old.outcome } ≠ old ∨
      (old.outcome ≠ .pending ∧ new.outcome ≠ old.outcome))
    (raised "agentd command outcome is immutable")

/-! ### Grants, suspend, resume and replacement -/

/-- `enforce_local_grant_mutation`. -/
def enforceLocalGrantMutation (old new : LocalGrantRow) : Except Fault Unit := do
  refuse (new.id ≠ old.id ∨ new.sessionID ≠ old.sessionID ∨ new.snapshot ≠ old.snapshot ∨
      new.snapshotDigest ≠ old.snapshotDigest)
    (raised "local grant snapshot is immutable")
  refuse (old.state ≠ .active ∨ ¬ (new.state = .cancelled ∨ new.state = .expired) ∨
      new.stateVersion ≠ old.stateVersion + 1)
    (raised "local grant status cannot be renewed")

/-- The two edges of a resume operation: an outcome, and the cleanup of a
degraded candidate. -/
def resumeEdge (old new : ResumeOperationRow) : Bool :=
  (old.state = .resuming && (new.state = .ready || new.state = .idle || new.state = .degraded) &&
      !new.cleaned) ||
    (old.state = .degraded && new.state = old.state && !old.cleaned && new.cleaned &&
      new.result = old.result && new.observation = old.observation)

/-- `enforce_session_resume_operation`. -/
def enforceSessionResumeOperation (old new : ResumeOperationRow) : Except Fault Unit :=
  refuse ({ new with state := old.state, result := old.result, observation := old.observation
                     cleaned := old.cleaned } ≠ old ∨ resumeEdge old new = false)
    (raised "immutable resume identity or illegal transition")

/-! ### Dispatch -/

/-- `BEFORE INSERT` triggers; the result is the store they leave. -/
def insertTrigger (now : Time) : (t : Table) → Db → Row t → Except Fault Db
  | .attempts, db, new => do
    enforceAttemptMutationFence db new new.current
    return db
  | .runtimeEvents, db, new => do
    let db ← allocateRuntimeEventSequence now db new
    validateRuntimeEventLineage db new
    return db
  | _, db, _ => .ok db

/-- `BEFORE UPDATE` triggers. -/
def updateTrigger (now : Time) : (t : Table) → Db → Row t → Row t → Except Fault Unit
  | .sessions, _, old, new => do
    enforceSessionExecutionEpoch old new
    rejectSessionBindingChange old new
  | .executions, _, old, new => rejectExecutionBindingChange old new
  | .attempts, db, old, new => do
    enforceAttemptMutationFence db new old.current
    rejectAttemptIdentityOrBindingChange old new
  | .workspaces, _, old, new => rejectWorkspaceIdentityChange old new
  | .workspaceGenerations, _, _, _ => .error (raised "workspace generations are immutable")
  | .checkpoints, _, old, new => enforceCheckpointImmutability old new
  | .sandboxBindings, _, old, new => rejectSandboxBindingIdentityChange old new
  | .sandboxBindingRequests, _, old, new => enforceSandboxRequestJournal old new
  | .sandboxOperations, _, _, _ => .error (raised "sandbox operations are immutable")
  | .harnessBindings, _, old, new => rejectHarnessBindingIdentityChange old new
  | .runtimeEvents, _, _, _ => .error (raised "runtime events are append-only")
  | .idempotencyRecords, _, old, new => enforceIdempotencyRecordMutation now old new
  | .outboxMessages, _, old, new => enforceOutboxMessageMutation now old new
  | .reconciliationWork, _, old, new => enforceReconciliationWorkMutation old new
  | .cleanupIntents, _, old, new => enforceCleanupIntentMutation old new
  | .agentdCredentials, _, old, new => enforceAgentdCredentialHistory old new
  | .agentdBootstrapDelivery, _, old, new => enforceAgentdDeliveryHistory old new
  | .agentdAdmission, _, old, new => enforceAgentdAdmissionHistory old new
  | .agentdCommands, _, old, new => enforceAgentdCommandHistory old new
  | .localAuthorityGrants, _, old, new => enforceLocalGrantMutation old new
  | .executionInputs, _, _, _ => .error (raised "runtime events are append-only")
  | .executionSignals, _, _, _ => .error (raised "runtime events are append-only")
  | .workspaceCheckpointOperations, _, old, new => enforceWorkspaceCheckpointOperation old new
  | .sessionSuspendOperations, _, _, _ =>
    .error (raised "Session suspend operations are immutable")
  | .sessionResumeOperations, _, old, new => enforceSessionResumeOperation old new
  | .sandboxReplacements, _, _, _ =>
    .error (raised "sandbox replacement decisions are immutable")
  | .runtimeProfileResolutions, _, _, _ =>
    .error (raised "runtime profile resolution snapshots are immutable")
  | .runtimeEventStreams, _, _, _ => .ok ()
  | .agentdCredentialState, _, _, _ => .ok ()
  | .agentdFrameSequences, _, _, _ => .ok ()

/-- `BEFORE DELETE` triggers. -/
def deleteTrigger : (t : Table) → Db → Row t → Except Fault Unit
  | .sandboxBindingRequests, _, _ => .error (raised "sandbox replay records are retained")
  | .sandboxOperations, _, _ => .error (raised "sandbox operations are immutable")
  | .runtimeEvents, _, _ => .error (raised "runtime events are append-only")
  | .agentdCredentials, _, _ => .error (raised "agentd credential history is retained")
  | .agentdBootstrapDelivery, _, _ => .error (raised "bootstrap delivery history is retained")
  | .agentdAdmission, _, _ => .error (raised "agentd policy history is retained")
  | .agentdCommands, _, _ => .error (raised "agentd policy history is retained")
  | .localAuthorityGrants, _, _ => .error (raised "local grant history is retained")
  | .sessionSuspendOperations, _, _ =>
    .error (raised "Session suspend operations are immutable")
  | .sessionResumeOperations, _, _ => .error (raised "resume history is immutable")
  | .sandboxReplacements, _, _ =>
    .error (raised "sandbox replacement decisions are immutable")
  | .runtimeProfileResolutions, _, _ =>
    .error (raised "runtime profile resolution snapshots are immutable")
  | _, _, _ => .ok ()

end ThinkPixelAR.Postgres
