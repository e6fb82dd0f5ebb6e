import ThinkPixelAR.App.SuspendResume
import ThinkPixelAR.Domain.Attempt
import ThinkPixelAR.Domain.Cleanup
import ThinkPixelAR.Domain.Idempotency
import ThinkPixelAR.Domain.Outbox
import ThinkPixelAR.Domain.Reconciliation
import ThinkPixelAR.Domain.RuntimeEvent
import ThinkPixelAR.Ports.Agentd
import ThinkPixelAR.Ports.Checkpoint
import ThinkPixelAR.Relational.Table

/-!
Tables of the PostgreSQL store (`internal/adapters/postgres/migrations/sql`). A
table whose rows the code restores into an aggregate has that aggregate as its
row type; the others have a structure with the columns the code reads, writes or
constrains. JSON columns hold the value they encode, and a column with a format
`CHECK` for digests holds a `Digest`.
-/
namespace ThinkPixelAR.Postgres

/-- `sessions`: the aggregate and its two current references. -/
structure SessionRow extends Session where
  currentExecutionID : Option ID
  currentCheckpointID : Option ID
deriving DecidableEq

/-- `workspaces`; storage parameters no modelled statement reads are left out. -/
structure WorkspaceRow where
  id : ID
  sessionID : ID
  state : Workspace.State
  stateVersion : Nat
  providerKind : String
  providerReference : String
  storageProfile : String
  configDigest : Digest
  createOperationID : ID
  retentionDisposition : String
  currentGeneration : Option Nat
  currentWorkspaceGenerationID : Option ID
  currentAttachmentID : Option ID
  createdAt : Time
  updatedAt : Time
  deletedAt : Option Time
deriving DecidableEq

/-- `workspace_generations`; the classification is always CONFIDENTIAL. -/
structure WorkspaceGenerationRow where
  id : ID
  workspaceID : ID
  sessionID : ID
  generation : Nat
  parentID : Option ID
  parentGeneration : Option Nat
  operationID : ID
  providerSnapshotReference : Option String
  integrityAlgorithm : String
  integrityRoot : Digest
  manifestDigest : Digest
  logicalBytes : Nat
  logicalFiles : Nat
  creatorExecutionID : Option ID
  creatorAttemptID : Option ID
  creatorExecutionGeneration : Option Nat
  storageEvidence : String
  storageEvidenceDigest : Digest
  retentionDisposition : String
  createdAt : Time
deriving DecidableEq

/-- `checkpoints`: the aggregate and the digest of its publication request. -/
structure CheckpointRow extends Checkpoint where
  publicationRequestDigest : Option Digest
deriving DecidableEq

/-- A lifecycle operation recorded on a binding; both columns are set together. -/
structure RecordedOperation where
  id : ID
  digest : Digest
deriving DecidableEq

/-- `sandbox_bindings`. -/
structure SandboxBindingRow where
  id : ID
  sessionID : ID
  executionID : ID
  executionGeneration : Nat
  attemptID : ID
  attemptNo : Nat
  providerKind : String
  providerReference : Option String
  resolutionDigest : Digest
  acquireOperationID : ID
  acquireRequestDigest : Digest
  suspendOperation : Option RecordedOperation
  resumeOperation : Option RecordedOperation
  releaseOperation : Option RecordedOperation
  state : Sandbox.State
  reason : Option String
  effectiveFactsDigest : Option Digest
  observedAt : Option Time
  stateVersion : Nat
  createdAt : Time
  updatedAt : Time
deriving DecidableEq

/-- `sandbox_binding_requests`. -/
structure SandboxBindingRequestRow where
  sandboxBindingID : ID
  acquireOperationID : ID
  canonicalRequest : Sandbox.AcquireRequest
  operationRevision : Nat
deriving DecidableEq

inductive OperationKind where
  | suspend
  | resume
  | release
deriving DecidableEq

/-- `sandbox_operations`. -/
structure SandboxOperationRow where
  sandboxBindingID : ID
  operationID : ID
  kind : OperationKind
  requestDigest : Digest
  revision : Nat
  createdAt : Time
deriving DecidableEq

inductive HarnessState where
  | starting
  | ready
  | executing
  | interrupting
  | exited
  | failed
  | unknown
deriving DecidableEq

/-- `harness_bindings`. -/
structure HarnessBindingRow where
  id : ID
  sessionID : ID
  executionID : ID
  executionGeneration : Nat
  attemptID : ID
  attemptNo : Nat
  sandboxBindingID : ID
  adapterKind : String
  adapterVersion : String
  adapterBuildDigest : Digest
  negotiationDigest : Digest
  protocolName : String
  protocolVersion : String
  processReference : String
  vendorSessionReference : String
  startOperationID : ID
  startRequestDigest : Digest
  state : HarnessState
  reason : Option String
  observedAt : Option Time
  stateVersion : Nat
  createdAt : Time
  updatedAt : Time
deriving DecidableEq

/-- `runtime_event_streams`. -/
structure RuntimeEventStreamRow where
  sessionID : ID
  lastSequence : Nat
  updatedAt : Time
deriving DecidableEq

/-- `cleanup_intents`. -/
abbrev CleanupIntentRow := Cleanup.Intent

/-- `agentd_credential_state`: one row for each sandbox binding. -/
structure CredentialStateRow where
  sandboxBindingID : ID
  attemptID : ID
  version : Nat
  latestDigest : Option Digest
  issuedAt : Option Time
  connectionID : Option ID
  connectionEpoch : Nat
  connectionDigest : Option Digest
  connectionDeadline : Option Time
deriving DecidableEq

/-- `agentd_credentials`. -/
structure CredentialRow where
  sandboxBindingID : ID
  credentialID : ID
  certificateDigest : Digest
  issuerDigest : Digest
  proofDigest : Option Digest
  bootstrap : Bool
  notBefore : Time
  expiresAt : Time
  consumedAt : Option Time
deriving DecidableEq

/-- `agentd_bootstrap_delivery`. -/
structure BootstrapDeliveryRow where
  credentialID : ID
  reference : String
  providerUID : String
  expiresAt : Time
  retryAfter : Time
  cleanupRequested : Bool
  cleaned : Bool
deriving DecidableEq

/-- `agentd_admission`. -/
structure AdmissionRow where
  sandboxBindingID : ID
  snapshot : Agentd.Materialization
  revoked : Bool
deriving DecidableEq

inductive Outcome where
  | pending
  | acknowledged
  | unknown
deriving DecidableEq

/-- `agentd_commands`. -/
structure CommandRow where
  sandboxBindingID : ID
  operationID : ID
  requestDigest : Digest
  connectionID : ID
  connectionEpoch : Nat
  messageID : ID
  sequence : Nat
  outcome : Outcome
deriving DecidableEq

inductive Direction where
  | ar
  | agentd
deriving DecidableEq

/-- `agentd_frame_sequences`. -/
structure FrameSequenceRow where
  sandboxBindingID : ID
  connectionID : ID
  direction : Direction
  sequence : Nat
  frameDigest : Digest
deriving DecidableEq

inductive GrantState where
  | active
  | cancelled
  | expired
deriving DecidableEq

/-- `local_authority_grants`. -/
structure LocalGrantRow where
  id : ID
  sessionID : ID
  snapshot : App.Grant
  snapshotDigest : Digest
  state : GrantState
  stateVersion : Nat
  terminalAt : Option Time
deriving DecidableEq

/-- `execution_inputs`. -/
structure ExecutionInputRow where
  executionID : ID
  input : String
  inputDigest : Digest
deriving DecidableEq

/-- `execution_signals`. -/
structure ExecutionSignalRow where
  id : ID
  executionID : ID
  payload : String
  payloadDigest : Digest
deriving DecidableEq

/-- `workspace_checkpoint_operations`. -/
structure CheckpointOperationRow where
  operationID : ID
  workspaceID : ID
  sessionID : ID
  request : Workspace.CheckpointRequest
  requestDigest : Digest
  priorState : Workspace.State
  state : Workspace.OperationState
  proof : Option Workspace.CheckpointProof
  proofDigest : Option Digest
deriving DecidableEq

/-- `session_suspend_operations`. -/
structure SuspendOperationRow where
  operationID : ID
  sessionID : ID
  checkpointID : ID
  requestDigest : Digest
  priorState : Session.State
  stateVersion : Nat
  executionGeneration : Nat
  createdAt : Time
deriving DecidableEq

/-- `session_resume_operations`. -/
structure ResumeOperationRow where
  operationID : ID
  sessionID : ID
  checkpointID : ID
  sandboxID : ID
  bootstrapID : ID
  attachmentID : ID
  requestDigest : Digest
  intent : App.ResumeIntent
  intentDigest : Digest
  state : App.ResumeState
  result : App.ResumeResult
  observation : Option App.ResumeObservation
  cleaned : Bool
  createdAt : Time
deriving DecidableEq

/-- `sandbox_replacements`. -/
structure SandboxReplacementRow where
  oldSandboxID : ID
  newSandboxID : ID
  createdAt : Time
deriving DecidableEq

/-- `runtime_profile_resolution_snapshots`; `profile` is the value of the canonical
text. -/
structure ProfileResolutionRow where
  executionID : ID
  canonicalResolution : String
  profile : Option Sandbox.Profile
  resolutionDigest : Digest
  implementationDigest : Digest
deriving DecidableEq

inductive Table where
  | sessions
  | executions
  | attempts
  | workspaces
  | workspaceGenerations
  | checkpoints
  | sandboxBindings
  | sandboxBindingRequests
  | sandboxOperations
  | harnessBindings
  | runtimeEventStreams
  | runtimeEvents
  | idempotencyRecords
  | outboxMessages
  | reconciliationWork
  | cleanupIntents
  | agentdCredentialState
  | agentdCredentials
  | agentdBootstrapDelivery
  | agentdAdmission
  | agentdCommands
  | agentdFrameSequences
  | localAuthorityGrants
  | executionInputs
  | executionSignals
  | workspaceCheckpointOperations
  | sessionSuspendOperations
  | sessionResumeOperations
  | sandboxReplacements
  | runtimeProfileResolutions
deriving DecidableEq

@[reducible] def Row : Table → Type
  | .sessions => SessionRow
  | .executions => Execution
  | .attempts => Attempt
  | .workspaces => WorkspaceRow
  | .workspaceGenerations => WorkspaceGenerationRow
  | .checkpoints => CheckpointRow
  | .sandboxBindings => SandboxBindingRow
  | .sandboxBindingRequests => SandboxBindingRequestRow
  | .sandboxOperations => SandboxOperationRow
  | .harnessBindings => HarnessBindingRow
  | .runtimeEventStreams => RuntimeEventStreamRow
  | .runtimeEvents => RuntimeEvent.Event
  | .idempotencyRecords => Idempotency.Record
  | .outboxMessages => Outbox.Message
  | .reconciliationWork => Reconciliation.Work
  | .cleanupIntents => CleanupIntentRow
  | .agentdCredentialState => CredentialStateRow
  | .agentdCredentials => CredentialRow
  | .agentdBootstrapDelivery => BootstrapDeliveryRow
  | .agentdAdmission => AdmissionRow
  | .agentdCommands => CommandRow
  | .agentdFrameSequences => FrameSequenceRow
  | .localAuthorityGrants => LocalGrantRow
  | .executionInputs => ExecutionInputRow
  | .executionSignals => ExecutionSignalRow
  | .workspaceCheckpointOperations => CheckpointOperationRow
  | .sessionSuspendOperations => SuspendOperationRow
  | .sessionResumeOperations => ResumeOperationRow
  | .sandboxReplacements => SandboxReplacementRow
  | .runtimeProfileResolutions => ProfileResolutionRow

instance : (t : Table) → DecidableEq (Row t)
  | .sessions => inferInstanceAs (DecidableEq SessionRow)
  | .executions => inferInstanceAs (DecidableEq Execution)
  | .attempts => inferInstanceAs (DecidableEq Attempt)
  | .workspaces => inferInstanceAs (DecidableEq WorkspaceRow)
  | .workspaceGenerations => inferInstanceAs (DecidableEq WorkspaceGenerationRow)
  | .checkpoints => inferInstanceAs (DecidableEq CheckpointRow)
  | .sandboxBindings => inferInstanceAs (DecidableEq SandboxBindingRow)
  | .sandboxBindingRequests => inferInstanceAs (DecidableEq SandboxBindingRequestRow)
  | .sandboxOperations => inferInstanceAs (DecidableEq SandboxOperationRow)
  | .harnessBindings => inferInstanceAs (DecidableEq HarnessBindingRow)
  | .runtimeEventStreams => inferInstanceAs (DecidableEq RuntimeEventStreamRow)
  | .runtimeEvents => inferInstanceAs (DecidableEq RuntimeEvent.Event)
  | .idempotencyRecords => inferInstanceAs (DecidableEq Idempotency.Record)
  | .outboxMessages => inferInstanceAs (DecidableEq Outbox.Message)
  | .reconciliationWork => inferInstanceAs (DecidableEq Reconciliation.Work)
  | .cleanupIntents => inferInstanceAs (DecidableEq CleanupIntentRow)
  | .agentdCredentialState => inferInstanceAs (DecidableEq CredentialStateRow)
  | .agentdCredentials => inferInstanceAs (DecidableEq CredentialRow)
  | .agentdBootstrapDelivery => inferInstanceAs (DecidableEq BootstrapDeliveryRow)
  | .agentdAdmission => inferInstanceAs (DecidableEq AdmissionRow)
  | .agentdCommands => inferInstanceAs (DecidableEq CommandRow)
  | .agentdFrameSequences => inferInstanceAs (DecidableEq FrameSequenceRow)
  | .localAuthorityGrants => inferInstanceAs (DecidableEq LocalGrantRow)
  | .executionInputs => inferInstanceAs (DecidableEq ExecutionInputRow)
  | .executionSignals => inferInstanceAs (DecidableEq ExecutionSignalRow)
  | .workspaceCheckpointOperations => inferInstanceAs (DecidableEq CheckpointOperationRow)
  | .sessionSuspendOperations => inferInstanceAs (DecidableEq SuspendOperationRow)
  | .sessionResumeOperations => inferInstanceAs (DecidableEq ResumeOperationRow)
  | .sandboxReplacements => inferInstanceAs (DecidableEq SandboxReplacementRow)
  | .runtimeProfileResolutions => inferInstanceAs (DecidableEq ProfileResolutionRow)

abbrev Db := Relational.Database Row

/-- A store without rows. -/
def Db.empty : Db := fun _ => []

/-- SQLSTATE of a refused statement, as far as the code tells them apart. -/
inductive SqlState where
  | uniqueViolation
  | foreignKeyViolation
  | checkViolation
  | numericOutOfRange
deriving DecidableEq

structure Fault where
  state : SqlState
  message : String
deriving DecidableEq

/-- `RAISE EXCEPTION message USING ERRCODE = '23514'`. -/
def raised (message : String) : Fault := ⟨.checkViolation, message⟩

end ThinkPixelAR.Postgres
