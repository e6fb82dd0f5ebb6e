import ThinkPixelAR.App.Views
import ThinkPixelAR.Ports.Workspace

/-!
Requests, intents and results of suspend and resume (`internal/app/session`).
-/
namespace ThinkPixelAR.App

structure SuspendRequest where
  caller : Caller
  sessionID : ID
  operationID : ID
  checkpointID : ID
  expectedVersion : Nat
deriving DecidableEq

/-- The state is always SUSPENDED. -/
structure SuspendResult where
  operationID : ID
  sessionID : ID
  checkpointID : ID
  version : Nat
  generation : Nat

/-- `SuspendRequest.Validate`. -/
def SuspendRequest.validate (r : SuspendRequest) : Except Error Unit :=
  if !([r.sessionID, r.operationID, r.checkpointID].all validID) ||
      r.caller.principalDigest.isNone || maxInt64 ≤ r.expectedVersion then
    .error Workspace.errInvalid
  else .ok ()

def SuspendRequest.json (platform : Platform) (r : SuspendRequest) : Json :=
  .object [("caller", .object [("TenantID", .string platform.tenantID.text),
      ("PrincipalDigest", .string (digestText r.caller.principalDigest))]),
    ("session_id", .string r.sessionID.text), ("operation_id", .string r.operationID.text),
    ("checkpoint_id", .string r.checkpointID.text), ("expected_version", .nat r.expectedVersion)]

/-- `SuspendRequest.Digest`; the prefix keeps it apart from a resume digest. -/
def SuspendRequest.digest (platform : Platform) (r : SuspendRequest) : Digest :=
  platform.sha256 ("thinkpixel.session-suspend/v1\x00" ++ (r.json platform).encode)

/-- `type ResumeRequest SuspendRequest`. -/
structure ResumeRequest where
  request : SuspendRequest
deriving DecidableEq

/-- `ResumeRequest.Validate`: preparing and completing raise the version twice. -/
def ResumeRequest.validate (r : ResumeRequest) : Except Error Unit := do
  r.request.validate
  if maxInt64 - 2 < r.request.expectedVersion then .error Workspace.errInvalid else .ok ()

def ResumeRequest.digest (platform : Platform) (r : ResumeRequest) : Digest :=
  platform.sha256 ("thinkpixel.session-resume/v1\x00" ++ (r.request.json platform).encode)

/-- Progress of a resume operation; RESUMING leaves the Session SUSPENDED. -/
inductive ResumeState where
  | resuming
  | ready
  | idle
  | degraded
deriving DecidableEq

structure ResumeIntent where
  request : ResumeRequest
  sandboxID : ID
  bootstrapID : ID
  attachmentID : ID
  workspaceID : ID
  workspaceGenerationID : ID
  workspaceGeneration : Nat
  executionGeneration : Nat
  version : Nat
  runtime : Session.RawBinding
  manifest : String
  deadline : Time
  targetState : ResumeState
deriving DecidableEq

def ResumeState.text : ResumeState → String
  | .resuming => "RESUMING"
  | .ready => "READY"
  | .idle => "IDLE"
  | .degraded => "DEGRADED"

/-- `ResumeIntent.Digest`; field names are the Go names. -/
def ResumeIntent.digest (platform : Platform) (i : ResumeIntent) : Digest :=
  platform.sha256 (Json.object [("Request", i.request.request.json platform),
    ("SandboxID", .string i.sandboxID.text), ("BootstrapID", .string i.bootstrapID.text),
    ("AttachmentID", .string i.attachmentID.text), ("WorkspaceID", .string i.workspaceID.text),
    ("WorkspaceGenerationID", .string i.workspaceGenerationID.text),
    ("WorkspaceGeneration", .nat i.workspaceGeneration),
    ("ExecutionGeneration", .nat i.executionGeneration), ("Version", .nat i.version),
    ("Runtime", i.runtime.json), ("Manifest", .bytes i.manifest),
    ("Deadline", .string (platform.rfc3339 i.deadline)),
    ("TargetState", .string i.targetState.text)]).encode

structure ResumeResult where
  operationID : ID
  sessionID : ID
  checkpointID : ID
  sandboxID : ID
  bootstrapID : ID
  attachmentID : ID
  state : ResumeState
  version : Nat
  generation : Nat
deriving DecidableEq

structure ResumeObservation where
  sandboxReference : String
  attachmentReference : String
  evidenceDigest : Option Digest
deriving DecidableEq

/-- `ResumeObservation.Validate`. -/
def ResumeObservation.validate (o : ResumeObservation) : Except Error Unit :=
  if !boundedString 2048 o.sandboxReference || !boundedString 2048 o.attachmentReference ||
      o.evidenceDigest.isNone then .error Workspace.errInvalid
  else .ok ()

end ThinkPixelAR.App
