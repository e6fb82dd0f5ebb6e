import ThinkPixelAR.Domain.Workspace
import ThinkPixelAR.Ports.Sandbox

/-!
The workspace checkpoint port (`internal/ports/workspace/checkpoint.go`): the
request that names a quiesced boundary, and the proof that publishes it.
-/
namespace ThinkPixelAR.Workspace

/-- Progress of a checkpoint operation. -/
inductive OperationState where
  | prepared
  | committed
  | aborted
deriving DecidableEq

def errInvalid : Error := .new "workspace INVALID_REQUEST"
def errConflict : Error := .new "workspace CONFLICT"
def errIntegrity : Error := .new "workspace INTEGRITY"
def errUnavailable : Error := .new "workspace UNAVAILABLE"

/-- Empty execution, attempt and attachment identities are `none`. -/
structure CheckpointRequest where
  sessionID : ID
  workspaceID : ID
  operation : Sandbox.Operation
  parentID : ID
  parentGeneration : Nat
  sessionGeneration : Nat
  executionID : Option ID
  attemptID : Option ID
  attachmentID : Option ID
  configurationDigest : Option Digest
deriving DecidableEq

structure CheckpointProof where
  snapshotReference : String
  integrityAlgorithm : String
  integrityRoot : Option Digest
  manifestDigest : Option Digest
  logicalBytes : Nat
  logicalFiles : Nat
  evidence : String
deriving DecidableEq

/-- `json.Marshal` of the request; field names are the Go names. -/
def CheckpointRequest.json (platform : Platform) (r : CheckpointRequest) : Json :=
  .object [("TenantID", .string platform.tenantID.text), ("SessionID", .string r.sessionID.text),
    ("WorkspaceID", .string r.workspaceID.text),
    ("Operation", .object [("ID", .string r.operation.id.text),
      ("Digest", .string (digestText r.operation.digest))]),
    ("ParentID", .string r.parentID.text), ("ParentGeneration", .nat r.parentGeneration),
    ("SessionGeneration", .nat r.sessionGeneration),
    ("ExecutionID", .string (idText r.executionID)),
    ("AttemptID", .string (idText r.attemptID)), ("AttachmentID", .string (idText r.attachmentID)),
    ("ConfigurationDigest", .string (digestText r.configurationDigest))]

/-- `CheckpointDigest`: the digest of the request without its own digest. -/
def checkpointDigest (platform : Platform) (r : CheckpointRequest) : Digest :=
  platform.sha256 (CheckpointRequest.json platform
    { r with operation := { r.operation with digest := none } }).encode

/-- `CheckpointRequest.Validate`. -/
def CheckpointRequest.validate (platform : Platform) (r : CheckpointRequest) :
    Except Error Unit :=
  if !([r.sessionID, r.workspaceID, r.operation.id, r.parentID].all validID) then .error errInvalid
  else if maxInt64 ≤ r.parentGeneration || maxInt64 < r.sessionGeneration ||
      r.configurationDigest.isNone || r.operation.digest ≠ some (checkpointDigest platform r) then
    .error errInvalid
  else match r.executionID with
    | none => if r.attemptID.isSome || r.attachmentID.isSome then .error errInvalid else .ok ()
    | some execution =>
      if r.sessionGeneration = 0 || !validID execution || !r.attemptID.any validID ||
          !r.attachmentID.any validID then .error errInvalid
      else .ok ()

/-- `CheckpointProof.Validate`: bounded references, exact digests and a nonempty
evidence object. -/
def CheckpointProof.validate (p : CheckpointProof) : Except Error Unit :=
  if p.snapshotReference = "" || 2048 < p.snapshotReference.utf8ByteSize ||
      p.integrityAlgorithm = "" || 255 < p.integrityAlgorithm.utf8ByteSize ||
      p.integrityRoot.isNone || p.manifestDigest.isNone || maxInt64 < p.logicalBytes ||
      maxInt64 < p.logicalFiles || 32768 < p.evidence.utf8ByteSize then .error errInvalid
  else match Json.decode p.evidence with
    | some (.object (_ :: _)) => .ok ()
    | _ => .error errInvalid

/-- `json.Marshal` of a validated proof. -/
def CheckpointProof.encode (p : CheckpointProof) : String :=
  (Json.object [("SnapshotReference", .string p.snapshotReference),
    ("IntegrityAlgorithm", .string p.integrityAlgorithm),
    ("IntegrityRoot", .string (digestText p.integrityRoot)),
    ("ManifestDigest", .string (digestText p.manifestDigest)),
    ("LogicalBytes", .nat p.logicalBytes), ("LogicalFiles", .nat p.logicalFiles),
    ("Evidence", .raw p.evidence)]).encode

/-- The proof as `json.Unmarshal` reads its encoding back. -/
def CheckpointProof.decoded (p : CheckpointProof) : CheckpointProof :=
  { p with evidence := String.ofList (Json.compactChars false false p.evidence.toList) }

end ThinkPixelAR.Workspace
