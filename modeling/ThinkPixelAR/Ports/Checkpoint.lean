import ThinkPixelAR.Ports.Workspace

/-!
Signed restore metadata (`internal/domain/checkpoint`, `internal/ports/checkpoint`):
the binding a checkpoint may be restored for, the integrity evidence of its
publication and the publication request.
-/
namespace ThinkPixelAR.Checkpoint

inductive State where
  | creating
  | committed
  | deleting
  | deleted
deriving DecidableEq

inductive Purpose where
  | checkpoint
  | suspend
  | fork
  | migration
deriving DecidableEq

def errInvalidCheckpoint : Error := .new "invalid checkpoint"
def errVersionConflict : Error := .new "checkpoint state version conflict"

/-- Digests are unprefixed here; `app.Digest` strips the prefix of a stored one. -/
structure Binding where
  sessionID : ID
  workspaceID : ID
  workspaceGenerationID : ID
  workspaceGeneration : Nat
  operationID : ID
  parentCheckpointID : Option ID
  purpose : Purpose
  runtimeSpecID : String
  runtimeSpecDigest : String
  adapterKind : String
  adapterVersion : String
  adapterBuildDigest : String
  protocolName : String
  protocolVersion : String
  stateFormatName : String
  stateFormatVersion : String
  runtimeProfileDigest : String
  retentionDisposition : String
deriving DecidableEq

structure Integrity where
  canonicalManifest : String
  canonicalization : String
  digestAlgorithm : String
  payloadDigest : String
  compositeRoot : String
  signatureAlgorithm : String
  signer : String
  keyID : String
  signature : String
  signedAt : Time
  vendorState : String
  exclusions : List String
deriving DecidableEq

structure VendorObject where
  id : String
  reference : String
  mediaType : String
  formatName : String
  formatVersion : String
  algorithm : String
  digest : String
  size : Nat
  classification : String
  role : String

structure Request where
  id : ID
  boundary : Workspace.CheckpointRequest
  binding : Binding
  vendorState : List VendorObject

structure Result where
  id : ID
  manifest : String

def errInvalidRestore : Error := .new "INVALID_CHECKPOINT"
def errIncompatible : Error := .new "INCOMPATIBLE_CHECKPOINT"

/-- `app.WorkspaceManifest`, the workspace part of a restore target. -/
structure WorkspaceManifest where
  id : ID
  generationID : ID
  generation : Nat
  snapshot : String
  root : String
  algorithm : String
  evidenceDigest : String

/-- What a manifest is validated against; all of it comes from the store. -/
structure RestoreTarget where
  checkpointID : ID
  state : State
  binding : Binding
  workspace : WorkspaceManifest

/-- `app.Digest`: the hexadecimal digits of a stored digest. -/
def appDigest (d : Digest) : String := String.ofList (Json.hexText 64 d.bits.toNat)

def Purpose.text : Purpose → String
  | .checkpoint => "checkpoint"
  | .suspend => "suspend"
  | .fork => "fork"
  | .migration => "migration"

/-- `json.Marshal` of a binding; field names are the Go names. -/
def Binding.json (b : Binding) : Json :=
  .object [("SessionID", .string b.sessionID.text), ("WorkspaceID", .string b.workspaceID.text),
    ("WorkspaceGenerationID", .string b.workspaceGenerationID.text),
    ("WorkspaceGeneration", .nat b.workspaceGeneration),
    ("OperationID", .string b.operationID.text),
    ("ParentCheckpointID", .string (idText b.parentCheckpointID)),
    ("Purpose", .string b.purpose.text), ("RuntimeSpecID", .string b.runtimeSpecID),
    ("RuntimeSpecDigest", .string b.runtimeSpecDigest), ("AdapterKind", .string b.adapterKind),
    ("AdapterVersion", .string b.adapterVersion),
    ("AdapterBuildDigest", .string b.adapterBuildDigest),
    ("ProtocolName", .string b.protocolName), ("ProtocolVersion", .string b.protocolVersion),
    ("StateFormatName", .string b.stateFormatName),
    ("StateFormatVersion", .string b.stateFormatVersion),
    ("RuntimeProfileDigest", .string b.runtimeProfileDigest),
    ("RetentionDisposition", .string b.retentionDisposition)]

def VendorObject.json (v : VendorObject) : Json :=
  .object [("object_id", .string v.id), ("object_ref", .string v.reference),
    ("media_type", .string v.mediaType),
    ("state_format", .object [("name", .string v.formatName),
      ("version", .string v.formatVersion)]),
    ("digest_algorithm", .string v.algorithm), ("digest", .string v.digest),
    ("size_bytes", .nat v.size), ("classification", .string v.classification),
    ("role", .string v.role)]

/-- `Request.Digest`; an empty slice is `null` after the copy of `Publish`. -/
def Request.digest (platform : Platform) (r : Request) : Digest :=
  platform.sha256 (Json.object [("ID", .string r.id.text), ("Boundary", r.boundary.json platform),
    ("Binding", r.binding.json),
    ("VendorState", if r.vendorState.isEmpty then .null
      else .array (r.vendorState.map VendorObject.json))]).encode

/-- The characters of `digestPattern` and `signaturePattern`. -/
def isDigestChar (c : Char) : Bool := c.isAlphanum || c = '_' || c = '-'

def validDigest (value : String) : Bool :=
  decide (32 ≤ value.utf8ByteSize) && decide (value.utf8ByteSize ≤ 256) &&
    value.toList.all isDigestChar

def validBinding (b : Binding) : Bool :=
  [b.sessionID, b.workspaceID, b.workspaceGenerationID, b.operationID].all validID &&
    b.workspaceGeneration ≤ maxInt64 && b.parentCheckpointID.all validID &&
    [b.runtimeSpecID, b.adapterKind, b.adapterVersion, b.protocolName, b.protocolVersion,
      b.stateFormatName, b.stateFormatVersion, b.retentionDisposition].all (boundedString 255) &&
    validDigest b.runtimeSpecDigest && validDigest b.adapterBuildDigest &&
    validDigest b.runtimeProfileDigest

def requiredExclusions : List String :=
  ["execution_credentials", "bootstrap_credentials", "provider_credentials", "gateway_tokens",
    "scm_and_tool_credentials", "signing_private_keys", "sandbox_process_authority"]

/-- `sameExclusions`: no duplicates, and every required name. -/
def sameExclusions (values : List String) : Bool :=
  values.length = requiredExclusions.length && decide values.Nodup &&
    requiredExclusions.all values.contains

/-- `validJSONKind` for objects (`some true`) and arrays. -/
def validJSONKind (object : Bool) (limit : Nat) (text : String) : Bool :=
  let trimmed := trimSpace text.toList
  let size := (trimmed.map Char.utf8Size).sum
  decide (2 ≤ size) && decide (size ≤ limit) &&
    trimmed.head? = some (if object then '{' else '[') && (Json.decodeChars trimmed).isSome

def validIntegrity (i : Integrity) : Bool :=
  validJSONKind true 262144 i.canonicalManifest && validJSONKind false 262144 i.vendorState &&
    i.canonicalization = "RFC8785-JCS" &&
    (i.digestAlgorithm = "sha-256" || i.digestAlgorithm = "sha-512") && i.signedAt ≠ 0 &&
    sameExclusions i.exclusions &&
    [i.signatureAlgorithm, i.signer, i.keyID].all (boundedString 128) &&
    validDigest i.payloadDigest && validDigest i.compositeRoot &&
    32 ≤ i.signature.utf8ByteSize && i.signature.utf8ByteSize ≤ 4096 &&
    i.signature.toList.all isDigestChar

end ThinkPixelAR.Checkpoint

namespace ThinkPixelAR

structure Checkpoint where
  id : ID
  binding : Checkpoint.Binding
  state : Checkpoint.State
  stateVersion : Nat
  integrity : Option Checkpoint.Integrity
  createdAt : Time
  updatedAt : Time
  committedAt : Option Time
  deletedAt : Option Time
deriving DecidableEq

namespace Checkpoint

/-- `New`: CREATING, without integrity evidence. -/
def create (checkpointID : ID) (binding : Binding) (now : Time) : Except Error Checkpoint :=
  if !validID checkpointID || !validBinding binding || now = 0 then .error errInvalidCheckpoint
  else .ok { id := checkpointID, binding, state := .creating, stateVersion := 0
             integrity := none, createdAt := now, updatedAt := now, committedAt := none
             deletedAt := none }

def validateMutation (c : Checkpoint) (expected : Nat) (now : Time) : Except Error Unit :=
  if now = 0 then .error errInvalidCheckpoint
  else if expected ≠ c.stateVersion then .error errVersionConflict
  else if now < c.updatedAt then .error errInvalidCheckpoint
  else .ok ()

/-- `Commit`: publish the integrity evidence once. -/
def commit (c : Checkpoint) (integrity : Integrity) (expected : Nat) (now : Time) :
    Except Error Checkpoint := do
  c.validateMutation expected now
  if c.state ≠ .creating || !validIntegrity integrity || now < integrity.signedAt then
    .error errInvalidCheckpoint
  else .ok { c with integrity := some integrity, state := .committed
                    stateVersion := c.stateVersion + 1, updatedAt := now
                    committedAt := some now }

end Checkpoint
end ThinkPixelAR
