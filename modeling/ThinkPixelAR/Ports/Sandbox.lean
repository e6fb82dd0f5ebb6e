import ThinkPixelAR.Domain.Json
import ThinkPixelAR.Domain.RuntimeProfile

/-!
The sandbox lifecycle port (`internal/ports/sandbox`): acquisition requests, the
compute intents and observations of reconciliation, and replacement resources.
-/
namespace ThinkPixelAR.Sandbox

inductive State where
  | requested
  | provisioning
  | ready
  | active
  | suspending
  | suspended
  | resuming
  | releasing
  | released
  | failed
  | unknown
deriving DecidableEq

def errInvalid : Error := .new "sandbox INVALID_REQUEST"
def errUnsupported : Error := .new "sandbox UNSUPPORTED"
def errConflict : Error := .new "sandbox CONFLICT"
def errNotFound : Error := .new "sandbox NOT_FOUND"
def errUnavailable : Error := .new "sandbox UNAVAILABLE"
def errTimeout : Error := .new "sandbox TIMEOUT"
def errPermission : Error := .new "sandbox PERMISSION"
def errIntegrity : Error := .new "sandbox INTEGRITY"

/-- An operation identity; the digest is `none` for any text that is not a digest. -/
structure Operation where
  id : ID
  digest : Option Digest
deriving DecidableEq

structure Scope where
  sessionID : ID
  executionID : ID
  attemptID : ID
  sandboxID : ID
  generation : Nat
  attemptOrdinal : Nat
deriving DecidableEq

structure Runtime where
  image : String
  architecture : String
  entrypoint : List String
deriving DecidableEq

structure Attachment where
  reference : String
  workspaceID : ID
  generation : Nat
  mountPath : String
  readOnly : Bool
deriving DecidableEq

/-- The resolved runtime profile. -/
abbrev Profile := RuntimeProfile.Profile

structure AcquireRequest where
  scope : Scope
  operation : Operation
  runtime : Runtime
  profile : Profile
  profileDigest : Option Digest
  implementationDigest : Option Digest
  workspace : Attachment
  bootstrapReference : String
  deadline : Time
deriving DecidableEq

/-- Authoritative state of one sandbox; an unset provider reference is `none`. -/
structure Binding where
  request : AcquireRequest
  providerReference : Option String
deriving DecidableEq

structure EffectiveFacts where
  isolationClass : String
  image : String
  architecture : String
  resourceDigest : String
  networkClass : String
  attachmentReference : String
  verified : Bool

inductive DesiredCompute where
  | running
  | released
deriving DecidableEq

structure ComputeIntent where
  binding : Binding
  desired : DesiredCompute
  operation : Operation
  version : Nat
  revision : Nat
  current : Bool
  releaseAuthorized : Bool
deriving DecidableEq

structure ComputeObservation where
  state : State
  code : String
  converged : Bool
  recoveryRequired : Bool
  effective : EffectiveFacts

/-- The zero value of the effective facts. -/
def EffectiveFacts.zero : EffectiveFacts :=
  { isolationClass := "", image := "", architecture := "", resourceDigest := "", networkClass := ""
    attachmentReference := "", verified := false }

/-- What an acquisition returns; an empty provider reference is `none`. -/
structure Handle where
  sandboxID : ID
  providerKind : String
  providerReference : Option String
  state : State
  observedAt : Time

structure Status where
  handle : Handle
  state : State
  effective : EffectiveFacts

structure ReplacementResources where
  attemptID : ID
  sandboxID : ID
  acquireOperationID : ID
  attachmentReference : String
  bootstrapReference : String

end ThinkPixelAR.Sandbox

namespace ThinkPixelAR

/-- Library functions outside the repository: SHA-256, the RFC 3339 text of an
instant and the canonical JSON of an acquisition request, which is refused above
262144 bytes. `tenantID` is the tenant whose rows are modelled. -/
structure Platform where
  tenantID : ID
  sha256 : String → Digest
  rfc3339 : Time → String
  canonicalRequest : Sandbox.AcquireRequest → Option String

namespace Sandbox

/-- `RequestDigest`: the digest of the request without its own digest. -/
def requestDigest (platform : Platform) (r : AcquireRequest) : Option Digest :=
  (platform.canonicalRequest { r with operation := { r.operation with digest := none } }).map
    platform.sha256

/-- `LifecycleDigest`. -/
def lifecycleDigest (platform : Platform) (sandboxID : ID) (kind : String) (operationID : ID) :
    Digest :=
  platform.sha256 (Json.array [.string platform.tenantID.text, .string sandboxID.text,
    .string kind, .string operationID.text]).encode

end Sandbox
end ThinkPixelAR
