import ThinkPixelAR.Ports.Sandbox

/-!
The sandbox transport port (`internal/ports/sandboxtransport`). Texts that the code
parses as identifiers or digests and refuses otherwise are typed; the empty text is
`none`.
-/
namespace ThinkPixelAR.Agentd

/-- The wire `Binding`. -/
structure FrameBinding where
  sessionID : ID
  executionID : ID
  attemptID : ID
  sandboxBindingID : ID
  sessionGeneration : Nat
deriving DecidableEq

structure VersionRange where
  major : Nat
  minimumMinor : Nat
  maximumMinor : Nat
deriving DecidableEq

/-- The limits the frame policy reads. -/
structure Limits where
  frameBytes : Nat
  eventBytes : Nat
  diagnosticBytes : Nat
deriving DecidableEq

structure HarnessConfig where
  argv : List String
  startTimeoutMS : Nat
  stopGraceMS : Nat
  killWaitMS : Nat
deriving DecidableEq

/-- Startup metadata; the endpoint, identity and the limits no policy reads are
the rest of the document. -/
structure Config where
  controlDeadlineUnixMS : Int
  binding : FrameBinding
  adapterKind : String
  adapterDigest : Digest
  protocol : VersionRange
  capabilities : List String
  requiredCapabilities : List String
  limits : Limits
  harness : HarnessConfig
  document : String
deriving DecidableEq

structure Materialization where
  config : Config
  challenge : String
  grantDigest : Digest
  authorityReference : String
  revision : Digest
  requestDigest : Digest
  harnessHandle : ID
  harnessNegotiationDigest : Option Digest
  executeOperationID : Option ID
  executeDigest : Option Digest
  deadline : Time
  bootstrapDeadline : Time
deriving DecidableEq

/-- `time.Time.UnixMilli` of nanoseconds since Go's zero time. -/
def unixMilli (t : Time) : Int := t / 1000000 - 62135596800000

end ThinkPixelAR.Agentd
