import ThinkPixelAR.Domain.Execution
import ThinkPixelAR.Domain.Session

/-!
Callers of the services and local grants (`internal/app/session`,
`internal/ports/authority`).
-/
namespace ThinkPixelAR.App

/-- A trusted caller; `none` is a principal digest outside the pattern. -/
structure Caller where
  principalDigest : Option Digest
deriving DecidableEq

/-- A local authority grant. The resolved profile, its evidence and the granted
capabilities are one opaque document here: no modelled function reads them. -/
structure Grant where
  id : ID
  mode : String
  issuer : String
  policyDigest : String
  reason : String
  principalDigest : Option Digest
  sessionID : ID
  sessionVersion : Nat
  generation : Nat
  requestDigest : Option Digest
  runtime : Session.RawBinding
  document : String
  issuedAt : Time
  expiresAt : Time
deriving DecidableEq

end ThinkPixelAR.App
