import ThinkPixelAR.Domain.RuntimeProfile
import ThinkPixelAR.Domain.Session

/-!
The authority port (`internal/ports/authority`): who asks, what for, and what is
granted. A grant is a snapshot, not a credential.
-/
namespace ThinkPixelAR.Authority

def errDenied : Error := .new "authority: DENIED"
def errConflict : Error := .new "authority: CONFLICT"
def errUnavailable : Error := .new "authority: UNAVAILABLE"
def errInvalidGrant : Error := .new "authority: INVALID_GRANT"

/-- Supplied by trusted middleware; a zero deadline is no deadline. -/
structure Caller where
  tenantID : ID
  principalDigest : Option Digest
  deadline : Time

/-- The profile of `internal/domain/runtimeprofile` with the fields that the local
authority compares and narrows. -/
structure Profile extends RuntimeProfile.Profile where
  name : String
  maxProcesses : Int
  workspaceBytes : Int
  architectures : List String
deriving DecidableEq

/-- An admission request; empty texts, a zero duration and absent pointers ask for the
default. Durations are in nanoseconds. -/
structure Request where
  sessionID : ID
  sessionVersion : Nat
  generation : Nat
  keyDigest : Option Digest
  requestDigest : Option Digest
  profile : String
  network : String
  architecture : String
  duration : Int
  cpu : Option RuntimeProfile.RequestLimit
  memory : Option RuntimeProfile.RequestLimit
  ephemeralStorage : Option RuntimeProfile.RequestLimit
  workspaceBytes : Option Int
  maxProcesses : Option Int
  capabilities : List String

structure Grant where
  id : ID
  mode : String
  issuer : String
  policyDigest : Digest
  reason : String
  tenantID : ID
  principalDigest : Option Digest
  sessionID : ID
  sessionVersion : Nat
  generation : Nat
  requestDigest : Option Digest
  runtime : Session.RawBinding
  profile : Profile
  profileDigest : Digest
  implementationDigest : Digest
  implementation : String
  capabilities : List String
  issuedAt : Time
  expiresAt : Time

end ThinkPixelAR.Authority
