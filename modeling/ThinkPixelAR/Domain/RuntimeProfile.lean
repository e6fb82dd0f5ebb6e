import ThinkPixelAR.Domain.Primitives

/-!
Runtime profiles (`internal/domain/runtimeprofile/profile.go`): the fields that the
sandbox adapter and `ValidateConstraints` read. The rest of the document is kept as
its canonical text.
-/
namespace ThinkPixelAR.RuntimeProfile

structure RequestLimit where
  request : Int
  limit : Int
deriving DecidableEq

structure Resources where
  cpu : RequestLimit
  memory : RequestLimit
  ephemeralStorage : RequestLimit
  gpuCount : Int
  gpuClasses : List String
deriving DecidableEq

structure Network where
  profile : String
  defaultDenyIngress : Bool
  defaultDenyEgress : Bool
  denyCloudMetadata : Bool
  denyKubernetesAPI : Bool
deriving DecidableEq

structure Security where
  privileged : Bool
  runAsNonRoot : Bool
  readOnlyRootFilesystem : Bool
  allowPrivilegeEscalation : Bool
  serviceAccountToken : Bool
  hostNetwork : Bool
  hostPID : Bool
  hostIPC : Bool
  hostPaths : Bool
  runtimeSockets : Bool
  linuxCapabilitiesAdd : List String
deriving DecidableEq

structure Profile where
  isolationClass : String
  resources : Resources
  network : Network
  gpuAllowed : Bool
  security : Security
  providerKind : String
  terminationGraceSeconds : Nat
  document : String
deriving DecidableEq

def errInvalidProfile : Error := .new "invalid runtime profile"

/-- A GPU request needs permission and a class, and no request names no class. -/
def Resources.gpuInvalid (r : Resources) (allowed : Bool) : Bool :=
  (0 < r.gpuCount && (!allowed || r.gpuClasses.isEmpty)) ||
    (r.gpuCount = 0 && !r.gpuClasses.isEmpty)

/-- What every isolation class but the standard container rules out. -/
def Profile.weak (p : Profile) : Bool :=
  p.security.privileged || !p.security.runAsNonRoot || !p.security.readOnlyRootFilesystem ||
    p.security.allowPrivilegeEscalation || p.security.serviceAccountToken ||
    p.security.hostNetwork || p.security.hostPID || p.security.hostIPC || p.security.hostPaths ||
    p.security.runtimeSockets || !p.security.linuxCapabilitiesAdd.isEmpty ||
    !p.network.defaultDenyIngress || !p.network.defaultDenyEgress ||
    !p.network.denyCloudMetadata || !p.network.denyKubernetesAPI ||
    p.network.profile = "unrestricted-standalone"

/-- `ValidateConstraints`. -/
def Profile.validateConstraints (p : Profile) : Except Error Unit :=
  if [p.resources.cpu, p.resources.memory, p.resources.ephemeralStorage].any
      (fun r => r.limit < r.request) then .error errInvalidProfile
  else if p.resources.gpuInvalid p.gpuAllowed then .error errInvalidProfile
  else if p.isolationClass ≠ "container-standard" && p.weak then .error errInvalidProfile
  else .ok ()

end ThinkPixelAR.RuntimeProfile
