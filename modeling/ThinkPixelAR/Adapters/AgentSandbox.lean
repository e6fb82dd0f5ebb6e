import ThinkPixelAR.App.ComputeReconciler
import ThinkPixelAR.Postgres.SandboxLifecycle
import ThinkPixelAR.Relational.Calls

/-!
The Agent Sandbox provider (`internal/adapters/sandbox/agentsandbox`): the calls of the
store that an acquisition, a status and a release make, with the checks around them.
What the cluster answers, and what the configured resolver and verifiers decide, is
given by the environment of one call.
-/
namespace ThinkPixelAR.Adapters.AgentSandbox

open Relational Sandbox
open Postgres hiding errNotFound errConflict

/-- A service that calls the store. -/
abbrev Service := Calls Db Error

/-- One transaction of `SandboxBindings`. -/
def call {α : Type} (now : Time) (work : Transaction α) : Service (Except Error α) :=
  Calls.perform (SandboxBindings.transaction now work)

/-- The classes of Kubernetes errors the adapter tells apart. -/
inductive ApiError where
  | deadlineExceeded
  | timeout
  | notFound
  | forbidden
  | conflict
  | alreadyExists
  | invalid
  | other

/-- `providerError`. -/
def providerError : ApiError → Error
  | .deadlineExceeded | .timeout => errTimeout
  | .notFound => errNotFound
  | .forbidden => errPermission
  | .conflict | .alreadyExists => errConflict
  | .invalid => errInvalid
  | .other => errUnavailable

/-- What the adapter reads of a `Sandbox` object. The recorded revision is `none`
without the annotation and `some none` when it is not a number. -/
structure Object where
  uid : String
  acquireDigest : Option Digest
  attempt : String
  operationRevision : Option (Option Nat)
  deleting : Bool
  blueprint : String
deriving DecidableEq

/-- What the adapter checks of a resolved blueprint; `secure` is the verdict of
`secureBlueprint`. -/
structure Blueprint where
  text : String
  capabilityDigest : String
  service : Option Bool
  volumeClaimTemplates : Nat
  containers : Nat
  secure : Bool
deriving DecidableEq

/-- Configuration of the provider and the answers one call receives. `inspect` is
what the Pod, the capabilities, the network and the verifier say of an object. -/
structure Environment where
  namespace_ : String
  capabilityDigest : String
  network : Option (Except Error Unit)
  now : Time
  reserveAt : Time
  reservation : ReserveEnvironment
  getAt : Time
  bindAt : Time
  beginAt : Time
  capabilities : Except Error Unit
  resolve : Option Blueprint
  get : Except ApiError Object
  create : Except ApiError Object
  getAgain : Except ApiError Object
  delete : Except ApiError Unit
  inspect : Binding → Object → Except Error (State × EffectiveFacts)

variable (platform : Platform) (env : Environment)

def sandboxName (id : ID) : String := "ar-" ++ id.text

def providerReference (id : ID) (uid : String) : String :=
  env.namespace_ ++ "/" ++ sandboxName id ++ "/" ++ uid

/-! ### Acquisition -/

/-- `imageDigest`: a name, `@sha256:` and 64 lower-case hexadecimal digits. -/
def imageDigest (image : String) : Bool :=
  match image.toList.splitOn '@' with
  | [name, digest] =>
    (match name with
      | [] => false
      | first :: rest => first.isAlphanum && rest.all isNameChar) &&
      digest.take 7 = "sha256:".toList && digest.length = 71 &&
      (digest.drop 7).all fun c => c.isDigit || ('a' ≤ c && c ≤ 'f')
  | _ => false

/-- `validAcquire`. -/
def validAcquire (r : AcquireRequest) : Bool :=
  [platform.tenantID, r.scope.sessionID, r.scope.executionID, r.scope.attemptID,
      r.scope.sandboxID].all validID &&
    0 < r.scope.generation && 0 < r.scope.attemptOrdinal && imageDigest r.runtime.image &&
    r.runtime.entrypoint ≠ [] &&
    (r.runtime.architecture = "amd64" || r.runtime.architecture = "arm64") &&
    r.profileDigest.isSome && r.implementationDigest.isSome &&
    r.profile.validateConstraints = .ok () && r.bootstrapReference ≠ "" &&
    r.workspace.reference ≠ ""

/-- The checks of `Acquire` before it reserves; the result is the blueprint. -/
def checkAcquire (r : AcquireRequest) : Except Error Blueprint := do
  if !validAcquire platform r || r.deadline ≤ env.now then throw errInvalid
  if requestDigest platform r = none ∨ requestDigest platform r ≠ r.operation.digest then
    throw errConflict
  env.capabilities
  let blueprint ← env.resolve.elim (.error errUnsupported) .ok
  if blueprint.capabilityDigest ≠ env.capabilityDigest then throw errConflict
  if blueprint.service ≠ some false || blueprint.volumeClaimTemplates ≠ 0 ||
      blueprint.containers = 0 then throw errIntegrity
  if r.profile.isolationClass = "confidential-strong" then throw errUnsupported
  if r.profile.isolationClass = "microvm-strong" && !blueprint.secure then throw errIntegrity
  if r.profile.isolationClass ≠ "container-standard" && env.network.isNone then
    throw errUnsupported
  return blueprint

/-- `checkNetwork`. -/
def checkNetwork (r : AcquireRequest) : Except Error Unit :=
  match env.network with
  | some verdict => verdict
  | none =>
    if r.profile.isolationClass ≠ "container-standard" then .error errUnsupported else .ok ()

/-- The object of the sandbox, created when it is missing. A bound resource that is
missing is not created again. -/
def getOrCreate (binding : Binding) : Except Error Object :=
  match env.get with
  | .ok object => .ok object
  | .error .notFound =>
    if binding.providerReference ≠ none then .error errNotFound
    else
      match env.create with
      | .error .alreadyExists => env.getAgain.mapError providerError
      | answer => answer.mapError providerError
  | .error e => .error (providerError e)

/-- The checks of `Acquire` after its reservation; the result is the reference. -/
def checkExisting (blueprint : Blueprint) (r : AcquireRequest) (binding : Binding) :
    Except Error String := do
  if binding.request ≠ r then throw errConflict
  checkNetwork env r
  let existing ← getOrCreate env binding
  if existing.acquireDigest ≠ r.operation.digest || existing.attempt ≠ r.scope.attemptID.text ||
      existing.uid = "" || existing.deleting then throw errConflict
  if existing.blueprint ≠ blueprint.text then throw errIntegrity
  let reference := providerReference env r.scope.sandboxID existing.uid
  if binding.providerReference ≠ none ∧ binding.providerReference ≠ some reference then
    throw errIntegrity
  return reference

/-- `Acquire`. -/
def acquire (r : AcquireRequest) : Service (Except Error Handle) :=
  match checkAcquire platform env r with
  | .error e => return .error e
  | .ok blueprint => do
    match ← call env.reserveAt (reserve platform env.reserveAt env.reservation r) with
    | .error e => return .error e
    | .ok binding =>
      match checkExisting env blueprint r binding with
      | .error e => return .error e
      | .ok reference =>
        match ← call env.bindAt (bindReference platform env.bindAt r.scope.sandboxID reference) with
        | .error e => return .error e
        | .ok () =>
          return .ok {
            sandboxID := r.scope.sandboxID
            providerKind := "kubernetes-agent-sandbox"
            providerReference := some reference
            state := .provisioning
            observedAt := env.now }

/-! ### Status and release -/

/-- `SandboxBindings.Get`. -/
def getBinding (id : ID) : Service (Except Error Binding) :=
  call env.getAt do
    let (b, _) ← readSandboxBinding platform id
    return b

/-- The checks of `getOwned`: the object belongs to the binding. -/
def checkOwned (id : ID) (b : Binding) : Except Error Object := do
  if b.request.scope.sandboxID ≠ id then throw errIntegrity
  if b.providerReference.any fun reference =>
      !(env.namespace_ ++ "/" ++ sandboxName id ++ "/").toList.isPrefixOf reference.toList then
    throw errIntegrity
  let object ← env.get.mapError providerError
  if object.uid = "" || (b.providerReference ≠ none ∧
      b.providerReference ≠ some (providerReference env id object.uid)) ||
      object.acquireDigest ≠ b.request.operation.digest ||
      object.attempt ≠ b.request.scope.attemptID.text then throw errIntegrity
  return object

/-- `getOwned`. -/
def getOwned (id : ID) : Service (Except Error (Binding × Object)) := do
  match ← getBinding platform env id with
  | .error e => return .error e
  | .ok b => return (checkOwned env id b).map (b, ·)

/-- `Get`. -/
def get (id : ID) : Service (Except Error Status) := do
  match ← getOwned platform env id with
  | .error e => return .error e
  | .ok (b, object) =>
    return (env.inspect b object).map fun (state, effective) =>
      { handle := {
          sandboxID := id
          providerKind := "kubernetes-agent-sandbox"
          providerReference := b.providerReference
          state
          observedAt := env.now }
        state
        effective }

/-- `begin` for a release. -/
def beginRelease (id : ID) (op : Operation) : Service (Except Error Nat) :=
  if op.digest ≠ some (lifecycleDigest platform id "release" op.id) then return .error errInvalid
  else do
    match ← getBinding platform env id with
    | .error e => return .error e
    | .ok _ =>
      match ← call env.beginAt (beginOperation platform env.beginAt id .release op) with
      | .error e => return .error e
      | .ok 0 => return .error errIntegrity
      | .ok revision => return .ok revision

/-- `checkRevision`. -/
def checkRevision (object : Object) (revision : Nat) : Except Error Unit :=
  match object.operationRevision with
  | none => .ok ()
  | some none => .error errConflict
  | some (some observed) => if revision < observed then .error errConflict else .ok ()

/-- The deletion of an owned object, which may be gone. -/
def deleteOwned (revision : Nat) (owned : Except Error (Binding × Object)) : Except Error Unit :=
  match owned with
  | .error e => if e.is errNotFound then .ok () else .error e
  | .ok (_, object) => do
    checkRevision object revision
    match env.delete with
    | .error e => if providerError e = errNotFound then .ok () else .error (providerError e)
    | .ok () => .ok ()

/-- `Release`. -/
def release (id : ID) (op : Operation) : Service (Except Error Unit) := do
  match ← beginRelease platform env id op with
  | .error e => return .error e
  | .ok revision =>
    let owned ← getOwned platform env id
    return deleteOwned env revision owned

/-- The answers one pass of reconciliation receives; it calls each method at most once. -/
structure Answers where
  acquire : Environment
  get : Environment
  release : Environment

/-- The provider as reconciliation uses it. -/
def provider (answers : Answers) : ComputeProvider Service where
  acquire := acquire platform answers.acquire
  get := get platform answers.get
  release := release platform answers.release

end ThinkPixelAR.Adapters.AgentSandbox
