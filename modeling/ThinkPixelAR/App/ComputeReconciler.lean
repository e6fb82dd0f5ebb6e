import ThinkPixelAR.Ports.Sandbox

/-!
Reconciliation of compute (`internal/app/reconciliation/compute.go`): what one pass
over a sandbox asks the provider for and observes, between its two calls of the store.
The provider and the authority are ports; `m` is where their calls take place.
-/
namespace ThinkPixelAR.Sandbox

/-- `ComputeProvider`. -/
structure ComputeProvider (m : Type → Type 1) where
  acquire : AcquireRequest → m (Except Error Handle)
  get : ID → m (Except Error Status)
  release : ID → Operation → m (Except Error Unit)

/-- `ComputeAuthority`. -/
structure ComputeAuthority (m : Type → Type 1) where
  checkCompute : Scope → m (Except Error Unit)

end ThinkPixelAR.Sandbox

namespace ThinkPixelAR.App.Compute

open Sandbox

/-- An observation without effective facts. -/
def observation (state : State) (code : String) (converged : Bool) : ComputeObservation :=
  { state, code, converged, recoveryRequired := false, effective := .zero }

def recovery (code : String) : ComputeObservation :=
  { observation .unknown code false with recoveryRequired := true }

def failure (e : Error) : ComputeObservation :=
  if e.is errIntegrity || e.is errUnsupported || e.is errInvalid then
    recovery "PROVIDER_INTEGRITY_FAILURE"
  else if e.is errConflict then observation .unknown "FENCE_CHANGED" false
  else if e.is errPermission then observation .unknown "PROVIDER_PERMISSION" false
  else observation .unknown "PROVIDER_UNAVAILABLE" false

/-- The observation of compute the provider knows. -/
def reported (intent : ComputeIntent) (status : Status) : ComputeObservation :=
  let bound := intent.binding.providerReference
  if status.handle.sandboxID ≠ intent.binding.request.scope.sandboxID ∨
      (bound ≠ none ∧ status.handle.providerReference ≠ bound) then
    recovery "PROVIDER_IDENTITY_MISMATCH"
  else
    match status.state with
    | .ready =>
      if status.effective.verified then
        { observation .ready "COMPUTE_READY" true with effective := status.effective }
      else recovery "EFFECTIVE_STATE_UNVERIFIED"
    | .requested | .provisioning | .resuming => observation status.state "COMPUTE_PENDING" false
    | .unknown => observation .unknown "PROVIDER_UNKNOWN" false
    | _ => recovery "COMPUTE_UNEXPECTED_STATE"

/-- The observation of an acquisition. -/
def acquired (r : AcquireRequest) : Except Error Handle → ComputeObservation
  | .error e => failure e
  | .ok handle =>
    if handle.sandboxID ≠ r.scope.sandboxID ∨ handle.providerReference = none then
      recovery "PROVIDER_IDENTITY_MISMATCH"
    else observation .provisioning "ACQUIRE_ACCEPTED" false

/-- The observation of a release the provider accepted: acceptance alone never proves
that the compute has disappeared. -/
def accepted : Except Error Status → ComputeObservation
  | .ok _ => observation .releasing "RELEASE_PENDING" false
  | .error e =>
    if e.is errNotFound then observation .released "COMPUTE_ABSENT" true else failure e

section
variable {m : Type → Type 1} [Monad m] (provider : ComputeProvider m)
  (authority : ComputeAuthority m)

/-- `running`: an ambiguous create is replayed under its original operation; a bound
resource that is gone is never created again. -/
def running (intent : ComputeIntent) : m ComputeObservation := do
  let r := intent.binding.request
  match ← provider.get r.scope.sandboxID with
  | .ok status => return reported intent status
  | .error e =>
    if e.is errNotFound = false then return failure e
    else if intent.binding.providerReference ≠ none then return recovery "BOUND_COMPUTE_MISSING"
    else if intent.operation ≠ r.operation then return recovery "ACQUIRE_IDENTITY_MISMATCH"
    else
      let answer ← provider.acquire r
      return acquired r answer

/-- `release`: replays the saved operation. -/
def release (intent : ComputeIntent) : m ComputeObservation := do
  let id := intent.binding.request.scope.sandboxID
  match ← provider.release id intent.operation with
  | .error e => return failure e
  | .ok () =>
    let answer ← provider.get id
    return accepted answer

/-- The part of `Reconcile` between its two calls of the store. -/
def observe (intent : ComputeIntent) : m (Except Error ComputeObservation) :=
  match intent.desired with
  | .running =>
    if intent.current = false then return .ok (recovery "FENCED_COMPUTE")
    else do
      match ← authority.checkCompute intent.binding.request.scope with
      | .error _ => return .error errPermission
      | .ok () =>
        let observed ← running provider intent
        return .ok observed
  | .released =>
    if intent.releaseAuthorized = false then return .error errConflict
    else do
      let observed ← release provider intent
      return .ok observed

end
end ThinkPixelAR.App.Compute
