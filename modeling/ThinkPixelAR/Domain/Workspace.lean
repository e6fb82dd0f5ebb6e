import ThinkPixelAR.Domain.Json
import ThinkPixelAR.Relational.Methods

/-!
The Workspace aggregate (`internal/domain/workspace/workspace.go`): durable storage of a
Session and its committed generations. The lifecycle and the publication of generations
are separate methods.
-/
namespace ThinkPixelAR.Workspace

inductive State where
  | provisioning
  | ready
  | attached
  | snapshotting
  | degraded
  | deleting
  | deleted
deriving DecidableEq

def errInvalidWorkspace : Error := .new "invalid workspace"
def errIllegalTransition : Error := .new "illegal workspace transition"
def errVersionConflict : Error := .new "workspace state version conflict"
def errInvalidGeneration : Error := .new "invalid workspace generation"
def errGenerationExhausted : Error := .new "workspace generation exhausted"

/-- Provider, storage, source and creation evidence before `validBinding`. -/
structure RawBinding where
  sessionID : ID
  providerKind : String
  providerReference : String
  capacityBytes : Nat
  accessMode : String
  volumeMode : String
  encryptionClass : String
  storageProfile : String
  configDigest : Option Digest
  sourceType : String
  sourceReference : String
  provenance : String
  provenanceDigest : Option Digest
  createOperationID : ID
  retentionDisposition : String
deriving DecidableEq

def validBinding (b : RawBinding) : Bool :=
  validID b.sessionID && validID b.createOperationID && decide (b.capacityBytes ≠ 0) &&
    decide (b.capacityBytes ≤ maxInt64) &&
    [b.providerKind, b.providerReference, b.accessMode, b.volumeMode, b.encryptionClass,
      b.storageProfile, b.sourceType, b.sourceReference, b.retentionDisposition].all
      (boundedString 2048) &&
    b.configDigest.isSome && b.provenanceDigest.isSome && validJSONObject b.provenance

/-- Evidence of a generation before `validGenerationBinding`. A Workspace that no Execution
changed has no creator. -/
structure GenerationBinding where
  operationID : ID
  providerSnapshotReference : String
  integrityAlgorithm : String
  integrityRoot : Option Digest
  manifestDigest : Option Digest
  logicalBytes : Nat
  logicalFiles : Nat
  creatorExecutionID : Option ID
  creatorAttemptID : Option ID
  creatorExecutionGeneration : Nat
  storageEvidence : String
  storageEvidenceDigest : Option Digest
  classification : String
  retentionDisposition : String
deriving DecidableEq

def validGenerationBinding (b : GenerationBinding) : Bool :=
  validID b.operationID && decide (b.logicalBytes ≤ maxInt64) &&
    decide (b.logicalFiles ≤ maxInt64) &&
    b.integrityRoot.isSome && b.manifestDigest.isSome && b.storageEvidenceDigest.isSome &&
    validJSONObject b.storageEvidence &&
    [b.integrityAlgorithm, b.classification, b.retentionDisposition].all (boundedString 2048) &&
    (b.providerSnapshotReference = "" || boundedString 2048 b.providerSnapshotReference) &&
    if b.creatorExecutionGeneration = 0 then
      b.creatorExecutionID.isNone && b.creatorAttemptID.isNone
    else b.creatorExecutionID.any validID && b.creatorAttemptID.any validID

/-- Immutable metadata of a committed boundary. -/
structure Generation where
  tenantID : ID
  id : ID
  workspaceID : ID
  sessionID : ID
  generation : Nat
  parentID : Option ID
  binding : GenerationBinding
  createdAt : Time
deriving DecidableEq

/-- `NewGeneration`: the first has no parent, any other is the next of its parent. -/
def newGeneration (tenantID generationID workspaceID sessionID : ID) (number : Nat)
    (parent : Option Generation) (binding : GenerationBinding) (now : Time) :
    Except Error Generation :=
  if !validID tenantID || !validID generationID || !validID workspaceID || !validID sessionID ||
      maxInt64 < number || now = 0 || !validGenerationBinding binding then
    .error errInvalidGeneration
  else if number = 0 then
    if parent.isSome then .error errInvalidGeneration
    else .ok { tenantID, id := generationID, workspaceID, sessionID, generation := number
               parentID := none, binding, createdAt := now }
  else
    match parent with
    | none => .error errInvalidGeneration
    | some p =>
      if p.tenantID ≠ tenantID || p.workspaceID ≠ workspaceID || p.sessionID ≠ sessionID ||
          p.generation = maxInt64 || number ≠ p.generation + 1 then .error errInvalidGeneration
      else .ok { tenantID, id := generationID, workspaceID, sessionID, generation := number
                 parentID := some p.id, binding, createdAt := now }

end ThinkPixelAR.Workspace

namespace ThinkPixelAR

/-- The empty recovery state of the source is `none`; the version is a `uint64`. -/
structure Workspace where
  tenantID : ID
  id : ID
  binding : Workspace.RawBinding
  state : Workspace.State
  stateVersion : Nat
  currentGeneration : Nat
  currentGenerationID : Option ID
  recoveryState : Option Workspace.State
  createdAt : Time
  updatedAt : Time
  deletedAt : Option Time
deriving DecidableEq

namespace Workspace

/-- `New`: PROVISIONING, without a generation. -/
def create (tenantID workspaceID : ID) (binding : RawBinding) (now : Time) :
    Except Error Workspace :=
  if !validID tenantID || !validID workspaceID || !validBinding binding || now = 0 then
    .error errInvalidWorkspace
  else .ok
    { tenantID, id := workspaceID, binding, state := .provisioning, stateVersion := 0
      currentGeneration := 0, currentGenerationID := none, recoveryState := none, createdAt := now
      updatedAt := now, deletedAt := none }

def workspaceTransitions : State → State → Bool
  | .provisioning, .ready | .provisioning, .degraded | .provisioning, .deleting => true
  | .ready, .attached | .ready, .snapshotting | .ready, .degraded | .ready, .deleting => true
  | .attached, .ready | .attached, .snapshotting | .attached, .degraded
  | .attached, .deleting => true
  | .snapshotting, .ready | .snapshotting, .attached | .snapshotting, .degraded
  | .snapshotting, .deleting => true
  | .degraded, .provisioning | .degraded, .ready | .degraded, .attached | .degraded, .snapshotting
  | .degraded, .deleting => true
  | .deleting, .deleted => true
  | _, _ => false

open Relational (Method)

/-- `Transition`; `none` is a target text that `ParseState` refuses. -/
def transition (target : Option State) (expectedVersion : Nat) (now : Time) :
    Method Workspace Error Unit := do
  let w ← get
  if expectedVersion ≠ w.stateVersion then throw errVersionConflict
  match target with
  | none => throw errInvalidWorkspace
  | some next =>
    if now = 0 ∨ now < w.updatedAt then throw errInvalidWorkspace
    if next = w.state then
      if next = .deleting ∨ next = .deleted then return
      throw errIllegalTransition
    if !workspaceTransitions w.state next ||
        (w.state = .degraded && some next ≠ w.recoveryState && next ≠ .deleting) then
      throw errIllegalTransition
    let previous := w.state
    if next = .degraded then modify ({ · with recoveryState := some previous })
    else if previous = .degraded then modify ({ · with recoveryState := none })
    modify fun w =>
      { w with state := next, stateVersion := increment w.stateVersion, updatedAt := now }
    if next = .deleted then modify ({ · with deletedAt := some now })

/-- `Publish` makes the first generation current. -/
def publish (g : Generation) (expectedVersion : Nat) (now : Time) :
    Method Workspace Error Unit := do
  let w ← get
  if expectedVersion ≠ w.stateVersion then throw errVersionConflict
  if w.state ≠ .provisioning || now = 0 || now < w.updatedAt || g.tenantID ≠ w.tenantID ||
      g.workspaceID ≠ w.id || g.sessionID ≠ w.binding.sessionID || g.generation ≠ 0 ||
      w.currentGenerationID.isSome then throw errInvalidGeneration
  modify fun w => { w with
    currentGenerationID := some g.id, stateVersion := increment w.stateVersion, updatedAt := now }

/-- `Advance` publishes the direct child of the current generation. -/
def advance (g : Generation) (expectedVersion : Nat) (now : Time) :
    Method Workspace Error Unit := do
  let w ← get
  if expectedVersion ≠ w.stateVersion then throw errVersionConflict
  if w.currentGeneration = maxInt64 then throw errGenerationExhausted
  if w.state ≠ .snapshotting || w.currentGenerationID.isNone || g.tenantID ≠ w.tenantID ||
      g.workspaceID ≠ w.id || g.sessionID ≠ w.binding.sessionID ||
      g.generation ≠ w.currentGeneration + 1 || g.parentID.isNone ||
      g.parentID ≠ w.currentGenerationID || now = 0 || now < w.updatedAt then
    throw errInvalidGeneration
  modify fun w => { w with
    currentGeneration := g.generation, currentGenerationID := some g.id
    stateVersion := increment w.stateVersion, updatedAt := now }

/-- A call of one of the three methods. -/
inductive Call where
  | transition (target : Option State) (expectedVersion : Nat) (now : Time)
  | publish (g : Generation) (expectedVersion : Nat) (now : Time)
  | advance (g : Generation) (expectedVersion : Nat) (now : Time)

def Call.method : Call → Method Workspace Error Unit
  | .transition target expectedVersion now => Workspace.transition target expectedVersion now
  | .publish g expectedVersion now => Workspace.publish g expectedVersion now
  | .advance g expectedVersion now => Workspace.advance g expectedVersion now

end Workspace
end ThinkPixelAR
