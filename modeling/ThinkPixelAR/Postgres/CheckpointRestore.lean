import ThinkPixelAR.Postgres.SandboxBindings

/-!
Validation of a stored checkpoint (`checkpoint_restore.go`). The manifest itself is
judged by the restore validator, which is outside the repository's database code
and enters as the parameter `validate`.
-/
namespace ThinkPixelAR.Postgres

open Relational
open Checkpoint (errInvalidRestore errIncompatible Binding RestoreTarget appDigest Result)

/-- A nullable column scanned into a Go `string`. -/
def errNullString : Error := .new "converting NULL to string is unsupported"

/-- The checkpoint operation and the generation it published. -/
def publishedGeneration (db : Db) (b : Binding) :
    Option (CheckpointOperationRow × WorkspaceGenerationRow) := do
  let g ← (db .workspaceGenerations).find? fun g =>
    g.id = b.workspaceGenerationID && g.workspaceID = b.workspaceID &&
      g.sessionID = b.sessionID && g.generation = b.workspaceGeneration
  let o ← (db .workspaceCheckpointOperations).find? fun o =>
    o.operationID = g.id && o.workspaceID = g.workspaceID && o.sessionID = g.sessionID
  return (o, g)

/-- The proof of an operation agrees with the generation it published. -/
def proofAgrees (platform : Platform) (o : CheckpointOperationRow) (g : WorkspaceGenerationRow)
    (proofDigest : Digest) (proof : Workspace.CheckpointProof) : Bool :=
  o.state = .committed && platform.sha256 proof.encode = proofDigest &&
    proofDigest = g.storageEvidenceDigest && proof.decoded.validate = .ok () &&
    proof.manifestDigest = some g.manifestDigest

/-- The target a manifest of this checkpoint is validated against. -/
def restoreTarget (c : CheckpointRow) (g : WorkspaceGenerationRow)
    (proof : Workspace.CheckpointProof) : RestoreTarget :=
  { checkpointID := c.id, state := c.state, binding := c.binding
    workspace :=
      { id := c.binding.workspaceID, generationID := c.binding.workspaceGenerationID
        generation := c.binding.workspaceGeneration, snapshot := proof.snapshotReference
        root := appDigest g.manifestDigest, algorithm := "sha-256"
        evidenceDigest := appDigest g.storageEvidenceDigest } }

/-- `validateCheckpointTx`. -/
def validateCheckpoint (platform : Platform)
    (validate : String → RestoreTarget → Except Error Unit)
    (sessionID checkpointID : ID) : Transaction Result := do
  let db ← Tx.get
  let session ← queryRow ((db .sessions).find? (·.id = sessionID))
  let c ← queryRow ((db .checkpoints).find? fun c =>
    c.id = checkpointID && c.binding.sessionID = sessionID)
  let w ← queryRow ((db .workspaces).find? fun w =>
    w.id = c.binding.workspaceID && w.sessionID = sessionID)
  Tx.require (w.state ≠ .deleting ∧ w.state ≠ .deleted) errInvalidRestore
  Tx.require (session.binding.raw.runtimeSpecDigest.map appDigest =
      some c.binding.runtimeSpecDigest ∧
    session.binding.raw.runtimeProfileDigest.map appDigest =
      some c.binding.runtimeProfileDigest) errIncompatible
  let (o, g) ← queryRow (publishedGeneration db c.binding)
  let proofDigest ← Tx.expect o.proofDigest errNullString
  let proof ← Tx.expect o.proof errInvalidRestore
  Tx.require (proofAgrees platform o g proofDigest proof = true) errInvalidRestore
  let manifest := match c.integrity with
    | some i => i.canonicalManifest
    | none => ""
  Tx.lift (validate manifest (restoreTarget c g proof.decoded))
  return { id := checkpointID, manifest }

/-- Validation only reads. -/
theorem validateCheckpoint_submits {platform : Platform}
    {validate : String → RestoreTarget → Except Error Unit}
    {sessionID checkpointID : ID} {P : Stmt → Prop} :
    (validateCheckpoint platform validate sessionID checkpointID).Submits P := by
  simp [validateCheckpoint]

end ThinkPixelAR.Postgres
