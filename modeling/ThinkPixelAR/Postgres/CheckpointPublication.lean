import ThinkPixelAR.Postgres.CheckpointRestore

/-!
Publication of a signed checkpoint (`checkpoint_publication.go`). Access, the
verifier and the signed manifest built by `app.Build` are arbitrary here.
-/
namespace ThinkPixelAR.Postgres

open Relational
open Workspace (CheckpointRequest CheckpointProof errIntegrity errInvalid errUnavailable)
open Checkpoint (Request Integrity create Result appDigest)

variable {w : CheckpointRequest} {s : SessionRow}

/-- Locked metadata handed to the verifier. -/
structure PublicationSource where
  runtimeSpec : String
  runtimeProfile : String
  proof : CheckpointProof
  evidenceDigest : Digest

/-- The callbacks and the signer of `Checkpoints`. -/
structure PublicationEnvironment where
  access : Request → Bool
  verify : Request → PublicationSource → Bool
  build : Request → CheckpointProof → Digest → Time →
    Except Error Integrity

/-- The checks of `Publish` on its argument; `now` is the application's clock. -/
def validPublication (platform : Platform) (now : Time) (r : Request) : Bool :=
  let b := r.binding
  let w := r.boundary
  r.vendorState.length ≤ 64 && w.validate platform = .ok () && b.sessionID = w.sessionID &&
    b.workspaceID = w.workspaceID && b.workspaceGenerationID = w.operation.id &&
    b.workspaceGeneration = w.parentGeneration + 1 && b.purpose = .checkpoint &&
    b.operationID = r.id && r.id ≠ w.operation.id && validID r.id &&
    (create r.id b now).isOk

/-- The boundary is still the one the Session and its workspace are at. -/
def publicationFence (db : Db) (w : CheckpointRequest) (s : SessionRow)
    (row : WorkspaceRow) : Transaction Unit :=
  match w.executionID with
  | none => Tx.require ((s.state = .ready ∨ s.state = .idle) ∧ s.currentExecutionID = none ∧
      row.currentAttachmentID = none ∧ row.state = .ready) Workspace.errConflict
  | some executionID => do
    Tx.require (s.state = .active ∧ s.currentExecutionID = some executionID ∧
      row.currentAttachmentID = w.attachmentID ∧ row.state = .attached) Workspace.errConflict
    let e ← queryRow ((db .executions).find? fun e => e.id = executionID &&
      e.binding.raw.sessionID = w.sessionID &&
      e.binding.raw.sessionGeneration = s.executionGeneration)
    let a ← queryRow ((db .attempts).find? fun a => some a.id = w.attemptID &&
      a.binding.executionID = executionID &&
      a.binding.executionGeneration = s.executionGeneration)
    Tx.require (e.state = .running ∧ a.state = .running ∧ a.current = true) Workspace.errConflict

/-- The journal entry and generation row of the published boundary. -/
def publicationSource (platform : Platform) (db : Db) (w : CheckpointRequest)
    (s : SessionRow) (generation : Nat) : Transaction PublicationSource := do
  let o ← queryRow ((db .workspaceCheckpointOperations).find? fun o =>
    o.operationID = w.operation.id && o.workspaceID = w.workspaceID && o.sessionID = w.sessionID)
  let digest ← Tx.expect o.proofDigest errNullString
  let proof ← Tx.expect o.proof errIntegrity
  Tx.require (o.state = .committed ∧ o.request = w ∧ platform.sha256 proof.encode = digest ∧
    proof.decoded.validate = .ok ()) errIntegrity
  let g ← queryRow ((db .workspaceGenerations).find? fun g => g.id = w.operation.id &&
    g.workspaceID = w.workspaceID && g.sessionID = w.sessionID && g.generation = generation)
  Tx.require (g.storageEvidenceDigest = digest) errIntegrity
  return { runtimeSpec := s.binding.raw.runtimeSpec
           runtimeProfile := s.binding.raw.runtimeProfileSnapshot
           proof := proof.decoded, evidenceDigest := g.storageEvidenceDigest }

/-- `publishedCheckpointEvent`. -/
def publishedCheckpointEvent (platform : Platform) (now : Time) (r : Request)
    (i : Integrity) (version : Nat) : Transaction Unit :=
  let w := r.boundary
  insertWithPayload platform now
    { sessionID := w.sessionID, executionID := w.executionID, attemptID := w.attemptID
      aggregateType := "session", aggregateID := w.sessionID }
    r.id version .checkpointCommitted .isConfidential r.binding.retentionDisposition
    "checkpoint.committed" "thinkpixel.checkpoint-event/v1"
    (.object [("checkpoint_id", .string r.id.text), ("composite_root", .string i.compositeRoot),
      ("generation", .nat r.binding.workspaceGeneration),
      ("operation_id", .string r.binding.operationID.text),
      ("payload_digest", .string i.payloadDigest),
      ("workspace_generation_id", .string w.operation.id.text),
      ("workspace_id", .string w.workspaceID.text)])

/-- The checkpoint becomes the head of its Session. -/
def headSession (checkpointID : ID) (now : Time) (s : SessionRow) : SessionRow :=
  { s with
    currentCheckpointID := some checkpointID
    stateVersion := s.stateVersion + 1
    updatedAt := now }

/-- Insert the committed checkpoint and make it the head of its Session. -/
def commitPublication (platform : Platform) (clock : Clock) (r : Request)
    (s : SessionRow) (c : Checkpoint) (i : Integrity) :
    Transaction Result := do
  exec (.insert .checkpoints
    { c with publicationRequestDigest := some (r.digest platform) })
  exec (.update .sessions (·.id = r.boundary.sessionID) (headSession r.id (clock.reading 1)))
  publishedCheckpointEvent platform clock.transaction r i (s.stateVersion + 1)
  return { id := r.id, manifest := i.canonicalManifest }

/-- A publication whose operation is not recorded yet. -/
def newPublication (platform : Platform) (clock : Clock) (env : PublicationEnvironment)
    (r : Request) (s : SessionRow) : Transaction Result := do
  let w := r.boundary
  let b := r.binding
  Tx.require (s.executionGeneration = w.sessionGeneration ∧
    s.currentCheckpointID = b.parentCheckpointID ∧
    s.binding.raw.runtimeSpecDigest.map appDigest = some b.runtimeSpecDigest ∧
    s.binding.raw.runtimeProfileDigest.map appDigest = some b.runtimeProfileDigest)
    Workspace.errConflict
  let db ← Tx.get
  let row ← queryRow ((db .workspaces).find? fun row =>
    row.id = w.workspaceID && row.sessionID = w.sessionID)
  let generation ← Tx.expect row.currentGeneration errNullString
  Tx.require (some row.configDigest = w.configurationDigest ∧ row.providerKind = "kubernetes" ∧
    row.currentWorkspaceGenerationID = some b.workspaceGenerationID ∧
    generation = b.workspaceGeneration) Workspace.errConflict
  publicationFence db w s row
  let source ← publicationSource platform db w s generation
  Tx.onlyIf (s.currentCheckpointID.isSome = true) do
    let parent ← queryRow ((db .checkpoints).find? fun c =>
      some c.id = s.currentCheckpointID && c.binding.sessionID = w.sessionID)
    Tx.require (parent.state = .committed) Workspace.errConflict
  Tx.require (env.verify r source = true) errIntegrity
  let now := clock.reading 0
  let i ← Tx.lift (env.build r source.proof source.evidenceDigest now)
  let created ← Tx.lift ((create r.id b now).mapError fun _ => errInvalid)
  let c ← Tx.lift ((created.commit i 0 now).mapError fun _ => errIntegrity)
  commitPublication platform clock r s c i

/-- `Checkpoints.Publish`; `now` is the application's clock. -/
def publish (platform : Platform) (clock : Clock) (env : PublicationEnvironment) (now : Time)
    (r : Request) : Transaction Result := do
  Tx.require (validPublication platform now r = true) errInvalid
  let db ← Tx.get
  let s ← queryRow ((db .sessions).find? (·.id = r.boundary.sessionID))
  Tx.require (env.access r = true) errUnavailable
  match (db .checkpoints).find? (·.binding.operationID = r.binding.operationID) with
  | some saved => do
    let digest ← Tx.expect saved.publicationRequestDigest errNullString
    Tx.require (digest = r.digest platform ∧ saved.state = .committed ∧
      saved.binding.sessionID = r.boundary.sessionID) Workspace.errConflict
    let i ← queryRow saved.integrity
    return { id := r.id, manifest := i.canonicalManifest }
  | none => newPublication platform clock env r s

/-! ### Footprints -/

section Submits
variable {P : Stmt → Prop} {platform : Platform} {clock : Clock} {env : PublicationEnvironment}

theorem publicationFence_submits {db : Db} {row : WorkspaceRow} :
    (publicationFence db w s row).Submits P := by
  unfold publicationFence
  split <;> simp

theorem publicationSource_submits {db : Db} {generation : Nat} :
    (publicationSource platform db w s generation).Submits P := by
  simp [publicationSource]

end Submits

/-! ### Effects -/

section Effects
variable {platform : Platform} {clock : Clock} {env : PublicationEnvironment} {txNow now : Time}
  {r : Request} {db after : Db}

/-- A boundary is published only while its Session works or waits. -/
theorem publicationFence_ok {store : Db} {row : WorkspaceRow} {u : Unit}
    (success : (publicationFence store w s row).run (rules txNow).execute db = .ok (u, after)) :
    s.state = .ready ∨ s.state = .idle ∨ s.state = .active := by
  unfold publicationFence at success
  split at success
  · obtain ⟨⟨waits, -⟩, -⟩ := Tx.run_require.mp success
    exact waits.elim .inl fun idle => .inr (.inl idle)
  · simp only [Tx.run_bind, Tx.run_require] at success
    obtain ⟨_, _, ⟨⟨active, -⟩, -⟩, -⟩ := success
    exact .inr (.inr active)

/-- A publication answers from the store, or moves the head of its Session. -/
theorem publish_effects {result : Result}
    (success : (publish platform clock env now r).run (rules txNow).execute db =
      .ok (result, after)) :
    ∃ s, (db .sessions).find? (·.id = r.boundary.sessionID) = some s ∧
      (after = db ∨ ((s.state = .ready ∨ s.state = .idle ∨ s.state = .active) ∧
        after .sessions = updated (·.id = r.boundary.sessionID)
          (headSession r.id (clock.reading 1)) (db .sessions))) := by
  simp only [publish, Tx.run_bind, Tx.run_require, Tx.run_get, run_queryRow] at success
  obtain ⟨_, _, ⟨-, rfl⟩, _, _, ⟨rfl, rfl⟩, s, _, ⟨found, rfl⟩, _, _, ⟨-, rfl⟩, success⟩ := success
  refine ⟨s, found, ?_⟩
  split at success
  next saved _ =>
    simp only [Tx.run_bind, Tx.run_expect, Tx.run_require, run_queryRow, Tx.run_pure] at success
    obtain ⟨_, _, ⟨-, rfl⟩, _, _, ⟨-, rfl⟩, _, _, ⟨-, rfl⟩, -, rfl⟩ := success
    exact .inl rfl
  next missing =>
    simp only [newPublication, Tx.run_bind, Tx.run_require, Tx.run_get, run_queryRow,
      Tx.run_expect, Tx.run_lift] at success
    obtain ⟨_, _, ⟨-, rfl⟩, _, _, ⟨rfl, rfl⟩, row, _, ⟨-, rfl⟩, generation, _, ⟨-, rfl⟩, _, _,
      ⟨-, rfl⟩, _, _, fenced, source, _, sourced, _, _, parent, _, _, ⟨-, rfl⟩, i, _, ⟨-, rfl⟩,
      created, _, ⟨-, rfl⟩, c, _, ⟨-, rfl⟩, committed⟩ := success
    have state := publicationFence_ok fenced
    cases Tx.run_unchanged publicationFence_submits fenced
    cases Tx.run_unchanged publicationSource_submits sourced
    have same := Tx.run_unchanged (by simp) parent
    simp only [commitPublication, Tx.run_bind, run_exec, Tx.run_pure] at committed
    obtain ⟨_, d1, ⟨_, inserted⟩, _, d2, ⟨_, moved⟩, _, _, event, -, rfl⟩ := committed
    refine .inr ⟨state, ?_⟩
    rw [run_outside (insertWithPayload_submits.mono fun _ h => h.on) event rfl,
      execute_update_rows moved, execute_outside inserted rfl, same]

end Effects
end ThinkPixelAR.Postgres
