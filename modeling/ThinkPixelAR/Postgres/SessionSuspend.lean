import ThinkPixelAR.Postgres.CheckpointRestore
import ThinkPixelAR.Postgres.ComputeReconciliation

/-!
Suspension of an idle Session (`session_suspend.go`): the release boundary is
committed together with the journal entry that a later resume consumes.
-/
namespace ThinkPixelAR.Postgres

open Relational

variable {platform : Platform} {clock : Clock} {r : App.SuspendRequest}

/-- Locked, authoritative identities handed to the verifier. -/
structure SuspendBoundary where
  workspaceID : ID
  generationID : ID
  executionGeneration : Nat
  sandboxes : List Sandbox.ComputeIntent

/-- The callbacks and generated identifiers of one call; `releases` names the
release operation drawn for a sandbox. -/
structure SuspendEnvironment where
  access : App.SuspendRequest → Bool
  verify : App.SuspendRequest → SuspendBoundary → Bool
  validate : String → Checkpoint.RestoreTarget → Except Error Unit
  releases : ID → ID

/-- The workspace of a checkpoint at exactly its generation, with the operation
that published the generation. -/
def detachedBoundary (db : Db) (sessionID checkpointID : ID) :
    Option (WorkspaceRow × CheckpointOperationRow) := do
  let c ← (db .checkpoints).find? fun c =>
    c.id = checkpointID && c.binding.sessionID = sessionID
  let w ← (db .workspaces).find? fun w => w.id = c.binding.workspaceID &&
    w.currentWorkspaceGenerationID = some c.binding.workspaceGenerationID &&
    w.currentGeneration = some c.binding.workspaceGeneration && w.providerKind = "kubernetes"
  let o ← (db .workspaceCheckpointOperations).find?
    (·.operationID = c.binding.workspaceGenerationID)
  return (w, o)

/-- The boundary was published by an idle Session of this generation and the
workspace has not been attached since. -/
def isDetached (platform : Platform) (sessionID : ID) (generation : Nat) (w : WorkspaceRow)
    (o : CheckpointOperationRow) : Bool :=
  o.request.validate platform = .ok () && o.request.sessionID = sessionID &&
    o.request.workspaceID = w.id && some o.request.operation.id = w.currentWorkspaceGenerationID &&
    some (o.request.parentGeneration + 1) = w.currentGeneration &&
    o.request.configurationDigest = some w.configDigest &&
    o.request.sessionGeneration = generation && o.request.executionID = none &&
    w.state = .ready && w.currentAttachmentID = none

/-- Load the compute that a suspension would release; none may be current. -/
def loadRetained (platform : Platform) (now : Time) :
    List ID → Transaction (List Sandbox.ComputeIntent)
  | [] => pure []
  | id :: rest => do
    let intent ← loadCompute platform now id
    Tx.require (intent.current = false ∧ intent.binding.providerReference.isSome = true ∧
      (intent.desired = .released → intent.releaseAuthorized = true)) Workspace.errConflict
    let others ← loadRetained platform now rest
    return intent :: others

/-- `suspendRelease`; `now` is the reading written on the binding. -/
def suspendRelease (platform : Platform) (txNow now : Time) (releases : ID → ID)
    (intent : Sandbox.ComputeIntent) : Transaction Unit := do
  let id := intent.binding.request.scope.sandboxID
  Tx.onlyIf (intent.desired ≠ .released)
    (journalRelease platform txNow txNow now intent (releases id) false)
  queueCompute txNow id

/-- Release in order; the `n`-th release reads the clock for the `n`-th time. -/
def suspendReleases (platform : Platform) (clock : Clock) (releases : ID → ID) :
    Nat → List Sandbox.ComputeIntent → Transaction Unit
  | _, [] => pure ()
  | n, intent :: rest => do
    suspendRelease platform clock.transaction (clock.reading n) releases intent
    suspendReleases platform clock releases (n + 1) rest

/-- The connection is gone; its epoch stays. -/
def clearConnection (c : CredentialStateRow) : CredentialStateRow :=
  { c with
    version := c.version + 1
    connectionID := none
    connectionDigest := none
    connectionDeadline := none }

/-- Clear the live connection of every binding of the Session. -/
def clearConnections (db : Db) (sessionID : ID) : Stmt :=
  .update .agentdCredentialState
    (fun c => (db .sandboxBindings).any fun b =>
      b.id = c.sandboxBindingID && b.sessionID = sessionID)
    clearConnection

/-- Request cleanup of every bootstrap delivery of the Session. -/
def requestCleanups (db : Db) (sessionID : ID) (now : Time) : Stmt :=
  .update .agentdBootstrapDelivery
    (fun d => !d.cleaned && (db .agentdCredentials).any fun c =>
      c.credentialID = d.credentialID && (db .sandboxBindings).any fun b =>
        b.id = c.sandboxBindingID && b.sessionID = sessionID)
    fun d => { d with cleanupRequested := true, retryAfter := now }

def stateText : Session.State → String
  | .provisioning => "PROVISIONING"
  | .ready => "READY"
  | .active => "ACTIVE"
  | .idle => "IDLE"
  | .suspended => "SUSPENDED"
  | .degraded => "DEGRADED"
  | .closing => "CLOSING"
  | .closed => "CLOSED"

def sessionSubject (sessionID : ID) : EventSubject :=
  { sessionID, executionID := none, attemptID := none, aggregateType := "session"
    aggregateID := sessionID }

/-- `suspendedEvent`. -/
def suspendedEvent (platform : Platform) (now : Time) (r : App.SuspendRequest)
    (result : App.SuspendResult) (prior : Session.State) : Transaction Unit :=
  insertWithPayload platform now (sessionSubject r.sessionID) r.operationID result.version
    .sessionStateChanged .isInternal "runtime-control" "session.suspended"
    "thinkpixel.session-suspend/v1"
    (.object [("checkpoint_id", .string r.checkpointID.text),
      ("execution_generation", .nat result.generation),
      ("operation_id", .string r.operationID.text), ("previous_state", .string (stateText prior)),
      ("reason_code", .string "SUSPEND_COMMITTED"), ("state", .string "SUSPENDED"),
      ("state_version", .nat result.version)])

def idOrder (a b : ID) : Prop := a.bits ≤ b.bits

instance : DecidableRel idOrder := fun a b => inferInstanceAs (Decidable (a.bits ≤ b.bits))

/-- The bindings of the Session whose compute is not released, in order. -/
def retained (db : Db) (sessionID : ID) : List ID :=
  (((db .sandboxBindings).filter fun b => b.sessionID = sessionID && b.state ≠ .released).map
    (·.id)).insertionSort idOrder

def suspendSession (now : Time) (s : SessionRow) : SessionRow :=
  { s with state := .suspended, stateVersion := s.stateVersion + 1, updatedAt := now }

/-- The Session, locked for the whole transaction, may be suspended. -/
def suspendable (db : Db) (r : App.SuspendRequest) (s : SessionRow) : Bool :=
  (s.state = .ready || s.state = .idle) && s.stateVersion = r.expectedVersion &&
    s.currentExecutionID = none && s.currentCheckpointID = some r.checkpointID &&
    !(db .executions).any fun e => e.binding.raw.sessionID = r.sessionID && e.state.isMutable

/-- Check the boundary and hand it to the verifier. -/
def suspendBoundary (platform : Platform) (clock : Clock) (env : SuspendEnvironment)
    (r : App.SuspendRequest) (s : SessionRow) : Transaction SuspendBoundary := do
  let _ ← validateCheckpoint platform env.validate r.sessionID r.checkpointID
  let db ← Tx.get
  let (w, o) ← Tx.expect (detachedBoundary db r.sessionID r.checkpointID) Workspace.errConflict
  Tx.require (isDetached platform r.sessionID s.executionGeneration w o = true)
    Workspace.errConflict
  let ids := (retained db r.sessionID).take 65
  Tx.require (ids.length ≤ 64) Workspace.errConflict
  let sandboxes ← loadRetained platform clock.transaction ids
  let boundary : SuspendBoundary :=
    { workspaceID := w.id, generationID := o.request.operation.id
      executionGeneration := s.executionGeneration, sandboxes }
  Tx.require (env.verify r boundary = true) Workspace.errIntegrity
  return boundary

/-- The journal row of a suspension, which keeps the state to return to. -/
def suspendedOperation (platform : Platform) (now : Time) (r : App.SuspendRequest)
    (s : SessionRow) : SuspendOperationRow :=
  { operationID := r.operationID, sessionID := r.sessionID, checkpointID := r.checkpointID
    requestDigest := r.digest platform, priorState := s.state, stateVersion := s.stateVersion + 1
    executionGeneration := s.executionGeneration, createdAt := now }

/-- Release the compute, suspend the Session and journal the boundary. -/
def commitSuspend (platform : Platform) (clock : Clock) (env : SuspendEnvironment)
    (r : App.SuspendRequest) (s : SessionRow) (boundary : SuspendBoundary) :
    Transaction App.SuspendResult := do
  suspendReleases platform clock env.releases 2 boundary.sandboxes
  let db ← Tx.get
  exec (clearConnections db r.sessionID)
  exec (requestCleanups db r.sessionID (clock.reading 0))
  exec (.update .sessions (·.id = r.sessionID) (suspendSession (clock.reading 1)))
  let result : App.SuspendResult :=
    { operationID := r.operationID, sessionID := r.sessionID, checkpointID := r.checkpointID
      version := s.stateVersion + 1, generation := s.executionGeneration }
  exec (.insert .sessionSuspendOperations (suspendedOperation platform clock.transaction r s))
  suspendedEvent platform clock.transaction r result s.state
  return result

/-- `SessionSuspends.Suspend`: a recorded operation is replayed as it was. -/
def suspend (platform : Platform) (clock : Clock) (env : SuspendEnvironment)
    (r : App.SuspendRequest) : Transaction App.SuspendResult := do
  Tx.lift r.validate
  Tx.require (env.access r = true) Workspace.errUnavailable
  let db ← Tx.get
  let s ← queryRow ((db .sessions).find? (·.id = r.sessionID))
  match (db .sessionSuspendOperations).find? (·.operationID = r.operationID) with
  | some saved => do
    Tx.require (saved.requestDigest = r.digest platform ∧ saved.sessionID = r.sessionID)
      Workspace.errConflict
    return { operationID := r.operationID, sessionID := saved.sessionID
             checkpointID := saved.checkpointID, version := saved.stateVersion
             generation := saved.executionGeneration }
  | none => do
    Tx.require (suspendable db r s = true) Workspace.errConflict
    let boundary ← suspendBoundary platform clock env r s
    commitSuspend platform clock env r s boundary

/-! ### Footprints -/

/-- What a suspension writes besides the Session. -/
def suspendTables : List Table :=
  .agentdCredentialState :: .agentdBootstrapDelivery :: .sessionSuspendOperations :: computeTables

theorem computeTables_suspend : computeTables ⊆ suspendTables := by decide

section Submits
variable {P : Stmt → Prop}

theorem loadRetained_submits {now : Time} {ids : List ID} :
    (loadRetained platform now ids).Submits P := by
  induction ids with
  | nil => simp [loadRetained]
  | cons id rest ih =>
    unfold loadRetained
    refine .bind loadCompute_submits fun intent => ?_
    rw [Tx.submits_require_bind]
    exact fun _ => .bind ih fun _ => by simp

theorem suspendReleases_submits {releases : ID → ID} {n : Nat}
    {intents : List Sandbox.ComputeIntent} :
    (suspendReleases platform clock releases n intents).Submits (OnTables computeTables) := by
  induction intents generalizing n with
  | nil => simp [suspendReleases]
  | cons intent rest ih =>
    unfold suspendReleases suspendRelease
    refine .bind (.bind ?_ fun _ => ?_) fun _ => ih
    · rw [Tx.submits_onlyIf]
      exact fun _ => journalRelease_submits
    · exact queueCompute_submits.mono fun c on => on.mono (by decide)

theorem suspendBoundary_submits {env : SuspendEnvironment} {s : SessionRow} :
    (suspendBoundary platform clock env r s).Submits P := by
  unfold suspendBoundary
  refine .bind validateCheckpoint_submits fun _ => ?_
  simp only [Tx.submits_get_bind, Tx.submits_expect_bind, Tx.submits_require_bind]
  intro db pair _ _ _
  exact .bind loadRetained_submits fun _ => by simp

/-- A suspension writes its own tables and suspends the Session it names. -/
theorem suspend_submits {env : SuspendEnvironment} (tables : ∀ c, OnTables suspendTables c → P c)
    (suspending : ∀ now, P (.update .sessions (·.id = r.sessionID) (suspendSession now))) :
    (suspend platform clock env r).Submits P := by
  unfold suspend
  simp only [Tx.submits_lift_bind, Tx.submits_require_bind, Tx.submits_get_bind,
    submits_queryRow_bind]
  intro _ _ _ db s _
  split
  · simp
  · rw [Tx.submits_require_bind]
    intro _
    refine .bind suspendBoundary_submits fun boundary => ?_
    unfold commitSuspend
    refine .bind (suspendReleases_submits.mono fun c on =>
      tables c (on.mono computeTables_suspend)) fun _ => ?_
    rw [Tx.submits_get_bind]
    intro db
    refine .bind (by simpa using tables _ (by simp [suspendTables, clearConnections])) fun _ => ?_
    refine .bind (by simpa using tables _ (by simp [suspendTables, requestCleanups])) fun _ => ?_
    refine .bind (by simpa using suspending _) fun _ => ?_
    refine .bind (by simpa using tables _ (by simp [suspendTables])) fun _ => ?_
    refine .bind (insertWithPayload_submits.mono fun c h => tables c (h.on.mono (by decide)))
      fun _ => by simp

end Submits

/-! ### Effects -/

/-- A committed suspension: the boundary is journalled at the version it raises. -/
structure Suspended (platform : Platform) (db after : Db) (r : App.SuspendRequest)
    (s : SessionRow) : Prop where
  suspendable : suspendable db r s = true
  operations : ∃ now, after .sessionSuspendOperations =
    db .sessionSuspendOperations ++ [suspendedOperation platform now r s]
  sessions : ∃ now, after .sessions =
    updated (·.id = r.sessionID) (suspendSession now) (db .sessions)
  connections : ∃ selects, after .agentdCredentialState =
    updated selects clearConnection (db .agentdCredentialState)
  others : ∀ u, outside (.sessions :: suspendTables) u = true → after u = db u

/-- Suspend answers from the journal, or commits a new boundary. -/
theorem suspend_effects {env : SuspendEnvironment} {txNow : Time} {result : App.SuspendResult}
    {db after : Db} (success : (suspend platform clock env r).run (rules txNow).execute db =
      .ok (result, after)) :
    ∃ s, (db .sessions).find? (·.id = r.sessionID) = some s ∧
      (after = db ∨ Suspended platform db after r s) := by
  have footprint : (suspend platform clock env r).Submits (OnTables (.sessions :: suspendTables)) :=
    suspend_submits (fun c on => on.mono (by decide)) (fun _ => by simp)
  have others : ∀ u, outside (.sessions :: suspendTables) u = true → after u = db u :=
    fun u other => run_outside footprint success other
  simp only [suspend, Tx.run_bind, Tx.run_lift, Tx.run_require, Tx.run_get,
    run_queryRow] at success
  obtain ⟨_, _, ⟨-, rfl⟩, _, _, ⟨-, rfl⟩, _, _, ⟨rfl, rfl⟩, s, _, ⟨found, rfl⟩, success⟩ := success
  refine ⟨s, found, ?_⟩
  split at success
  next saved _ =>
    simp only [Tx.run_bind, Tx.run_require, Tx.run_pure] at success
    obtain ⟨_, _, ⟨-, rfl⟩, -, rfl⟩ := success
    exact .inl rfl
  next missing =>
    simp only [Tx.run_bind, Tx.run_require] at success
    obtain ⟨_, _, ⟨allowed, rfl⟩, boundary, _, checked, committed⟩ := success
    cases Tx.run_unchanged suspendBoundary_submits checked
    simp only [commitSuspend, Tx.run_bind, Tx.run_get, run_exec, Tx.run_pure] at committed
    obtain ⟨_, _, released, _, d1, ⟨rfl, rfl⟩, _, d2, ⟨_, cleared⟩, _, d3, ⟨_, requested⟩, _, d4,
      ⟨_, moved⟩, _, d5, ⟨_, journalled⟩, _, d6, event, -, rfl⟩ := committed
    have quiet : ∀ u, outside eventTables u = true → after u = d5 u := fun u other =>
      run_outside (insertWithPayload_submits.mono fun _ h => h.on) event other
    have still : ∀ u, outside computeTables u = true → d1 u = _ := fun u other =>
      run_outside suspendReleases_submits released other
    have connections := execute_update_rows (show (rules txNow).execute (.update ..) _ = _ from
      cleared)
    rw [still .agentdCredentialState rfl] at connections
    have later : after .agentdCredentialState = d2 .agentdCredentialState := by
      rw [quiet _ rfl, execute_outside journalled rfl, execute_outside moved rfl,
        execute_outside requested rfl]
    refine .inr ⟨allowed, ⟨clock.transaction, ?_⟩, ⟨clock.reading 1, ?_⟩,
      ⟨_, later.trans connections⟩, others⟩
    · rw [quiet _ rfl, execute_insert_rows journalled, execute_outside moved rfl,
        execute_outside requested rfl, execute_outside cleared rfl, still _ rfl]
    · rw [quiet _ rfl, execute_outside journalled rfl, execute_update_rows moved,
        execute_outside requested rfl, execute_outside cleared rfl, still _ rfl]

end ThinkPixelAR.Postgres
