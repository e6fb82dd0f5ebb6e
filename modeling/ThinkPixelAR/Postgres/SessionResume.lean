import ThinkPixelAR.Postgres.SessionSuspend

/-!
Resumption of a suspended Session (`session_resume.go`). Prepare reserves one
candidate for the suspend boundary, Complete commits it, Fail abandons it and
Cleaned records that its resources are gone.
-/
namespace ThinkPixelAR.Postgres

open Relational
open Workspace (errIntegrity errUnavailable errInvalid)

variable {r : App.ResumeRequest} {row : ResumeOperationRow} {now : Time} {i : App.ResumeIntent}
  {s : SessionRow} {result : App.ResumeResult} {eventID : ID}

/-- The callbacks of `SessionResumes`. -/
structure ResumeEnvironment where
  access : App.ResumeRequest → Bool
  policy : App.ResumeIntent → Bool
  ready : App.ResumeIntent → App.ResumeObservation → Except Error Unit
  validate : String → Checkpoint.RestoreTarget → Except Error Unit

/-- Identifiers drawn by one Prepare. -/
structure ResumeIDs where
  sandbox : ID
  bootstrap : ID
  attachment : ID

/-- The journal row of a request. -/
def resumeFind (db : Db) (r : App.SuspendRequest) : Option ResumeOperationRow :=
  (db .sessionResumeOperations).find? fun o =>
    o.operationID = r.operationID && o.sessionID = r.sessionID

/-- The checks of `resumeLoad` on the row it found. -/
def resumeLoad (platform : Platform) (r : App.ResumeRequest) (row : ResumeOperationRow) :
    Transaction (App.ResumeIntent × App.ResumeResult) := do
  Tx.require (row.requestDigest = r.digest platform) Workspace.errConflict
  Tx.require (row.intent.digest platform = row.intentDigest ∧
    row.intent.request.digest platform = row.requestDigest) errIntegrity
  return (row.intent, row.result)

/-- `resumeNoWriters` and `resumeCredentialsRetired`: no Execution, compute, live
connection or deliverable bootstrap of the Session is left. -/
def noWriters (db : Db) (sessionID : ID) (now : Time) : Bool :=
  !((db .executions).any fun e => e.binding.raw.sessionID = sessionID && e.state.isMutable) &&
    !((db .sandboxBindings).any fun b => b.sessionID = sessionID && b.state ≠ .released) &&
    !((db .agentdCredentialState).any fun c => c.connectionID.isSome &&
      (db .sandboxBindings).any fun b => b.id = c.sandboxBindingID && b.sessionID = sessionID) &&
    !((db .agentdBootstrapDelivery).any fun d => !d.cleaned &&
      (db .agentdCredentials).any fun c => c.credentialID = d.credentialID &&
        now < max d.expiresAt c.expiresAt &&
        (db .sandboxBindings).any fun b => b.id = c.sandboxBindingID && b.sessionID = sessionID)

/-- The workspace is still attached to the candidate at its generation. -/
def attachedTo (i : App.ResumeIntent) (w : WorkspaceRow) : Truth :=
  .of (w.state = .attached) &&& .compare (· = ·) w.currentAttachmentID (some i.attachmentID) &&&
    .compare (· = ·) w.currentWorkspaceGenerationID (some i.workspaceGenerationID) &&&
    .compare (· = ·) w.currentGeneration (some i.workspaceGeneration)

/-- The Session is still the one the candidate was prepared for. -/
def unchangedSince (i : App.ResumeIntent) (s : SessionRow) : Bool :=
  s.state = .suspended && s.stateVersion = i.version &&
    s.executionGeneration = i.executionGeneration &&
    s.currentCheckpointID = some i.request.request.checkpointID && s.currentExecutionID = none

/-- `fence`. -/
def resumeFence (platform : Platform) (env : ResumeEnvironment) (now : Time) (i : App.ResumeIntent)
    (s : SessionRow) : Transaction Unit := do
  let r := i.request.request
  Tx.require (unchangedSince i s = true) Workspace.errConflict
  let db ← Tx.get
  Tx.require (noWriters db r.sessionID now = true) Workspace.errConflict
  let w ← queryRow ((db .workspaces).find? fun w =>
    w.id = i.workspaceID && w.sessionID = r.sessionID)
  let valid ← scanBool (attachedTo i w)
  Tx.require (valid = true) Workspace.errConflict
  let checked ← validateCheckpoint platform env.validate r.sessionID r.checkpointID
  Tx.require (checked.manifest = i.manifest) errIntegrity

def resumeResult (i : App.ResumeIntent) (state : App.ResumeState) (version : Nat) :
    App.ResumeResult :=
  { operationID := i.request.request.operationID, sessionID := i.request.request.sessionID
    checkpointID := i.request.request.checkpointID, sandboxID := i.sandboxID
    bootstrapID := i.bootstrapID, attachmentID := i.attachmentID, state, version
    generation := i.executionGeneration }

/-- `resumeEvent`; `state` is the Session state the event reports. -/
def resumeEvent (platform : Platform) (now : Time) (i : App.ResumeIntent)
    (result : App.ResumeResult) (eventID : ID) (prior state : Session.State) (reason : String) :
    Transaction Unit :=
  let r := i.request.request
  insertWithPayload platform now (sessionSubject r.sessionID) eventID result.version
    .sessionStateChanged .isInternal "runtime-control" "session.resume"
    "thinkpixel.session-resume/v1"
    (.object [("bootstrap_id", .string i.bootstrapID.text),
      ("checkpoint_id", .string r.checkpointID.text),
      ("operation_id", .string r.operationID.text),
      ("operation_state", .string result.state.text),
      ("previous_state", .string (stateText prior)), ("reason_code", .string reason),
      ("sandbox_id", .string i.sandboxID.text), ("state", .string (stateText state)),
      ("state_version", .nat result.version)])

/-! ### Prepare -/

/-- The state a suspension records, as the target of its resume. -/
def targetState : Session.State → Option App.ResumeState
  | .ready => some .ready
  | .idle => some .idle
  | _ => none

/-- The suspend operation that committed exactly this boundary. -/
def suspendOperation (db : Db) (r : App.SuspendRequest) (s : SessionRow) :
    Option SuspendOperationRow :=
  (db .sessionSuspendOperations).find? fun o => o.sessionID = r.sessionID &&
    o.checkpointID = r.checkpointID && o.stateVersion = s.stateVersion &&
    o.executionGeneration = s.executionGeneration

/-- The workspace of the Session at the generation of the checkpoint. -/
def checkpointWorkspace (db : Db) (sessionID checkpointID : ID) : Option WorkspaceRow := do
  let w ← (db .workspaces).find? (·.sessionID = sessionID)
  let _ ← (db .checkpoints).find? fun c => c.id = checkpointID && c.binding.workspaceID = w.id &&
    some c.binding.workspaceGenerationID = w.currentWorkspaceGenerationID &&
    some c.binding.workspaceGeneration = w.currentGeneration
  return w

/-- The journal row of a new candidate. -/
def reservedOperation (platform : Platform) (now : Time) (i : App.ResumeIntent) :
    ResumeOperationRow :=
  let r := i.request.request
  { operationID := r.operationID, sessionID := r.sessionID, checkpointID := r.checkpointID
    sandboxID := i.sandboxID, bootstrapID := i.bootstrapID, attachmentID := i.attachmentID
    requestDigest := i.request.digest platform, intent := i, intentDigest := i.digest platform
    state := .resuming, result := resumeResult i .resuming i.version, observation := none
    cleaned := false, createdAt := now }

/-- The attachment of a candidate, reserved before any provider call. -/
def attachWorkspace (attachmentID : ID) (now : Time) (w : WorkspaceRow) : WorkspaceRow :=
  { w with
    currentAttachmentID := some attachmentID
    state := .attached
    stateVersion := w.stateVersion + 1
    updatedAt := now }

def raiseVersion (now : Time) (s : SessionRow) : SessionRow :=
  { s with stateVersion := s.stateVersion + 1, updatedAt := now }

/-- Reserve the candidate: journal row, single writer of the workspace, and the
version the boundary is consumed at. -/
def reserveResume (platform : Platform) (clock : Clock) (eventID : ID) (i : App.ResumeIntent) :
    Transaction App.ResumeResult := do
  let result := resumeResult i .resuming i.version
  exec (.insert .sessionResumeOperations (reservedOperation platform clock.transaction i))
  exec (.update .workspaces (·.id = i.workspaceID)
    (attachWorkspace i.attachmentID (clock.reading 1)))
  exec (.update .sessions (·.id = i.request.request.sessionID) (raiseVersion (clock.reading 2)))
  resumeEvent platform clock.transaction i result eventID .suspended .suspended "RESUME_PREPARED"
  return result

/-- `15 * time.Minute`. -/
def resumeWindow : Time := 900 * second

/-- A fresh Prepare: `now` is the application's clock. -/
def newResume (platform : Platform) (clock : Clock) (env : ResumeEnvironment) (now : Time)
    (ids : ResumeIDs) (eventID : ID) (r : App.ResumeRequest) (s : SessionRow) :
    Transaction (App.ResumeIntent × App.ResumeResult) := do
  let request := r.request
  Tx.require (s.state = .suspended ∧ s.stateVersion = request.expectedVersion ∧
    s.currentExecutionID = none ∧ s.currentCheckpointID = some request.checkpointID)
    Workspace.errConflict
  let db ← Tx.get
  let boundary ← Tx.expect (suspendOperation db request s) Workspace.errConflict
  let target ← Tx.expect (targetState boundary.priorState) Workspace.errConflict
  let w ← queryRow (checkpointWorkspace db request.sessionID request.checkpointID)
  let generationID ← queryRow w.currentWorkspaceGenerationID
  let generation ← queryRow w.currentGeneration
  Tx.require (w.state = .ready ∧ w.currentAttachmentID = none ∧ w.providerKind = "kubernetes")
    Workspace.errConflict
  Tx.require (noWriters db request.sessionID (clock.reading 0) = true) Workspace.errConflict
  let restored ← validateCheckpoint platform env.validate request.sessionID request.checkpointID
  let i : App.ResumeIntent :=
    { request := r, sandboxID := ids.sandbox, bootstrapID := ids.bootstrap
      attachmentID := ids.attachment, workspaceID := w.id, workspaceGenerationID := generationID
      workspaceGeneration := generation, executionGeneration := s.executionGeneration
      version := s.stateVersion + 1, runtime := s.binding.raw, manifest := restored.manifest
      deadline := now + resumeWindow, targetState := target }
  Tx.require (env.policy i = true) errUnavailable
  let result ← reserveResume platform clock eventID i
  return (i, result)

/-- `SessionResumes.Prepare`. -/
def prepareResume (platform : Platform) (clock : Clock) (env : ResumeEnvironment) (now : Time)
    (ids : ResumeIDs) (eventID : ID) (r : App.ResumeRequest) :
    Transaction (App.ResumeIntent × App.ResumeResult) := do
  Tx.lift r.validate
  Tx.require (env.access r = true) errUnavailable
  let db ← Tx.get
  let s ← queryRow ((db .sessions).find? (·.id = r.request.sessionID))
  match resumeFind db r.request with
  | some row => do
    let (i, result) ← resumeLoad platform r row
    Tx.onlyIf (result.state = .resuming) do
      resumeFence platform env (clock.reading 0) i s
      Tx.require (env.policy i = true) errUnavailable
    return (i, result)
  | none => newResume platform clock env now ids eventID r s

/-! ### Complete, Fail and Cleaned -/

/-- The Session state an operation state is written as; RESUMING is none. -/
def sessionState : App.ResumeState → Option Session.State
  | .resuming => none
  | .ready => some .ready
  | .idle => some .idle
  | .degraded => some .degraded

/-- The sandbox reference was seen before. -/
def referenceReused (db : Db) (reference : String) : Bool :=
  ((db .sandboxBindings).any fun b => b.providerReference = some reference) ||
    (db .sessionResumeOperations).any fun o =>
      o.observation.any fun seen => seen.sandboxReference = reference

/-- Record the outcome of a candidate. -/
def settleOperation (result : App.ResumeResult) (observation : Option App.ResumeObservation)
    (row : ResumeOperationRow) : ResumeOperationRow :=
  { row with state := result.state, result := result, observation := observation }

def resumeSession (state : Session.State) (now : Time) (s : SessionRow) : SessionRow :=
  { s with state := state, stateVersion := s.stateVersion + 1, updatedAt := now }

/-- Commit the outcome of a candidate that passed every check. -/
def commitResume (platform : Platform) (clock : Clock) (eventID : ID) (r : App.SuspendRequest)
    (i : App.ResumeIntent) (s : SessionRow) (o : App.ResumeObservation) :
    Transaction App.ResumeResult := do
  let result := resumeResult i i.targetState (s.stateVersion + 1)
  exec (.update .sessionResumeOperations (·.operationID = r.operationID)
    (settleOperation result (some o)))
  let state ← Tx.expect (sessionState result.state)
    (Fault.error ⟨.checkViolation, "violates check constraint"⟩)
  exec (.update .sessions (·.id = r.sessionID) (resumeSession state (clock.reading 1)))
  resumeEvent platform clock.transaction i result eventID .suspended state "RESUME_COMMITTED"
  return result

/-- `SessionResumes.Complete`; `now` is the application's clock. -/
def completeResume (platform : Platform) (clock : Clock) (env : ResumeEnvironment) (now : Time)
    (eventID : ID) (r : App.ResumeRequest) (o : App.ResumeObservation) :
    Transaction App.ResumeResult := do
  Tx.lift r.validate
  Tx.require (env.access r = true) errUnavailable
  let db ← Tx.get
  let s ← queryRow ((db .sessions).find? (·.id = r.request.sessionID))
  let row ← queryRow (resumeFind db r.request)
  let (i, saved) ← resumeLoad platform r row
  if saved.state ≠ .resuming then return saved
  else do
    Tx.lift (o.validate.mapError fun _ => errIntegrity)
    resumeFence platform env (clock.reading 0) i s
    Tx.require (now < i.deadline) Workspace.errConflict
    Tx.require (env.policy i = true) errUnavailable
    Tx.require (referenceReused db o.sandboxReference = false) errIntegrity
    Tx.lift ((env.ready i o).mapError fun e =>
      if e.is errUnavailable then errUnavailable else errIntegrity)
    commitResume platform clock eventID r.request i s o

def failSession (now : Time) (s : SessionRow) : SessionRow :=
  { s with
    state := .degraded
    recoveryState := some .suspended
    stateVersion := s.stateVersion + 1
    updatedAt := now }

/-- The Session is still suspended at the version the candidate was prepared at. -/
def stillPrepared (i : App.ResumeIntent) (s : SessionRow) : Bool :=
  s.state = .suspended && s.stateVersion = i.version &&
    s.executionGeneration = i.executionGeneration

/-- `SessionResumes.Fail` abandons only this candidate; a newer or closing Session
is not changed. -/
def failResume (platform : Platform) (clock : Clock) (eventID : ID) (r : App.ResumeRequest) :
    Transaction App.ResumeResult := do
  Tx.lift r.validate
  let db ← Tx.get
  let s ← queryRow ((db .sessions).find? (·.id = r.request.sessionID))
  let row ← queryRow (resumeFind db r.request)
  let (i, saved) ← resumeLoad platform r row
  if saved.state ≠ .resuming then return saved
  else do
    Tx.onlyIf (stillPrepared i s = true)
      (exec (.update .sessions (·.id = r.request.sessionID) (failSession (clock.reading 0))))
    let result := resumeResult i .degraded
      (if stillPrepared i s then s.stateVersion + 1 else s.stateVersion)
    exec (.update .sessionResumeOperations (·.operationID = r.request.operationID) fun row =>
      settleOperation result row.observation row)
    resumeEvent platform clock.transaction i result eventID s.state
      (if stillPrepared i s then .degraded else s.state) "RESUME_ABANDONED"
    return result

/-- Storage stays degraded until a recovery verifies its head. -/
def detachWorkspace (now : Time) (w : WorkspaceRow) : WorkspaceRow :=
  { w with
    currentAttachmentID := none
    state := .degraded
    stateVersion := w.stateVersion + 1
    updatedAt := now }

/-- `SessionResumes.Cleaned`, with the intent read of `CleanupIntent`. -/
def cleanedResume (platform : Platform) (clock : Clock) (operationID : ID) : Transaction Unit := do
  Tx.require (validID operationID = true) errInvalid
  let db ← Tx.get
  let row ← queryRow ((db .sessionResumeOperations).find? (·.operationID = operationID))
  Tx.require (row.state = .degraded) Workspace.errConflict
  Tx.require (row.intent.digest platform = row.intentDigest ∧
    row.intent.request.request.operationID = operationID) errIntegrity
  Tx.onlyIf (row.cleaned = false) do
    let _ ← queryRow ((db .sessions).find? (·.id = row.intent.request.request.sessionID))
    exec (.update .workspaces
      (fun w => w.id = row.intent.workspaceID &&
        w.currentAttachmentID = some row.intent.attachmentID && w.state = .attached)
      (detachWorkspace (clock.reading 0)))
    exec (.update .sessionResumeOperations (·.operationID = operationID) fun row =>
      { row with cleaned := true })

/-! ### Footprints -/

/-- What a resume writes besides the Session. -/
def resumeTables : List Table := .sessionResumeOperations :: .workspaces :: eventTables

section Submits
variable {P : Stmt → Prop} {platform : Platform} {clock : Clock} {env : ResumeEnvironment}

theorem resumeLoad_submits : (resumeLoad platform r row).Submits P := by
  simp [resumeLoad]

theorem resumeFence_submits : (resumeFence platform env now i s).Submits P := by
  unfold resumeFence
  simp only [Tx.submits_require_bind, Tx.submits_get_bind, submits_queryRow_bind]
  intro _ db _ w _
  refine .bind submits_scanBool fun valid => ?_
  rw [Tx.submits_require_bind]
  exact fun _ => .bind validateCheckpoint_submits fun _ => by simp

theorem resumeEvent_submits {prior state : Session.State} {reason : String}
    (tables : ∀ c, OnTables resumeTables c → P c) :
    (resumeEvent platform now i result eventID prior state reason).Submits P :=
  insertWithPayload_submits.mono fun c h => tables c (h.on.mono (by decide))

theorem reserveResume_submits (tables : ∀ c, OnTables resumeTables c → P c)
    (raising : ∀ now, P (.update .sessions (·.id = i.request.request.sessionID)
      (raiseVersion now))) : (reserveResume platform clock eventID i).Submits P := by
  unfold reserveResume
  refine .bind (by simpa using tables _ (by simp [resumeTables])) fun _ => ?_
  refine .bind (by simpa using tables _ (by simp [resumeTables])) fun _ => ?_
  refine .bind (by simpa using raising _) fun _ => ?_
  exact .bind (resumeEvent_submits tables) fun _ => by simp

theorem prepareResume_submits {ids : ResumeIDs} (tables : ∀ c, OnTables resumeTables c → P c)
    (raising : ∀ now, P (.update .sessions (·.id = r.request.sessionID) (raiseVersion now))) :
    (prepareResume platform clock env now ids eventID r).Submits P := by
  unfold prepareResume
  simp only [Tx.submits_lift_bind, Tx.submits_require_bind, Tx.submits_get_bind,
    submits_queryRow_bind]
  intro _ _ _ db s _
  split
  · refine .bind resumeLoad_submits fun loaded => .bind ?_ fun _ => by simp
    rw [Tx.submits_onlyIf]
    exact fun _ => .bind resumeFence_submits fun _ => by simp
  · unfold newResume
    simp only [Tx.submits_require_bind, Tx.submits_get_bind, Tx.submits_expect_bind,
      submits_queryRow_bind]
    intro _ db _ _ _ _ w _ _ _ _ _ _ _
    refine .bind validateCheckpoint_submits fun restored => ?_
    rw [Tx.submits_require_bind]
    exact fun _ => .bind (reserveResume_submits tables raising) fun _ => by simp

theorem completeResume_submits {o : App.ResumeObservation}
    (tables : ∀ c, OnTables resumeTables c → P c)
    (completing : ∀ state now, P (.update .sessions (·.id = r.request.sessionID)
      (resumeSession state now))) :
    (completeResume platform clock env now eventID r o).Submits P := by
  unfold completeResume
  simp only [Tx.submits_lift_bind, Tx.submits_require_bind, Tx.submits_get_bind,
    submits_queryRow_bind]
  intro _ _ _ db s _ row _
  refine .bind resumeLoad_submits fun loaded => ?_
  obtain ⟨i, saved⟩ := loaded
  split
  · simp
  · rw [Tx.submits_lift_bind]
    intro _ _
    refine .bind resumeFence_submits fun _ => ?_
    simp only [Tx.submits_require_bind, Tx.submits_lift_bind]
    intro _ _ _ _ _
    unfold commitResume
    refine .bind (by simpa using tables _ (by simp [resumeTables])) fun _ => ?_
    rw [Tx.submits_expect_bind]
    intro state _
    refine .bind (by simpa using completing _ _) fun _ => ?_
    exact .bind (resumeEvent_submits tables) fun _ => by simp

theorem failResume_submits (tables : ∀ c, OnTables resumeTables c → P c)
    (failing : ∀ now, P (.update .sessions (·.id = r.request.sessionID) (failSession now))) :
    (failResume platform clock eventID r).Submits P := by
  unfold failResume
  simp only [Tx.submits_lift_bind, Tx.submits_get_bind, submits_queryRow_bind]
  intro _ _ db s _ row _
  refine .bind resumeLoad_submits fun loaded => ?_
  obtain ⟨i, saved⟩ := loaded
  split
  · simp
  · refine .bind (by simpa using fun _ => failing _) fun _ => ?_
    refine .bind (by simpa using tables _ (by simp [resumeTables])) fun _ => ?_
    exact .bind (resumeEvent_submits tables) fun _ => by simp

end Submits

/-! ### Effects -/

section Effects
variable {platform : Platform} {clock : Clock} {env : ResumeEnvironment} {txNow : Time}
  {db after : Db}

/-- The checks a stored row passes when a request is answered from it. -/
structure Loads (platform : Platform) (r : App.ResumeRequest) (row : ResumeOperationRow) :
    Prop where
  request : row.requestDigest = r.digest platform
  intent : row.intent.digest platform = row.intentDigest
  saved : row.intent.request.digest platform = row.requestDigest

theorem run_resumeLoad :
    (resumeLoad platform r row).run (rules txNow).execute db = .ok ((i, result), after) ↔
      Loads platform r row ∧ i = row.intent ∧ result = row.result ∧ after = db := by
  simp only [resumeLoad, Tx.run_bind, Tx.run_require, Tx.run_pure, Prod.mk.injEq]
  constructor
  · rintro ⟨_, _, ⟨request, rfl⟩, _, _, ⟨⟨intent, saved⟩, rfl⟩, ⟨rfl, rfl⟩, rfl⟩
    exact ⟨⟨request, intent, saved⟩, rfl, rfl, rfl⟩
  · rintro ⟨loads, rfl, rfl, rfl⟩
    exact ⟨(), after, ⟨loads.request, rfl⟩, (), after, ⟨⟨loads.intent, loads.saved⟩, rfl⟩,
      ⟨rfl, rfl⟩, rfl⟩

/-- What passing the fence proves about the Session; the store is only read. -/
theorem resumeFence_ok {u : Unit}
    (success : (resumeFence platform env now i s).run (rules txNow).execute db = .ok (u, after)) :
    unchangedSince i s = true ∧ after = db := by
  refine ⟨?_, Tx.run_unchanged resumeFence_submits success⟩
  simp only [resumeFence, Tx.run_bind, Tx.run_require] at success
  obtain ⟨_, _, ⟨unchanged, -⟩, -⟩ := success
  exact unchanged

/-- A new candidate: it consumes the boundary at the version of the Session, which
it raises, and reserves the workspace. -/
structure ResumeReserved (platform : Platform) (db after : Db) (r : App.ResumeRequest)
    (s : SessionRow) (i : App.ResumeIntent) : Prop where
  valid : r.validate = .ok ()
  suspended : s.state = .suspended
  request : i.request = r
  version : i.version = s.stateVersion + 1
  boundary : ∃ o ∈ db .sessionSuspendOperations, o.sessionID = r.request.sessionID ∧
    o.checkpointID = r.request.checkpointID ∧ o.stateVersion = s.stateVersion ∧
    targetState o.priorState = some i.targetState
  workspace : ∃ w ∈ db .workspaces, w.id = i.workspaceID ∧ w.state = .ready
  operations : ∃ now, after .sessionResumeOperations =
    db .sessionResumeOperations ++ [reservedOperation platform now i]
  workspaces : ∃ now, after .workspaces =
    updated (·.id = i.workspaceID) (attachWorkspace i.attachmentID now) (db .workspaces)
  sessions : ∃ now, after .sessions =
    updated (·.id = r.request.sessionID) (raiseVersion now) (db .sessions)
  others : ∀ u, outside (.sessions :: resumeTables) u = true → after u = db u

theorem checkpointWorkspace_mem {sessionID checkpointID : ID} {w : WorkspaceRow}
    (found : checkpointWorkspace db sessionID checkpointID = some w) : w ∈ db .workspaces := by
  simp only [checkpointWorkspace, Option.bind_eq_bind, Option.bind_eq_some_iff, Option.pure_def,
    Option.some.injEq] at found
  obtain ⟨_, present, _, _, rfl⟩ := found
  exact List.mem_of_find?_eq_some present

/-- Prepare answers from the journal, or reserves a new candidate. -/
theorem prepareResume_effects {ids : ResumeIDs}
    (success : (prepareResume platform clock env now ids eventID r).run (rules txNow).execute db =
      .ok ((i, result), after)) :
    ∃ s, (db .sessions).find? (·.id = r.request.sessionID) = some s ∧
      ((∃ row, resumeFind db r.request = some row ∧ Loads platform r row ∧ i = row.intent ∧
          result = row.result ∧ after = db) ∨
        (resumeFind db r.request = none ∧ ResumeReserved platform db after r s i ∧
          result = resumeResult i .resuming i.version)) := by
  have footprint : (prepareResume platform clock env now ids eventID r).Submits
      (OnTables (.sessions :: resumeTables)) :=
    prepareResume_submits (fun c on => on.mono (by decide)) (fun _ => by simp)
  have others : ∀ u, outside (.sessions :: resumeTables) u = true → after u = db u :=
    fun u other => run_outside footprint success other
  simp only [prepareResume, Tx.run_bind, Tx.run_lift, Tx.run_require, Tx.run_get,
    run_queryRow] at success
  obtain ⟨_, _, ⟨valid, rfl⟩, _, _, ⟨-, rfl⟩, _, _, ⟨rfl, rfl⟩, s, _, ⟨found, rfl⟩,
    success⟩ := success
  refine ⟨s, found, ?_⟩
  split at success
  next row saved =>
    simp only [Tx.run_bind, Tx.run_onlyIf, Tx.run_pure, Prod.mk.injEq] at success
    obtain ⟨⟨j, stored⟩, d, loaded, u, d', checked, ⟨rfl, rfl⟩, rfl⟩ := success
    obtain ⟨loads, rfl, rfl, rfl⟩ := run_resumeLoad.mp loaded
    refine .inl ⟨row, saved, loads, rfl, rfl, ?_⟩
    rcases checked with ⟨-, _, _, fenced, allowed⟩ | ⟨-, rfl⟩
    · exact (Tx.run_require.mp allowed).2.trans (resumeFence_ok fenced).2
    · rfl
  next missing =>
    simp only [newResume, Tx.run_bind, Tx.run_require, Tx.run_get, Tx.run_expect, run_queryRow,
      Tx.run_pure, Prod.mk.injEq] at success
    obtain ⟨_, _, ⟨⟨suspended, -⟩, rfl⟩, _, _, ⟨rfl, rfl⟩, o, _, ⟨boundary, rfl⟩, target, _,
      ⟨prior, rfl⟩, w, _, ⟨workspace, rfl⟩, generationID, _, ⟨-, rfl⟩, generation, _, ⟨-, rfl⟩, _,
      _, ⟨⟨ready, -⟩, rfl⟩, _, _, ⟨-, rfl⟩, restored, d, validated, _, _, ⟨-, rfl⟩, _, e, reserved,
      ⟨rfl, rfl⟩, rfl⟩ := success
    cases Tx.run_unchanged validateCheckpoint_submits validated
    refine .inr ⟨missing, ?_⟩
    simp only [reserveResume, Tx.run_bind, run_exec, Tx.run_pure] at reserved
    obtain ⟨_, d1, ⟨_, inserted⟩, _, d2, ⟨_, attached⟩, _, d3, ⟨_, raised⟩, _, d4, event, rfl,
      rfl⟩ := reserved
    have quiet : ∀ u, outside eventTables u = true → after u = d3 u := fun u other =>
      run_outside (insertWithPayload_submits.mono fun _ h => h.on) event other
    refine ⟨{ valid, suspended, request := rfl, version := rfl, boundary := ?_, workspace := ?_
              operations := ⟨clock.transaction, ?_⟩, workspaces := ⟨clock.reading 1, ?_⟩
              sessions := ⟨clock.reading 2, ?_⟩, others }, rfl⟩
    · have match_ := List.find?_some boundary
      simp only [Bool.and_eq_true, decide_eq_true_eq] at match_
      exact ⟨o, List.mem_of_find?_eq_some boundary, match_.1.1.1, match_.1.1.2, match_.1.2, prior⟩
    · exact ⟨w, checkpointWorkspace_mem workspace, rfl, ready⟩
    · rw [quiet _ rfl, execute_outside raised rfl, execute_outside attached rfl,
        execute_insert_rows inserted]
    · rw [quiet _ rfl, execute_outside raised rfl, execute_update_rows attached,
        execute_outside inserted rfl]
    · rw [quiet _ rfl, execute_update_rows raised, execute_outside attached rfl,
        execute_outside inserted rfl]

/-- The outcome of a candidate that passed the fence. -/
structure ResumeCompleted (db after : Db) (r : App.ResumeRequest) (s : SessionRow)
    (row : ResumeOperationRow) (result : App.ResumeResult) : Prop where
  unchanged : unchangedSince row.intent s = true
  answer : result = resumeResult row.intent row.intent.targetState (s.stateVersion + 1)
  operations : ∃ o, after .sessionResumeOperations =
    updated (·.operationID = r.request.operationID) (settleOperation result (some o))
      (db .sessionResumeOperations)
  sessions : ∃ state now, sessionState row.intent.targetState = some state ∧
    after .sessions = updated (·.id = r.request.sessionID) (resumeSession state now) (db .sessions)
  others : ∀ u, outside (.sessions :: .sessionResumeOperations :: eventTables) u = true →
    after u = db u

/-- The row of a completed candidate carries an observation, so its target is not
DEGRADED. -/
theorem ResumeCompleted.target (completed : ResumeCompleted db after r s row result)
    (sound : Sound after) (saved : resumeFind db r.request = some row) :
    row.intent.targetState = .ready ∨ row.intent.targetState = .idle := by
  obtain ⟨o, rows⟩ := completed.operations
  have key := List.find?_some saved
  simp only [Bool.and_eq_true, decide_eq_true_eq] at key
  have member : settleOperation result (some o) row ∈ after .sessionResumeOperations := by
    rw [rows, mem_updated]
    exact ⟨row, List.mem_of_find?_eq_some saved, .inl ⟨by simp [key], rfl⟩⟩
  have check := sound.check .sessionResumeOperations _ member
  simp only [checks, Bool.and_eq_true, Bool.or_eq_true, decide_eq_true_eq] at check
  simpa [settleOperation, completed.answer, resumeResult] using check.1

/-- Complete answers from the journal, or commits the candidate. -/
theorem completeResume_effects {o : App.ResumeObservation}
    (success : (completeResume platform clock env now eventID r o).run (rules txNow).execute db =
      .ok (result, after)) :
    ∃ s row, (db .sessions).find? (·.id = r.request.sessionID) = some s ∧
      resumeFind db r.request = some row ∧ Loads platform r row ∧
      ((row.result.state ≠ .resuming ∧ result = row.result ∧ after = db) ∨
        (row.result.state = .resuming ∧ ResumeCompleted db after r s row result)) := by
  simp only [completeResume, Tx.run_bind, Tx.run_lift, Tx.run_require, Tx.run_get,
    run_queryRow] at success
  obtain ⟨_, _, ⟨-, rfl⟩, _, _, ⟨-, rfl⟩, _, _, ⟨rfl, rfl⟩, s, _, ⟨found, rfl⟩, row, _,
    ⟨saved, rfl⟩, ⟨i, stored⟩, _, loaded, success⟩ := success
  obtain ⟨loads, rfl, rfl, rfl⟩ := run_resumeLoad.mp loaded
  refine ⟨s, row, found, saved, loads, ?_⟩
  split at success
  next settled =>
    obtain ⟨rfl, rfl⟩ := Tx.run_pure.mp success
    exact .inl ⟨settled, rfl, rfl⟩
  next pending =>
    simp only [Tx.run_bind, Tx.run_lift, Tx.run_require] at success
    obtain ⟨_, _, ⟨-, rfl⟩, _, _, fenced, _, _, ⟨-, rfl⟩, _, _, ⟨-, rfl⟩, _, _, ⟨-, rfl⟩, _, _,
      ⟨-, rfl⟩, committed⟩ := success
    obtain ⟨unchanged, rfl⟩ := resumeFence_ok fenced
    simp only [commitResume, Tx.run_bind, run_exec, Tx.run_expect, Tx.run_pure] at committed
    obtain ⟨_, d1, ⟨_, settled⟩, state, _, ⟨target, rfl⟩, _, d2, ⟨_, moved⟩, _, d3, event, rfl,
      rfl⟩ := committed
    have quiet : ∀ u, outside eventTables u = true → after u = d2 u := fun u other =>
      run_outside (insertWithPayload_submits.mono fun _ h => h.on) event other
    refine .inr ⟨not_not.mp pending, unchanged, rfl, ⟨o, ?_⟩, ⟨state, clock.reading 1, target, ?_⟩,
      fun u other => ?_⟩
    · rw [quiet _ rfl, execute_outside moved rfl, execute_update_rows settled]
    · rw [quiet _ rfl, execute_update_rows moved, execute_outside settled rfl]
    · have apart := outside_cons.mp other
      have apart' := outside_cons.mp apart.2
      rw [quiet u apart'.2, execute_outside moved apart.1, execute_outside settled apart'.1]

/-- The outcome of an abandoned candidate. -/
structure ResumeAbandoned (db after : Db) (r : App.ResumeRequest) (s : SessionRow)
    (row : ResumeOperationRow) (result : App.ResumeResult) : Prop where
  answer : ∃ version, result = resumeResult row.intent .degraded version
  operations : after .sessionResumeOperations =
    updated (·.operationID = r.request.operationID)
      (fun row => settleOperation result row.observation row) (db .sessionResumeOperations)
  sessions : (stillPrepared row.intent s = true ∧ ∃ now, after .sessions =
      updated (·.id = r.request.sessionID) (failSession now) (db .sessions)) ∨
    after .sessions = db .sessions
  others : ∀ u, outside (.sessions :: .sessionResumeOperations :: eventTables) u = true →
    after u = db u

/-- Fail answers from the journal, or abandons the candidate. -/
theorem failResume_effects
    (success : (failResume platform clock eventID r).run (rules txNow).execute db =
      .ok (result, after)) :
    ∃ s row, (db .sessions).find? (·.id = r.request.sessionID) = some s ∧
      resumeFind db r.request = some row ∧ Loads platform r row ∧
      ((row.result.state ≠ .resuming ∧ result = row.result ∧ after = db) ∨
        (row.result.state = .resuming ∧ ResumeAbandoned db after r s row result)) := by
  simp only [failResume, Tx.run_bind, Tx.run_lift, Tx.run_get, run_queryRow] at success
  obtain ⟨_, _, ⟨-, rfl⟩, _, _, ⟨rfl, rfl⟩, s, _, ⟨found, rfl⟩, row, _, ⟨saved, rfl⟩, ⟨i, stored⟩,
    start, loaded, success⟩ := success
  obtain ⟨loads, rfl, rfl, rfl⟩ := run_resumeLoad.mp loaded
  refine ⟨s, row, found, saved, loads, ?_⟩
  split at success
  next settled =>
    obtain ⟨rfl, rfl⟩ := Tx.run_pure.mp success
    exact .inl ⟨settled, rfl, rfl⟩
  next pending =>
    simp only [Tx.run_bind, Tx.run_onlyIf, run_exec, Tx.run_pure] at success
    obtain ⟨_, d1, moved, _, d2, ⟨_, settled⟩, _, d3, event, rfl, rfl⟩ := success
    have quiet : ∀ u, outside eventTables u = true → after u = d2 u := fun u other =>
      run_outside (insertWithPayload_submits.mono fun _ h => h.on) event other
    have still : ∀ u, outside [.sessions] u = true → d1 u = start u := fun u other => by
      rcases moved with ⟨-, _, failed⟩ | ⟨-, rfl⟩
      · exact execute_outside failed other
      · rfl
    refine .inr ⟨not_not.mp pending, ⟨_, rfl⟩, ?_, ?_, fun u other => ?_⟩
    · rw [quiet _ rfl, execute_update_rows settled, still _ rfl]
    · rw [quiet _ rfl, execute_outside settled rfl]
      rcases moved with ⟨prepared, _, failed⟩ | ⟨-, rfl⟩
      · exact .inl ⟨prepared, clock.reading 0, execute_update_rows failed⟩
      · exact .inr rfl
    · have apart := outside_cons.mp other
      have apart' := outside_cons.mp apart.2
      rw [quiet u apart'.2, execute_outside settled apart'.1, still u apart.1]

/-- Recording the cleanup of a degraded candidate releases its own attachment only. -/
theorem cleanedResume_effects {operationID : ID} {u : Unit}
    (success : (cleanedResume platform clock operationID).run (rules txNow).execute db =
      .ok (u, after)) :
    after = db ∨ ∃ row ∈ db .sessionResumeOperations, row.operationID = operationID ∧
      row.state = .degraded ∧ row.cleaned = false ∧
      (∃ now, after .workspaces = updated (fun w => w.id = row.intent.workspaceID &&
        w.currentAttachmentID = some row.intent.attachmentID && w.state = .attached)
        (detachWorkspace now) (db .workspaces)) ∧
      after .sessionResumeOperations = updated (·.operationID = operationID)
        (fun row => { row with cleaned := true }) (db .sessionResumeOperations) ∧
      ∀ u, outside [.workspaces, .sessionResumeOperations] u = true → after u = db u := by
  simp only [cleanedResume, Tx.run_bind, Tx.run_require, Tx.run_get, run_queryRow, Tx.run_onlyIf,
    run_exec] at success
  obtain ⟨_, _, ⟨-, rfl⟩, _, _, ⟨rfl, rfl⟩, row, _, ⟨found, rfl⟩, _, _, ⟨degraded, rfl⟩, _, _,
    ⟨-, rfl⟩, ⟨fresh, _, _, ⟨-, rfl⟩, _, d1, ⟨_, detached⟩, _, marked⟩ | ⟨-, rfl⟩⟩ := success
  · refine .inr ⟨row, List.mem_of_find?_eq_some found, by simpa using List.find?_some found,
      degraded, fresh, ⟨clock.reading 0, ?_⟩, ?_, fun u other => ?_⟩
    · rw [execute_outside marked rfl, execute_update_rows detached]
    · rw [execute_update_rows marked, execute_outside detached rfl]
    · have apart := outside_cons.mp other
      rw [execute_outside marked apart.2, execute_outside detached apart.1]
  · exact .inl rfl

end Effects
end ThinkPixelAR.Postgres
