import ThinkPixelAR.Postgres.ComputeEffects
import ThinkPixelAR.Postgres.Keys
import ThinkPixelAR.Postgres.SandboxReplacement
import ThinkPixelAR.Postgres.SessionResume

/-!
The lifecycle of a sandbox binding (`sandbox_bindings.go`,
`session_resume_handoff.go`): reservation before the provider is called, binding of
the provider's reference, and the journal of lifecycle operations.
-/
namespace ThinkPixelAR.Postgres

open Relational
open Sandbox

variable {revision : Nat} {platform : Platform} {r : AcquireRequest} {u : Unit}

/-! ### The resolution of the Execution -/

/-- The parts of `runtime_spec` that a reservation compares. -/
structure RuntimeSpec where
  image : String
  command : List String
  workingDirectory : String
  shutdownGrace : Int
  architectures : List String

def RuntimeSpec.decode (text : String) : Option RuntimeSpec := do
  let spec ← Json.decode text
  let image ← spec.field "image"
  let entrypoint ← spec.field "entrypoint"
  let platform ← spec.field "platform"
  return {
    image := ← (← image.field "reference").asString
    command := ← (← entrypoint.field "command").asStrings
    workingDirectory := ← (← entrypoint.field "working_directory").asString
    shutdownGrace := ← (← entrypoint.field "shutdown_grace_seconds").asInt64
    architectures := ← (← platform.field "architectures").asStrings }

/-- The persisted resolution of an Execution, with the Session it runs in. -/
def resolutionRows (db : Db) (executionID : ID) : Option (ProfileResolutionRow × SessionRow) := do
  let p ← (db .runtimeProfileResolutions).find? (·.executionID = executionID)
  let e ← (db .executions).find? (·.id = p.executionID)
  let s ← (db .sessions).find? (·.id = e.binding.raw.sessionID)
  return (p, s)

/-- An Execution's persisted resolution is authoritative: a supplied profile or
runtime cannot substitute for it. The result is the digest of the resolution. -/
def checkResolution (platform : Platform) (r : AcquireRequest) : Transaction Digest := do
  let db ← Tx.get
  let (p, s) ← queryRow (resolutionRows db r.scope.executionID)
  let runtime ← Tx.expect (RuntimeSpec.decode s.binding.raw.runtimeSpec) errIntegrity
  Tx.require (some p.resolutionDigest = r.profileDigest ∧
    some p.implementationDigest = r.implementationDigest ∧
    platform.sha256 p.canonicalResolution = p.resolutionDigest ∧ p.profile = some r.profile ∧
    runtime.image = r.runtime.image ∧ runtime.command = r.runtime.entrypoint ∧
    r.runtime.architecture ∈ runtime.architectures) errIntegrity
  Tx.require ((runtime.workingDirectory = "" ∨ runtime.workingDirectory = "/workspace") ∧
    runtime.shutdownGrace ≤ r.profile.terminationGraceSeconds) errUnsupported
  return p.resolutionDigest

/-! ### Handoff of a resumed candidate -/

/-- What a reservation takes from outside the store: the wall clock at its two
readings and the verification of a stored local grant against the Execution and the
Session it is bound to. -/
structure ReserveEnvironment where
  now : Time
  handoffNow : Time
  verifyLocalBinding : Execution → Session → LocalGrantRow → Option App.Grant

/-- `authority.LocalIssuer`. -/
def localIssuer : String := "thinkpixelar/local"

/-- `LoadLocalBinding`: the grant an Execution durably refers to. The caller reports
every failure alike. -/
def loadLocalBinding (env : ReserveEnvironment) (executionID : ID) (denied : Error) :
    Transaction App.Grant := do
  let db ← Tx.get
  let e ← Tx.expect ((db .executions).find? (·.id = executionID)) denied
  let e ← Tx.lift ((Executions.restore e).mapError fun _ => denied)
  Tx.require (e.binding.raw.authorityMode = some .localAuthority ∧
    e.binding.raw.authorityNamespace = localIssuer) denied
  let s ← Tx.expect ((db .sessions).find? (·.id = e.binding.raw.sessionID)) denied
  let s ← Tx.lift ((Sessions.restore s).mapError fun _ => denied)
  let record ← Tx.expect ((db .localAuthorityGrants).find? fun g =>
    validID g.id && g.id.text = e.binding.raw.authorityReference) denied
  Tx.expect (env.verifyLocalBinding e s record) denied

/-- The attachment receipt names the volume of the request and the attachment. -/
def receiptMatches (i : App.ResumeIntent) (o : App.ResumeObservation)
    (r : AcquireRequest) : Bool :=
  let parts := o.attachmentReference.toList.splitOn '/'
  parts.length = 4 && parts[1]? = some r.workspace.reference.toList &&
    parts[3]? = some i.attachmentID.text.toList

/-- The completed candidate may be handed to this request. -/
def handsOver (platform : Platform) (row : ResumeOperationRow) (o : App.ResumeObservation)
    (r : AcquireRequest) : Bool :=
  row.intent.digest platform = row.intentDigest && o.validate = .ok () &&
    row.state = row.intent.targetState &&
    row.intent.request.request.sessionID = r.scope.sessionID &&
    row.intent.executionGeneration + 1 = r.scope.generation

/-- `resumeHandoff`: the provider reference of the completed resume whose candidate
the request names. An acquisition without a resume journal keeps the generic path. -/
def resumeHandoff (platform : Platform) (env : ReserveEnvironment) (r : AcquireRequest) :
    Transaction (Option String) := do
  let db ← Tx.get
  match (db .sessionResumeOperations).find? (·.sandboxID = r.scope.sandboxID) with
  | none => return none
  | some row => do
    let o ← Tx.expect row.observation Sandbox.errConflict
    Tx.require (handsOver platform row o r = true) Sandbox.errConflict
    Tx.require (receiptMatches row.intent o r = true) errIntegrity
    let w ← queryRow ((db .workspaces).find? fun w =>
      w.id = row.intent.workspaceID && w.sessionID = r.scope.sessionID)
    let current ← scanBool (attachedTo row.intent w)
    Tx.require (current = true) Sandbox.errConflict
    let g ← loadLocalBinding env r.scope.executionID errPermission
    let record ← Tx.expect ((db .localAuthorityGrants).find? (·.id = g.id)) errPermission
    Tx.require (record.state = .active ∧ env.handoffNow < g.expiresAt ∧
      g.generation = r.scope.generation ∧ r.deadline ≤ g.expiresAt) errPermission
    return some o.sandboxReference

/-! ### Reservation -/

/-- The rows `readSandboxBinding` joins are both there. -/
def hasBinding (db : Db) (id : ID) : Bool :=
  (db .sandboxBindingRequests).any (·.sandboxBindingID = id) &&
    (db .sandboxBindings).any (·.id = id)

/-- The journal of the sandbox does not end in a release. -/
def requireOpen (id : ID) (revision : Nat) : Transaction Unit :=
  Tx.onlyIf (0 < revision) do
    let db ← Tx.get
    let last ← queryRow ((db .sandboxOperations).find? fun o =>
      o.sandboxBindingID = id && o.revision = revision)
    Tx.require (last.kind ≠ .release) Sandbox.errConflict

/-- A reservation that exists is answered when the request is the same. -/
def replayReservation (platform : Platform) (now : Time) (id : ID) (raw : String) :
    Transaction Binding := do
  let (previous, revision) ← readSandboxBinding platform id
  Tx.require (platform.canonicalRequest previous.request = some raw) Sandbox.errConflict
  requireOpen id revision
  queueCompute now id
  return previous

/-- The immutable request row of a sandbox. -/
def requestRow (r : AcquireRequest) : SandboxBindingRequestRow :=
  { sandboxBindingID := r.scope.sandboxID, acquireOperationID := r.operation.id
    canonicalRequest := r, operationRevision := 0 }

/-- The writes of a new reservation; a handed over candidate is bound at once. -/
def writeReservation (now : Time) (r : AcquireRequest) (digest profileDigest : Digest)
    (reference : Option String) : Transaction Unit := do
  exec (.insert .sandboxBindings (requestedBinding r digest profileDigest now))
  exec (.insert .sandboxBindingRequests (requestRow r))
  Tx.onlyIf (reference.isSome = true) (exec (.update .sandboxBindings
    (·.id = r.scope.sandboxID) fun b => { b with providerReference := reference }))
  exec (.update .attempts (·.id = r.scope.attemptID) (bindAttempt r.scope.sandboxID now))
  queueCompute now r.scope.sandboxID

/-- `SandboxBindings.Reserve`; `now` is the timestamp of the transaction. -/
def reserve (platform : Platform) (now : Time) (env : ReserveEnvironment)
    (r : AcquireRequest) : Transaction Binding := do
  Tx.require (validID r.operation.id = true ∧ [r.scope.sessionID, r.scope.executionID,
    r.scope.attemptID, r.scope.sandboxID].all validID = true) errInvalid
  let digest ← Tx.expect (requestDigest platform r) errInvalid
  Tx.require (r.operation.digest = some digest ∧ r.profile.validateConstraints = .ok () ∧
    env.now < r.deadline) errInvalid
  let raw ← Tx.expect (platform.canonicalRequest r) errInvalid
  let db ← Tx.get
  Tx.require ((db .sandboxOperations).any (·.operationID = r.operation.id) = false)
    Sandbox.errConflict
  let current ← lockSandboxFence now r
  Tx.require (current = true) Sandbox.errConflict
  let profileDigest ← checkResolution platform r
  if hasBinding db r.scope.sandboxID then
    replayReservation platform now r.scope.sandboxID raw
  else do
    let reference ← resumeHandoff platform env r
    writeReservation now r digest profileDigest reference
    return { request := r, providerReference := reference }

/-! ### References and operations -/

/-- The provider's reference, recorded once. -/
def bindTo (reference : String) (now : Time) (b : SandboxBindingRow) : SandboxBindingRow :=
  { b with
    providerReference := some reference
    stateVersion := b.stateVersion + 1
    updatedAt := now }

/-- `SandboxBindings.BindReference`: ownership evidence stays valid after fencing. -/
def bindReference (platform : Platform) (now : Time) (id : ID) (reference : String) :
    Transaction Unit := do
  Tx.require (boundedString 2048 reference = true) errInvalid
  let (b, _) ← readSandboxBinding platform id
  match b.providerReference with
  | some bound => Tx.require (bound = reference) errIntegrity
  | none => exec (.update .sandboxBindings (·.id = id) (bindTo reference now))

def OperationKind.text : OperationKind → String
  | .suspend => "suspend"
  | .resume => "resume"
  | .release => "release"

/-- The first operation of each kind stays on the binding (`COALESCE`). -/
def beginOn (kind : OperationKind) (op : RecordedOperation) (now : Time)
    (b : SandboxBindingRow) : SandboxBindingRow :=
  match kind with
  | .suspend => { b with
      suspendOperation := b.suspendOperation.or (some op)
      stateVersion := b.stateVersion + 1
      updatedAt := now }
  | .resume => { b with
      resumeOperation := b.resumeOperation.or (some op)
      stateVersion := b.stateVersion + 1
      updatedAt := now }
  | .release => { b with
      releaseOperation := b.releaseOperation.or (some op)
      stateVersion := b.stateVersion + 1
      updatedAt := now }

/-- An operation that was already journalled is answered at its own revision only. -/
def replayOperation (now : Time) (id : ID) (kind : OperationKind) (op : RecordedOperation)
    (revision : Nat) (previous : SandboxOperationRow) : Transaction Nat := do
  Tx.require (previous.sandboxBindingID = id ∧ previous.kind = kind ∧
    previous.requestDigest = op.digest ∧ previous.revision = revision) Sandbox.errConflict
  Tx.onlyIf (kind = .release) (queueCompute now id)
  return revision

/-- Append the next operation to the journal. -/
def appendOperation (now : Time) (id : ID) (kind : OperationKind) (op : RecordedOperation)
    (revision : Nat) : Transaction Nat := do
  requireOpen id revision
  exec (.insert .sandboxOperations
    { sandboxBindingID := id, operationID := op.id, kind, requestDigest := op.digest
      revision := revision + 1, createdAt := now })
  exec (.update .sandboxBindingRequests (·.sandboxBindingID = id)
    fun q => { q with operationRevision := revision + 1 })
  exec (.update .sandboxBindings (·.id = id) (beginOn kind op now))
  Tx.onlyIf (kind = .release) (queueCompute now id)
  return revision + 1

/-- `SandboxBindings.BeginOperation`; the result is the revision of the operation. -/
def beginOperation (platform : Platform) (now : Time) (id : ID) (kind : OperationKind)
    (op : Operation) : Transaction Nat := do
  let digest := lifecycleDigest platform id kind.text op.id
  Tx.require (validID op.id = true ∧ op.digest = some digest) errInvalid
  let db ← Tx.get
  Tx.require ((db .sandboxBindingRequests).any (·.acquireOperationID = op.id) = false)
    Sandbox.errConflict
  let first ← readSandboxBinding platform id
  let current ← lockSandboxFence now first.1.request
  let (b, revision) ← readSandboxBinding platform id
  Tx.require (current = true ∨
    (kind = .release ∧ cleanupAuthorizes db b id ⟨op.id, digest⟩ = true)) Sandbox.errConflict
  match (db .sandboxOperations).find? (·.operationID = op.id) with
  | some previous => replayOperation now id kind ⟨op.id, digest⟩ revision previous
  | none => appendOperation now id kind ⟨op.id, digest⟩ revision

/-! ### Footprints -/

section Submits
variable {P : Stmt → Prop}

theorem requireOpen_submits {id : ID} : (requireOpen id revision).Submits P := by
  simp [requireOpen]

theorem checkResolution_submits : (checkResolution platform r).Submits P := by
  simp only [checkResolution, Tx.submits_get_bind, submits_queryRow_bind, Tx.submits_expect_bind,
    Tx.submits_require_bind]
  intro db pair _ runtime _ _ _
  simp

variable {env : ReserveEnvironment} {now : Time}

theorem loadLocalBinding_submits {executionID : ID} {denied : Error} :
    (loadLocalBinding env executionID denied).Submits P := by
  simp [loadLocalBinding]

theorem resumeHandoff_submits : (resumeHandoff platform env r).Submits P := by
  unfold resumeHandoff
  rw [Tx.submits_get_bind]
  intro db
  split
  · simp
  · simp only [Tx.submits_expect_bind, Tx.submits_require_bind, submits_queryRow_bind]
    intro o _ _ _ w _
    refine .bind submits_scanBool fun current => ?_
    rw [Tx.submits_require_bind]
    exact fun _ => .bind loadLocalBinding_submits fun g => by simp

/-- A reservation writes the binding, its request, the Attempt and the work queue. -/
theorem reserve_submits :
    (reserve platform now env r).Submits (OnTables
      [.sandboxBindings, .sandboxBindingRequests, .attempts, .reconciliationWork]) := by
  have queue : ∀ id, (queueCompute now id).Submits (OnTables
      [.sandboxBindings, .sandboxBindingRequests, .attempts, .reconciliationWork]) := fun id =>
    queueCompute_submits.mono fun c on => on.mono (by decide)
  simp only [reserve, Tx.submits_require_bind, Tx.submits_expect_bind, Tx.submits_get_bind]
  intro _ digest _ _ raw _ db _
  refine .bind lockSandboxFence_submits fun current => ?_
  rw [Tx.submits_require_bind]
  intro _
  refine .bind checkResolution_submits fun profileDigest => ?_
  split
  · unfold replayReservation
    refine .bind readSandboxBinding_submits fun read => ?_
    obtain ⟨previous, revision⟩ := read
    rw [Tx.submits_require_bind]
    intro _
    exact .bind requireOpen_submits fun _ => .bind (queue _) fun _ => by simp
  · refine .bind resumeHandoff_submits fun reference => .bind ?_ fun _ => by simp
    unfold writeReservation
    refine .bind (by simp) fun _ => .bind (by simp) fun _ => .bind (by simp) fun _ => ?_
    exact .bind (by simp) fun _ => queue _

theorem bindReference_submits {id : ID} {reference : String} :
    (bindReference platform now id reference).Submits (OnTables [.sandboxBindings]) := by
  unfold bindReference
  rw [Tx.submits_require_bind]
  intro _
  refine .bind readSandboxBinding_submits fun ⟨b, _⟩ => ?_
  dsimp only
  split <;> simp

end Submits

/-! ### Effects -/

section Effects
variable {now t : Time} {db after : Db} {id : ID}

theorem queueCompute_quiet (success : (queueCompute now id).run (rules t).execute db =
    .ok (u, after)) : ∀ w, outside [.reconciliationWork] w = true → after w = db w :=
  fun _ other => run_outside queueCompute_submits success other

/-- The journal is empty or does not end in a release. -/
def Open (db : Db) (id : ID) (revision : Nat) : Prop :=
  revision = 0 ∨ ∃ last, journalledOperation db id revision = some last ∧ last.kind ≠ .release

theorem run_requireOpen :
    (requireOpen id revision).run (rules t).execute db = .ok (u, after) ↔
      after = db ∧ Open db id revision := by
  simp only [requireOpen, Tx.run_onlyIf, Tx.run_bind, Tx.run_get, run_queryRow, Tx.run_require]
  constructor
  · rintro (⟨-, _, _, ⟨rfl, rfl⟩, last, _, ⟨found, rfl⟩, kind, rfl⟩ | ⟨empty, rfl⟩)
    · exact ⟨rfl, .inr ⟨last, found, kind⟩⟩
    · exact ⟨rfl, .inl (Nat.eq_zero_of_not_pos empty)⟩
  · rintro ⟨rfl, empty | ⟨last, found, kind⟩⟩
    · exact .inr ⟨by omega, rfl⟩
    · rcases Nat.eq_zero_or_pos revision with empty | journalled
      · exact .inr ⟨by omega, rfl⟩
      · exact .inl ⟨journalled, _, _, ⟨rfl, rfl⟩, last, _, ⟨found, rfl⟩, kind, rfl⟩

/-- The row of a resume whose candidate was handed over with `reference`. -/
def HandedOver (platform : Platform) (db : Db) (r : AcquireRequest)
    (reference : Option String) : Prop :=
  match (db .sessionResumeOperations).find? (·.sandboxID = r.scope.sandboxID) with
  | none => reference = none
  | some row => ∃ o, row.observation = some o ∧ handsOver platform row o r = true ∧
      reference = some o.sandboxReference

variable {env : ReserveEnvironment} {reference : Option String} {kind : OperationKind}
  {result : Nat}

theorem resumeHandoff_ok
    (success : (resumeHandoff platform env r).run (rules t).execute db = .ok (reference, after)) :
    after = db ∧ HandedOver platform db r reference := by
  refine ⟨Tx.run_unchanged resumeHandoff_submits success, ?_⟩
  simp only [resumeHandoff, Tx.run_bind, Tx.run_get] at success
  obtain ⟨_, d0, ⟨rfl, rfl⟩, success⟩ := success
  unfold HandedOver
  split at success
  next missing =>
    exact (Tx.run_pure.mp success).1
  next row found =>
    simp only [Tx.run_bind, Tx.run_expect, Tx.run_require, Tx.run_pure] at success
    obtain ⟨o, _, ⟨observed, rfl⟩, _, _, ⟨hands, -⟩, _, _, -, _, _, -, _, _, -, _, _, -, _, _,
      -, _, _,
      -, _, _, -, rfl, -⟩ := success
    exact ⟨o, observed, hands, rfl⟩

/-- A new reservation: the binding and its request are there, and the sandbox was
not known before. -/
structure Reserved (platform : Platform) (now : Time) (db after : Db) (r : AcquireRequest)
    (reference : Option String) : Prop where
  current : Fenced now db r true
  unused : ∀ o ∈ db .sandboxOperations, o.operationID ≠ r.operation.id
  handed : HandedOver platform db r reference
  bindings : ∃ digest profileDigest, r.operation.digest = some digest ∧
    after .sandboxBindings = db .sandboxBindings ++
      [{ requestedBinding r digest profileDigest now with providerReference := reference }]
  requests : after .sandboxBindingRequests = db .sandboxBindingRequests ++ [requestRow r]
  attempts : after .attempts = updated (·.id = r.scope.attemptID)
    (bindAttempt r.scope.sandboxID now) (db .attempts)
  others : ∀ u, outside [.sandboxBindings, .sandboxBindingRequests, .attempts,
    .reconciliationWork] u = true → after u = db u

/-- The only row with the key of an inserted binding is that binding. -/
theorem updated_inserted {rows : List SandboxBindingRow} {b : SandboxBindingRow}
    {set : SandboxBindingRow → SandboxBindingRow}
    (unique : UniqueOn (rows ++ [b]) (fun _ => true) (·.id)) :
    updated (·.id = b.id) set (rows ++ [b]) = rows ++ [set b] := by
  have others : ∀ row ∈ rows, row.id ≠ b.id := fun _ member => unique.inserted member
  have kept : updated (·.id = b.id) set rows = rows := by
    unfold updated
    rw [List.map_congr_left (g := id) fun row member => by simp [others row member], List.map_id]
  have split : updated (·.id = b.id) set (rows ++ [b]) =
      updated (·.id = b.id) set rows ++ [set b] := by
    simp [updated]
  rw [split, kept]

theorem writeReservation_effects {digest profileDigest : Digest}
    (success : (writeReservation now r digest profileDigest reference).run (rules t).execute db =
      .ok (u, after)) :
    after .sandboxBindings = db .sandboxBindings ++
        [{ requestedBinding r digest profileDigest now with providerReference := reference }] ∧
      after .sandboxBindingRequests = db .sandboxBindingRequests ++ [requestRow r] ∧
      after .attempts = updated (·.id = r.scope.attemptID) (bindAttempt r.scope.sandboxID now)
        (db .attempts) := by
  simp only [writeReservation, Tx.run_bind, run_exec] at success
  obtain ⟨_, d1, ⟨_, bound⟩, _, d2, ⟨_, requested⟩, _, d3, referenced, _, d4, ⟨_, attached⟩,
    queued⟩ :=
    success
  have queue := queueCompute_quiet queued
  have still : ∀ w, outside [.sandboxBindings] w = true → d3 w = d2 w := by
    intro w other
    rcases Tx.run_onlyIf.mp referenced with ⟨-, written⟩ | ⟨-, same⟩
    · obtain ⟨_, written⟩ := run_exec.mp written
      exact execute_outside written other
    · rw [same]
  refine ⟨?_, ?_, ?_⟩
  · rw [queue _ rfl, execute_outside attached rfl]
    have rows : d2 .sandboxBindings = db .sandboxBindings ++
        [requestedBinding r digest profileDigest now] := by
      rw [execute_outside requested rfl, execute_insert_rows bound]
    rcases Tx.run_onlyIf.mp referenced with ⟨-, written⟩ | ⟨unbound, same⟩
    · obtain ⟨_, written⟩ := run_exec.mp written
      have unique := (execute_sound requested).binding_unique
      rw [rows] at unique
      rw [execute_update_rows written, rows]
      exact updated_inserted unique
    · have none : reference = none := by simpa using unbound
      rw [same, rows, none]
      rfl
  · rw [queue _ rfl, execute_outside attached rfl, still _ rfl, execute_insert_rows requested,
      execute_outside bound rfl]
  · rw [queue _ rfl, execute_update_rows attached, still _ rfl, execute_outside requested rfl,
      execute_outside bound rfl]

/-- Reserve answers an existing reservation, leaving the sandbox tables alone, or
makes a new one. -/
theorem reserve_effects {b : Binding}
    (success : (reserve platform now env r).run (rules t).execute db = .ok (b, after)) :
    (hasBinding db r.scope.sandboxID = true ∧
        (∀ u, outside [.reconciliationWork] u = true → after u = db u) ∧
        ∃ q row, Stored platform db r.scope.sandboxID q row ∧
          b = { request := q.canonicalRequest, providerReference := row.providerReference } ∧
          platform.canonicalRequest q.canonicalRequest = platform.canonicalRequest r) ∨
      (hasBinding db r.scope.sandboxID = false ∧
        Reserved platform now db after r b.providerReference ∧ b.request = r) := by
  have others : ∀ u, outside [.sandboxBindings, .sandboxBindingRequests, .attempts,
      .reconciliationWork] u = true → after u = db u := fun u other =>
    run_outside reserve_submits success other
  simp only [reserve, Tx.run_bind, Tx.run_require, Tx.run_expect, Tx.run_get] at success
  obtain ⟨_, _, ⟨-, rfl⟩, digest, _, ⟨-, rfl⟩, _, _, ⟨⟨stamped, -⟩, rfl⟩, raw, _,
    ⟨canonical, rfl⟩, _,
    d0, ⟨rfl, rfl⟩, _, _, ⟨unused, rfl⟩, current, _, locked, _, _, ⟨holds, rfl⟩, profileDigest, _,
    resolved, success⟩ := success
  obtain ⟨rfl, fence⟩ := run_lockSandboxFence.mp locked
  cases Tx.run_unchanged checkResolution_submits resolved
  subst holds
  split at success
  next present =>
    simp only [replayReservation, Tx.run_bind, Tx.run_require, Tx.run_pure] at success
    obtain ⟨⟨previous, revision⟩, _, read, _, _, ⟨same, rfl⟩, _, _, checked, _, _, queued,
      rfl, rfl⟩ :=
      success
    obtain ⟨rfl, q, row, stored, rfl, rfl⟩ := run_readSandboxBinding.mp read
    obtain ⟨rfl, -⟩ := run_requireOpen.mp checked
    exact .inl ⟨present, queueCompute_quiet queued, q, row, stored, rfl, same.trans canonical.symm⟩
  next missing =>
    simp only [Tx.run_bind, Tx.run_pure] at success
    obtain ⟨reference, _, handoff, _, _, written, rfl, rfl⟩ := success
    obtain ⟨rfl, handed⟩ := resumeHandoff_ok handoff
    obtain ⟨bindings, requests, attempts⟩ := writeReservation_effects written
    refine .inr ⟨Bool.eq_false_of_not_eq_true missing, ⟨fence, ?_, handed, ⟨digest, profileDigest,
      stamped, bindings⟩, requests, attempts, others⟩, rfl⟩
    intro o member same
    simp only [List.any_eq_false, decide_eq_true_eq] at unused
    exact unused o member same

/-- BindReference answers the reference that is bound, or binds it. -/
theorem bindReference_effects {reference : String}
    (success : (bindReference platform now id reference).run (rules t).execute db =
      .ok (u, after)) :
    ∃ q row, Stored platform db id q row ∧ boundedString 2048 reference = true ∧
      ((row.providerReference = some reference ∧ after = db) ∨
        (row.providerReference = none ∧ BindingChanged db after id (bindTo reference now))) := by
  simp only [bindReference, Tx.run_bind, Tx.run_require] at success
  obtain ⟨_, _, ⟨bounded, rfl⟩, ⟨b, revision⟩, _, read, success⟩ := success
  obtain ⟨rfl, q, row, stored, rfl, -⟩ := run_readSandboxBinding.mp read
  refine ⟨q, row, stored, bounded, ?_⟩
  dsimp only at success
  split at success
  next bound found =>
    obtain ⟨rfl, same⟩ := Tx.run_require.mp success
    exact .inl ⟨found, same⟩
  next unbound =>
    obtain ⟨_, written⟩ := run_exec.mp success
    exact .inr ⟨unbound, bindingChanged_of_execute written⟩

/-- The row of an operation. -/
def operationRow (id : ID) (kind : OperationKind) (op : RecordedOperation) (revision : Nat)
    (now : Time) : SandboxOperationRow :=
  { sandboxBindingID := id, operationID := op.id, kind, requestDigest := op.digest, revision
    createdAt := now }

theorem appendOperation_effects {op : RecordedOperation}
    (success : (appendOperation now id kind op revision).run (rules t).execute db =
      .ok (result, after)) :
    result = revision + 1 ∧
      Appended db after (operationRow id kind op (revision + 1) now) (beginOn kind op now) ∧
      ∀ u, outside [.sandboxOperations, .sandboxBindingRequests, .sandboxBindings,
        .reconciliationWork] u = true → after u = db u := by
  simp only [appendOperation, Tx.run_bind, run_exec, Tx.run_pure] at success
  obtain ⟨_, d0, checked, _, d1, ⟨_, journalled⟩, _, d2, ⟨_, advanced⟩, _, d3, ⟨_, bound⟩, _, d4,
    queued, rfl, rfl⟩ := success
  obtain ⟨rfl, open_⟩ := run_requireOpen.mp checked
  have queue : ∀ w, outside [.reconciliationWork] w = true → after w = d3 w := by
    rcases Tx.run_onlyIf.mp queued with ⟨-, queued⟩ | ⟨-, same⟩
    · exact queueCompute_quiet queued
    · exact fun w _ => congrFun same w
  refine ⟨rfl, ⟨?_, ?_, ?_, fun q member same => ?_, ?_⟩, fun w other => ?_⟩
  · rw [queue _ rfl, execute_outside bound rfl, execute_outside advanced rfl,
      execute_insert_rows journalled]
    rfl
  · rw [queue _ rfl, execute_outside bound rfl, execute_update_rows advanced,
      execute_outside journalled rfl]
    rfl
  · rw [queue _ rfl, execute_update_rows bound, execute_outside advanced rfl,
      execute_outside journalled rfl]
    rfl
  · have present : q ∈ d1 .sandboxBindingRequests := by
      rw [execute_outside journalled rfl]
      exact member
    have trigger := (Rules.execute_update.mp advanced).1 q present
      (by simpa [operationRow] using same)
    simpa [operationRow] using congrArg (·.operationRevision) (updateTrigger_requests trigger)
  · rcases open_ with rfl | last
    · exact .inl rfl
    · exact .inr (by simpa [operationRow] using last)
  · obtain ⟨first, rest⟩ := outside_cons.mp other
    obtain ⟨second, rest⟩ := outside_cons.mp rest
    obtain ⟨third, fourth⟩ := outside_cons.mp rest
    rw [queue _ fourth, execute_outside bound third, execute_outside advanced second,
      execute_outside journalled first]

/-- BeginOperation answers a journalled operation, leaving the sandbox tables alone,
or appends the next one. A fenced binding needs the cleanup intent of its release. -/
theorem beginOperation_effects {op : Operation}
    (success : (beginOperation platform now id kind op).run (rules t).execute db =
      .ok (result, after)) :
    ∃ q row current digest, Stored platform db id q row ∧
      Fenced now db q.canonicalRequest current ∧
      digest = lifecycleDigest platform id kind.text op.id ∧ op.digest = some digest ∧
      (∀ q ∈ db .sandboxBindingRequests, q.acquireOperationID ≠ op.id) ∧
      (current = true ∨ (kind = .release ∧ cleanupAuthorizes db
        ⟨q.canonicalRequest, row.providerReference⟩ id ⟨op.id, digest⟩ = true)) ∧
      ((∃ previous, (db .sandboxOperations).find? (·.operationID = op.id) = some previous ∧
          previous.sandboxBindingID = id ∧ previous.kind = kind ∧
          previous.requestDigest = digest ∧ previous.revision = q.operationRevision ∧
          result = q.operationRevision ∧
          ∀ u, outside [.reconciliationWork] u = true → after u = db u) ∨
        ((db .sandboxOperations).find? (·.operationID = op.id) = none ∧
          result = q.operationRevision + 1 ∧
          Appended db after (operationRow id kind ⟨op.id, digest⟩ (q.operationRevision + 1) now)
            (beginOn kind ⟨op.id, digest⟩ now) ∧
          ∀ u, outside [.sandboxOperations, .sandboxBindingRequests, .sandboxBindings,
            .reconciliationWork] u = true → after u = db u)) := by
  simp only [beginOperation, Tx.run_bind, Tx.run_require, Tx.run_get] at success
  obtain ⟨_, _, ⟨⟨-, stamped⟩, rfl⟩, _, d0, ⟨rfl, rfl⟩, _, _, ⟨unused, rfl⟩, ⟨first, _⟩, _, read,
    current, _, locked, ⟨b, revision⟩, _, again, _, _, ⟨permitted, rfl⟩, success⟩ := success
  obtain ⟨rfl, q, _, stored, rfl, rfl⟩ := run_readSandboxBinding.mp read
  obtain ⟨rfl, fence⟩ := run_lockSandboxFence.mp locked
  obtain ⟨rfl, q', row, stored', rfl, rfl⟩ := run_readSandboxBinding.mp again
  cases stored.request.symm.trans stored'.request
  simp only [List.any_eq_false, decide_eq_true_eq] at unused
  refine ⟨q, row, current, _, stored', fence, rfl, stamped, unused, permitted, ?_⟩
  split at success
  next previous found =>
    simp only [replayOperation, Tx.run_bind, Tx.run_require, Tx.run_pure] at success
    obtain ⟨_, _, ⟨⟨owner, same, digest, revision⟩, rfl⟩, _, _, queued, rfl, rfl⟩ := success
    refine .inl ⟨previous, found, owner, same, digest, revision, rfl, ?_⟩
    rcases Tx.run_onlyIf.mp queued with ⟨-, queued⟩ | ⟨-, nothing⟩
    · exact queueCompute_quiet queued
    · exact fun w _ => congrFun nothing w
  next missing =>
    obtain ⟨rfl, appended, others⟩ := appendOperation_effects success
    exact .inr ⟨missing, rfl, appended, others⟩

end Effects

end ThinkPixelAR.Postgres
