import ThinkPixelAR.Postgres.ComputeReconciliation

/-!
Replacement of a lost sandbox before execution (`sandbox_replacement.go`). The
whole decision is one transaction: the Session leaves DEGRADED, the old Attempt is
interrupted and replaced, a new Attempt with a fresh acquisition request becomes
current, and the recovery work is handed over.
-/
namespace ThinkPixelAR.Postgres

open Relational
open Sandbox

variable {platform : Platform} {clock : Clock}
  {policy : Binding → AcquireRequest → Bool} {result : Binding}
  {resources : ReplacementResources} {old next : Scope} {digest : Digest}
  {sessionVersion attemptVersion : Nat} {lost : ID} {candidate : AcquireRequest}
  {events : ID × ID} {u : Unit}

/-- The cleanup of the released resource is confirmed. -/
def releaseConfirmed (db : Db) (b : SandboxBindingRow) : Bool :=
  (db .cleanupIntents).any fun c => c.ownerType = "sandbox-binding" && c.ownerID = b.id &&
    c.targetType = "sandbox" && c.providerKind = b.providerKind &&
    some c.externalReference = b.providerReference &&
    b.releaseOperation.any (fun o => c.cleanupOperationID = o.id && c.requestDigest = o.digest) &&
    c.ownershipProofDigest = b.acquireRequestDigest && c.state = .confirmed

/-- No command was ever dispatched and no harness was ever bound for the Execution. -/
def neverStarted (db : Db) (executionID : ID) : Bool :=
  !((db .harnessBindings).any fun h => h.executionID = executionID) &&
    !((db .agentdCommands).any fun c => (db .sandboxBindings).any fun cb =>
      cb.id = c.sandboxBindingID && cb.executionID = executionID)

/-- No connection and no deliverable bootstrap is left for the sandbox. -/
def credentialsGone (db : Db) (b : SandboxBindingRow) (now : Time) : Bool :=
  !((db .agentdCredentialState).any fun c =>
      c.sandboxBindingID = b.id && c.connectionID.isSome) &&
    !((db .agentdBootstrapDelivery).any fun d => !d.cleaned &&
      (db .agentdCredentials).any fun c => c.credentialID = d.credentialID &&
        c.sandboxBindingID = b.id && now < max d.expiresAt c.expiresAt)

/-- The `safe` column `ReplaceDeleted` selects. -/
def replacementSafe (db : Db) (clock : Clock) (r : AcquireRequest) (s : SessionRow)
    (e : Execution) (a : Attempt) (b : SandboxBindingRow) : Truth :=
  .of (s.state = .degraded) &&& .compare (· = ·) s.recoveryState (some Session.State.active) &&&
    .compare (· = ·) s.currentExecutionID (some e.id) &&&
    .of (s.executionGeneration = r.scope.generation) &&&
    .of (e.binding.raw.sessionGeneration = r.scope.generation) &&&
    .of (e.state = .materializing) &&& .of (clock.reading 0 < e.deadline) &&&
    .of (r.deadline ≤ e.deadline) &&& .of (clock.reading 1 < r.deadline) &&&
    .of (a.current = true) &&& .of (a.binding.executionGeneration = r.scope.generation) &&&
    .of (a.binding.number = r.scope.attemptOrdinal) &&&
    .of (a.state = .pending ∨ a.state = .acquiring ∨ a.state = .starting) &&&
    .of (a.harnessReference = none) &&& .of (b.state = .released) &&&
    .compare (· = ·) b.reason (some "COMPUTE_ABSENT") &&& .of (b.providerReference ≠ none) &&&
    .of (releaseConfirmed db b = true) &&&
    .of ((db .reconciliationWork).any (fun w => w.kind = "sandbox.recover" &&
      w.targetType = "sandbox" && w.targetID = b.id &&
      w.lastErrorCode = some "BOUND_COMPUTE_MISSING") = true) &&&
    .of (neverStarted db e.id = true) &&& .of (credentialsGone db b (clock.reading 2) = true)

/-- `replacementDeadline`: the Execution and the request outlast two readings of
the clock. -/
def replacementDeadline (first second : Time) (r : AcquireRequest) :
    Transaction Unit := do
  let db ← Tx.get
  let e ← queryRow ((db .executions).find? (·.id = r.scope.executionID))
  Tx.require (first < e.deadline ∧ second < r.deadline) Sandbox.errConflict

/-- The stored replacement answers the same resources. -/
def sameResources (r : AcquireRequest) (resources : ReplacementResources) : Bool :=
  r.scope.attemptID = resources.attemptID && r.scope.sandboxID = resources.sandboxID &&
    r.operation.id = resources.acquireOperationID &&
    r.workspace.reference = resources.attachmentReference &&
    r.bootstrapReference = resources.bootstrapReference

/-- Every fresh resource differs from the lost one. -/
def freshResources (r : AcquireRequest) (lost : ID)
    (resources : ReplacementResources) : Bool :=
  resources.attemptID ≠ r.scope.attemptID && resources.sandboxID ≠ lost &&
    resources.acquireOperationID ≠ r.operation.id && r.scope.attemptOrdinal < maxInt64 &&
    resources.attachmentReference ≠ r.workspace.reference &&
    resources.bootstrapReference ≠ r.bootstrapReference

/-- The request of the replacement, without its digest. -/
def candidateRequest (r : AcquireRequest) (resources : ReplacementResources) :
    AcquireRequest :=
  { r with
    scope := { r.scope with
      attemptID := resources.attemptID
      sandboxID := resources.sandboxID
      attemptOrdinal := r.scope.attemptOrdinal + 1 }
    operation := { r.operation with id := resources.acquireOperationID }
    workspace := { r.workspace with reference := resources.attachmentReference }
    bootstrapReference := resources.bootstrapReference }

/-- The request a replacement acquires with, once its digest is known. -/
def replacementRequest (r : AcquireRequest) (resources : ReplacementResources)
    (digest : Digest) : AcquireRequest :=
  let draft := candidateRequest r resources
  { draft with operation := { draft.operation with digest := some digest } }

/-- The payload of both events; the Session's event also names the two states. -/
def replacementPayload (old next : Scope) (stateChange : Bool) : Json :=
  .object ([("old_attempt_id", .string old.attemptID.text),
      ("old_sandbox_id", .string old.sandboxID.text)] ++
    (if stateChange then [("previous_state", .string "DEGRADED")] else []) ++
    [("reason_code", .string "PRE_EXECUTION_COMPUTE_REPLACED"),
      ("replacement_attempt_id", .string next.attemptID.text),
      ("replacement_sandbox_id", .string next.sandboxID.text)] ++
    (if stateChange then [("state", .string "ACTIVE")] else []))

/-- `replacementEvent`: `attempt.replaced`, or the Session's return to ACTIVE. -/
def replacementEvent (platform : Platform) (txNow : Time) (old next : Scope)
    (stateChange : Bool) (id : ID) (version : Nat) (now : Time) : Transaction Unit :=
  if stateChange then
    appendWithEnvelope platform txNow (scopeSubject old "session" old.sessionID) id version
      .sessionStateChanged (replacementPayload old next true) now
  else
    appendWithEnvelope platform txNow (scopeSubject old "attempt" old.attemptID) id version
      .attemptReplaced (replacementPayload old next false) now

/-! ### The transaction -/

/-- A decision that was already made is returned when it is still current. -/
def replayReplacement (platform : Platform) (clock : Clock)
    (policy : Binding → AcquireRequest → Bool) (old : Binding)
    (resources : ReplacementResources) (replacement : ID) :
    Transaction Binding := do
  let (saved, _) ← readSandboxBinding platform replacement
  Tx.require (sameResources saved.request resources = true) Sandbox.errConflict
  let current ← lockSandboxFence clock.transaction saved.request
  let db ← Tx.get
  let row ← queryRow ((db .sandboxBindings).find? (·.id = replacement))
  Tx.require (current = true ∧ row.releaseOperation = none ∧ row.state ≠ .released ∧
    row.state ≠ .releasing ∧ row.state ≠ .failed) Sandbox.errConflict
  Tx.require (policy old saved.request = true) errPermission
  replacementDeadline (clock.reading 0) (clock.reading 1) saved.request
  return saved

/-- The Session returns to ACTIVE. -/
def restoreActive (now : Time) (s : SessionRow) : SessionRow :=
  { s with
    state := .active
    recoveryState := none
    stateVersion := s.stateVersion + 1
    updatedAt := now }

/-- The old Attempt on its way to REPLACED. -/
def interruptAttempt (now : Time) (a : Attempt) : Attempt :=
  { a with state := .interrupting, stateVersion := a.stateVersion + 1, updatedAt := now }

def replaceAttempt (result : Attempt.TerminalResult) (terminal now : Time) (a : Attempt) :
    Attempt :=
  { a with
    state := .replaced
    current := false
    terminalResult := some result
    terminalAt := some terminal
    updatedAt := now
    stateVersion := a.stateVersion + 1 }

/-- The row of the replacing Attempt: current and PENDING. -/
def pendingAttempt (scope : Scope) (now : Time) : Attempt :=
  { id := scope.attemptID
    binding :=
      { executionID := scope.executionID, executionGeneration := scope.generation
        number := scope.attemptOrdinal }
    state := .pending, stateVersion := 0, current := true, sandboxReference := none
    harnessReference := none, sandboxHeartbeatAt := none, harnessHeartbeatAt := none
    terminalResult := none, createdAt := now, updatedAt := now, terminalAt := none }

def bindAttempt (sandboxID : ID) (now : Time) (a : Attempt) : Attempt :=
  { a with
    sandboxReference := some sandboxID, stateVersion := a.stateVersion + 1, updatedAt := now }

/-- Move Session and Attempts: the old Attempt ends, the new one becomes current. -/
def replaceAttempts (clock : Clock) (old next : Scope) (digest : Digest)
    (sessionVersion attemptVersion : Nat) : Transaction Unit := do
  exec (.update .sessions (fun s => s.id = old.sessionID && s.stateVersion = sessionVersion)
    (restoreActive (clock.reading 6)))
  exec (.update .attempts (fun a => a.id = old.attemptID && a.stateVersion = attemptVersion)
    (interruptAttempt (clock.reading 7)))
  exec (.update .attempts (fun a => a.id = old.attemptID && a.stateVersion = attemptVersion + 1)
    (replaceAttempt ⟨next.attemptID.text, digest⟩ (clock.reading 8) (clock.reading 9)))
  exec (.insert .attempts (pendingAttempt next clock.transaction))

/-- The binding of a fresh sandbox, REQUESTED. -/
def requestedBinding (candidate : AcquireRequest) (digest profileDigest : Digest)
    (now : Time) : SandboxBindingRow :=
  let scope := candidate.scope
  { id := scope.sandboxID, sessionID := scope.sessionID, executionID := scope.executionID
    executionGeneration := scope.generation, attemptID := scope.attemptID
    attemptNo := scope.attemptOrdinal, providerKind := candidate.profile.providerKind
    providerReference := none, resolutionDigest := profileDigest
    acquireOperationID := candidate.operation.id, acquireRequestDigest := digest
    suspendOperation := none, resumeOperation := none, releaseOperation := none
    state := .requested, reason := none, effectiveFactsDigest := none, observedAt := none
    stateVersion := 0, createdAt := now, updatedAt := now }

/-- Bind the new Attempt to a fresh sandbox and journal the decision. -/
def bindReplacement (clock : Clock) (lost : ID) (candidate : AcquireRequest)
    (digest profileDigest : Digest) : Transaction Unit := do
  let scope := candidate.scope
  exec (.insert .sandboxBindings
    (requestedBinding candidate digest profileDigest clock.transaction))
  exec (.insert .sandboxBindingRequests
    { sandboxBindingID := scope.sandboxID, acquireOperationID := candidate.operation.id
      canonicalRequest := candidate, operationRevision := 0 })
  exec (.update .attempts (·.id = scope.attemptID)
    (bindAttempt scope.sandboxID (clock.reading 10)))
  exec (.insert .sandboxReplacements
    { oldSandboxID := lost, newSandboxID := scope.sandboxID, createdAt := clock.transaction })

/-- The recovery work of the lost sandbox that may be taken over. -/
def takeable (lost : ID) (now : Time) (w : Reconciliation.Work) : Bool :=
  w.kind = "sandbox.recover" && w.targetType = "sandbox" && w.targetID = lost &&
    (w.state = .pending || (w.state = .claimed && w.claimExpiresAt.any (· ≤ now)))

/-- The work is completed by its owner. -/
def completedWork (now : Time) (w : Reconciliation.Work) : Reconciliation.Work :=
  { w with
    state := .completed
    ownerID := none
    claimExpiresAt := none
    lastErrorCode := none
    updatedAt := now
    completedAt := some now }

/-- Claim the recovery work and complete it in the same transaction. -/
def handOverRecovery (clock : Clock) (lost owner : ID) : Transaction Unit := do
  let db ← Tx.get
  let work := (db .reconciliationWork).find? (takeable lost (clock.reading 13))
  exec (.update .reconciliationWork (takeable lost (clock.reading 13))
    (ReconciliationWork.claimed owner (clock.reading 12) (clock.reading 11 + 60 * second)))
  let work ← Tx.expect work Sandbox.errConflict
  exec (.update .reconciliationWork (fun w => w.id = work.id && w.ownerID = some owner)
    (completedWork (clock.reading 14)))

/-- Everything a replacement writes. -/
def commitReplacement (platform : Platform) (clock : Clock) (events : ID × ID) (lost : ID)
    (old : Scope) (candidate : AcquireRequest) (digest : Digest)
    (sessionVersion attemptVersion : Nat) : Transaction Unit := do
  replaceAttempts clock old candidate.scope digest sessionVersion attemptVersion
  let db ← Tx.get
  Tx.require ((db .sandboxOperations).any (·.operationID = candidate.operation.id) = false)
    Sandbox.errConflict
  let _ ← Tx.expect (platform.canonicalRequest candidate) errInvalid
  let profileDigest ← Tx.expect candidate.profileDigest
    (Fault.error ⟨.checkViolation, "violates check constraint"⟩)
  bindReplacement clock lost candidate digest profileDigest
  handOverRecovery clock lost candidate.scope.attemptID
  queueCompute clock.transaction candidate.scope.sandboxID
  replacementEvent platform clock.transaction old candidate.scope false events.1
    (attemptVersion + 2) (clock.reading 3)
  replacementEvent platform clock.transaction old candidate.scope true events.2
    (sessionVersion + 1) (clock.reading 3)

/-- The decision itself, from a `safe` reading of the lost sandbox. -/
def decideReplacement (platform : Platform) (clock : Clock)
    (policy : Binding → AcquireRequest → Bool) (events : ID × ID)
    (lost : ID) (resources : ReplacementResources) (old : Binding) :
    Transaction Binding := do
  let db ← Tx.get
  let (s, e, a) ← queryRow (scopeRows db old.request.scope)
  let b ← queryRow ((db .sandboxBindings).find? fun b => b.id = lost && b.attemptID = a.id)
  let safe ← scanBool (replacementSafe db clock old.request s e a b)
  Tx.require (safe = true ∧ freshResources old.request lost resources = true) Sandbox.errConflict
  let digest ← Tx.expect (requestDigest platform (candidateRequest old.request resources))
    errInvalid
  let candidate := replacementRequest old.request resources digest
  Tx.require (policy old candidate = true) errPermission
  replacementDeadline (clock.reading 4) (clock.reading 5) candidate
  commitReplacement platform clock events lost old.request.scope candidate digest s.stateVersion
    a.stateVersion
  return { request := candidate, providerReference := none }

/-- `SandboxReplacements.ReplaceDeleted`; `events` are the identifiers of its two
events. -/
def replaceDeleted (platform : Platform) (clock : Clock)
    (policy : Binding → AcquireRequest → Bool) (events : ID × ID)
    (lost : ID) (resources : ReplacementResources) : Transaction Binding := do
  Tx.require (validID lost = true ∧ [resources.attemptID, resources.sandboxID,
    resources.acquireOperationID].all validID = true ∧
    boundedString 2048 resources.attachmentReference = true ∧
    boundedString 2048 resources.bootstrapReference = true) errInvalid
  let first ← readSandboxBinding platform lost
  let _ ← lockSandboxFence clock.transaction first.1.request
  let (old, _) ← readSandboxBinding platform lost
  let db ← Tx.get
  match (db .sandboxReplacements).find? (·.oldSandboxID = lost) with
  | some decided =>
    replayReplacement platform clock policy old resources decided.newSandboxID
  | none => decideReplacement platform clock policy events lost resources old

/-! ### Footprints -/

/-- What a replacement writes besides the Session. -/
def replacementTables : List Table := .attempts :: .sandboxReplacements :: computeTables

theorem eventTables_replacement : eventTables ⊆ replacementTables := by decide

section Submits
variable {P : Stmt → Prop}

theorem replacementDeadline_submits {first second : Time} {r : AcquireRequest} :
    (replacementDeadline first second r).Submits P := by
  simp [replacementDeadline]

/-- Returning a recorded decision only reads. -/
theorem replayReplacement_submits {old : Binding} {replacement : ID} :
    (replayReplacement platform clock policy old resources replacement).Submits P := by
  unfold replayReplacement
  refine .bind readSandboxBinding_submits fun ⟨saved, _⟩ => ?_
  rw [Tx.submits_require_bind]
  intro _
  refine .bind lockSandboxFence_submits fun current => ?_
  simp only [Tx.submits_get_bind, submits_queryRow_bind, Tx.submits_require_bind]
  intro db row _ _ _
  exact .bind replacementDeadline_submits fun _ => by simp

theorem replacementEvent_submits {txNow : Time} {stateChange : Bool} {id : ID} {version : Nat}
    {now : Time} :
    (replacementEvent platform txNow old next stateChange id version now).Submits
      EventStatement := by
  unfold replacementEvent
  split <;> exact appendWithEnvelope_submits

theorem replaceAttempts_submits (tables : ∀ c, OnTables replacementTables c → P c)
    (restoring : ∀ now, P (.update .sessions
      (fun s => s.id = old.sessionID && s.stateVersion = sessionVersion) (restoreActive now))) :
    (replaceAttempts clock old next digest sessionVersion attemptVersion).Submits P := by
  unfold replaceAttempts
  refine .bind (by simpa using restoring _) fun _ => ?_
  refine .bind (by simpa using tables _ (by simp [replacementTables])) fun _ => ?_
  refine .bind (by simpa using tables _ (by simp [replacementTables])) fun _ => ?_
  simpa using tables _ (by simp [replacementTables])

theorem bindReplacement_submits {profileDigest : Digest} :
    (bindReplacement clock lost candidate digest profileDigest).Submits
      (OnTables replacementTables) := by
  unfold bindReplacement
  refine .bind (by simp [replacementTables, computeTables]) fun _ => ?_
  refine .bind (by simp [replacementTables, computeTables]) fun _ => ?_
  exact .bind (by simp [replacementTables]) fun _ => by simp [replacementTables]

theorem handOverRecovery_submits {owner : ID} :
    (handOverRecovery clock lost owner).Submits (OnTables [.reconciliationWork]) := by
  unfold handOverRecovery
  rw [Tx.submits_get_bind]
  intro db
  refine .bind (by simp) fun _ => ?_
  rw [Tx.submits_expect_bind]
  intro work _
  simp

/-- A replacement writes its own tables and returns one Session to ACTIVE. -/
theorem commitReplacement_submits (tables : ∀ c, OnTables replacementTables c → P c)
    (restoring : ∀ now, P (.update .sessions
      (fun s => s.id = old.sessionID && s.stateVersion = sessionVersion) (restoreActive now))) :
    (commitReplacement platform clock events lost old candidate digest sessionVersion
      attemptVersion).Submits P := by
  have event : ∀ {next stateChange id version}, (replacementEvent platform clock.transaction
      old next stateChange id version (clock.reading 3)).Submits P :=
    fun {_ _ _ _} => replacementEvent_submits.mono fun c h =>
      tables c (h.on.mono eventTables_replacement)
  unfold commitReplacement
  refine .bind (replaceAttempts_submits tables restoring) fun _ => ?_
  simp only [Tx.submits_get_bind, Tx.submits_require_bind, Tx.submits_expect_bind]
  intro db _ _ _ profileDigest _
  refine .bind (bindReplacement_submits.mono tables) fun _ => ?_
  refine .bind (handOverRecovery_submits.mono fun c on => tables c (on.mono (by decide)))
    fun _ => ?_
  refine .bind (queueCompute_submits.mono fun c on => tables c (on.mono (by decide))) fun _ => ?_
  exact .bind event fun _ => event

theorem decideReplacement_submits {old : Binding}
    (tables : ∀ c, OnTables replacementTables c → P c)
    (restoring : ∀ version now, P (.update .sessions
      (fun s => s.id = old.request.scope.sessionID && s.stateVersion = version)
      (restoreActive now))) :
    (decideReplacement platform clock policy events lost resources old).Submits P := by
  unfold decideReplacement
  rw [Tx.submits_get_bind]
  intro db
  rw [submits_queryRow_bind]
  intro ⟨s, e, a⟩ _
  rw [submits_queryRow_bind]
  intro b _
  refine .bind submits_scanBool fun safe => ?_
  rw [Tx.submits_require_bind]
  intro _
  rw [Tx.submits_expect_bind]
  intro digest _
  rw [Tx.submits_require_bind]
  intro _
  refine .bind replacementDeadline_submits fun _ => ?_
  exact .bind (commitReplacement_submits tables (restoring _)) fun _ => by simp

theorem replaceDeleted_submits (tables : ∀ c, OnTables replacementTables c → P c)
    (restoring : ∀ id version now, P (.update .sessions
      (fun s => s.id = id && s.stateVersion = version) (restoreActive now))) :
    (replaceDeleted platform clock policy events lost resources).Submits P := by
  unfold replaceDeleted
  rw [Tx.submits_require_bind]
  intro _
  refine .bind readSandboxBinding_submits fun first => ?_
  refine .bind lockSandboxFence_submits fun _ => ?_
  refine .bind readSandboxBinding_submits fun ⟨old, _⟩ => ?_
  rw [Tx.submits_get_bind]
  intro db
  split
  · exact replayReplacement_submits
  · exact decideReplacement_submits tables (restoring _)

end Submits

/-! ### Effects -/

/-- The Attempts after a replacement. -/
def replacedAttempts (clock : Clock) (old next : Scope) (digest : Digest) (version : Nat)
    (rows : List Attempt) : List Attempt :=
  updated (·.id = next.attemptID) (bindAttempt next.sandboxID (clock.reading 10))
    (updated (fun a => a.id = old.attemptID && a.stateVersion = version + 1)
        (replaceAttempt ⟨next.attemptID.text, digest⟩ (clock.reading 8) (clock.reading 9))
      (updated (fun a => a.id = old.attemptID && a.stateVersion = version)
        (interruptAttempt (clock.reading 7)) rows) ++ [pendingAttempt next clock.transaction])

/-- A committed replacement of the sandbox `lost`, decided from the rows `s`, `e`,
`a` and `b`. -/
structure Replaced (platform : Platform) (clock : Clock) (db after : Db) (lost : ID)
    (resources : ReplacementResources) (old : Binding) (s : SessionRow)
    (e : Execution) (a : Attempt) (b : SandboxBindingRow) (digest : Digest) : Prop where
  rows : scopeRows db old.request.scope = some (s, e, a)
  binding : (db .sandboxBindings).find? (fun b => b.id = lost && b.attemptID = a.id) = some b
  safe : (replacementSafe db clock old.request s e a b).Holds
  fresh : freshResources old.request lost resources = true
  unused : ∀ o ∈ db .sandboxOperations, o.operationID ≠ resources.acquireOperationID
  sessions : after .sessions = updated (fun row => row.id = old.request.scope.sessionID &&
    row.stateVersion = s.stateVersion) (restoreActive (clock.reading 6)) (db .sessions)
  attempts : after .attempts = replacedAttempts clock old.request.scope
    (replacementRequest old.request resources digest).scope digest a.stateVersion (db .attempts)
  bindings : ∃ profileDigest, after .sandboxBindings = db .sandboxBindings ++
    [requestedBinding (replacementRequest old.request resources digest) digest profileDigest
      clock.transaction]
  requests : after .sandboxBindingRequests = db .sandboxBindingRequests ++
    [{ sandboxBindingID := resources.sandboxID, acquireOperationID := resources.acquireOperationID
       canonicalRequest := replacementRequest old.request resources digest
       operationRevision := 0 }]
  replacements : after .sandboxReplacements = db .sandboxReplacements ++
    [{ oldSandboxID := lost, newSandboxID := resources.sandboxID, createdAt := clock.transaction }]
  journal : after .sandboxOperations = db .sandboxOperations ∧
    after .cleanupIntents = db .cleanupIntents
  others : ∀ u, outside (.sessions :: replacementTables) u = true → after u = db u

section Effects
variable {txNow : Time} {db after : Db}

theorem replaceAttempts_effects
    (success : (replaceAttempts clock old next digest sessionVersion attemptVersion).run
      (rules txNow).execute db = .ok (u, after)) :
    after .sessions = updated (fun s => s.id = old.sessionID && s.stateVersion = sessionVersion)
        (restoreActive (clock.reading 6)) (db .sessions) ∧
      after .attempts = updated (fun a => a.id = old.attemptID &&
          a.stateVersion = attemptVersion + 1)
        (replaceAttempt ⟨next.attemptID.text, digest⟩ (clock.reading 8) (clock.reading 9))
        (updated (fun a => a.id = old.attemptID && a.stateVersion = attemptVersion)
          (interruptAttempt (clock.reading 7)) (db .attempts)) ++
        [pendingAttempt next clock.transaction] ∧
      ∀ u, outside [.sessions, .attempts] u = true → after u = db u := by
  simp only [replaceAttempts, Tx.run_bind, run_exec] at success
  obtain ⟨_, d1, ⟨_, restored⟩, _, d2, ⟨_, interrupted⟩, _, d3, ⟨_, replaced⟩, _, inserted⟩ :=
    success
  refine ⟨?_, ?_, fun u other => ?_⟩
  · rw [execute_outside inserted rfl, execute_outside replaced rfl,
      execute_outside interrupted rfl, execute_update_rows restored]
  · rw [execute_insert_rows inserted, execute_update_rows replaced,
      execute_update_rows interrupted, execute_outside restored rfl]
  · have apart := outside_cons.mp other
    rw [execute_outside inserted apart.2, execute_outside replaced apart.2,
      execute_outside interrupted apart.2, execute_outside restored apart.1]

theorem bindReplacement_effects {profileDigest : Digest}
    (success : (bindReplacement clock lost candidate digest profileDigest).run
      (rules txNow).execute db = .ok (u, after)) :
    after .sandboxBindings = db .sandboxBindings ++
        [requestedBinding candidate digest profileDigest clock.transaction] ∧
      after .sandboxBindingRequests = db .sandboxBindingRequests ++
        [{ sandboxBindingID := candidate.scope.sandboxID
           acquireOperationID := candidate.operation.id
           canonicalRequest := candidate, operationRevision := 0 }] ∧
      after .attempts = updated (·.id = candidate.scope.attemptID)
        (bindAttempt candidate.scope.sandboxID (clock.reading 10)) (db .attempts) ∧
      after .sandboxReplacements = db .sandboxReplacements ++
        [{ oldSandboxID := lost, newSandboxID := candidate.scope.sandboxID
           createdAt := clock.transaction }] ∧
      ∀ u, outside [.sandboxBindings, .sandboxBindingRequests, .attempts, .sandboxReplacements]
        u = true → after u = db u := by
  simp only [bindReplacement, Tx.run_bind, run_exec] at success
  obtain ⟨_, d1, ⟨_, bound⟩, _, d2, ⟨_, requested⟩, _, d3, ⟨_, attached⟩, _, journalled⟩ := success
  refine ⟨?_, ?_, ?_, ?_, fun u other => ?_⟩
  · rw [execute_outside journalled rfl, execute_outside attached rfl,
      execute_outside requested rfl, execute_insert_rows bound]
  · rw [execute_outside journalled rfl, execute_outside attached rfl,
      execute_insert_rows requested, execute_outside bound rfl]
  · rw [execute_outside journalled rfl, execute_update_rows attached,
      execute_outside requested rfl, execute_outside bound rfl]
  · rw [execute_insert_rows journalled, execute_outside attached rfl,
      execute_outside requested rfl, execute_outside bound rfl]
  · obtain ⟨first, rest⟩ := outside_cons.mp other
    obtain ⟨second, rest⟩ := outside_cons.mp rest
    obtain ⟨third, fourth⟩ := outside_cons.mp rest
    rw [execute_outside journalled fourth, execute_outside attached third,
      execute_outside requested second, execute_outside bound first]

/-- The tables a replacement writes, after it. -/
theorem commitReplacement_effects
    (success : (commitReplacement platform clock events lost old candidate digest sessionVersion
      attemptVersion).run (rules txNow).execute db = .ok (u, after)) :
    after .sessions = updated (fun s => s.id = old.sessionID && s.stateVersion = sessionVersion)
        (restoreActive (clock.reading 6)) (db .sessions) ∧
      after .attempts = replacedAttempts clock old candidate.scope digest attemptVersion
        (db .attempts) ∧
      (∃ profileDigest, after .sandboxBindings = db .sandboxBindings ++
        [requestedBinding candidate digest profileDigest clock.transaction]) ∧
      after .sandboxBindingRequests = db .sandboxBindingRequests ++
        [{ sandboxBindingID := candidate.scope.sandboxID
           acquireOperationID := candidate.operation.id
           canonicalRequest := candidate, operationRevision := 0 }] ∧
      after .sandboxReplacements = db .sandboxReplacements ++
        [{ oldSandboxID := lost, newSandboxID := candidate.scope.sandboxID
           createdAt := clock.transaction }] ∧
      (after .sandboxOperations = db .sandboxOperations ∧
        after .cleanupIntents = db .cleanupIntents) ∧
      ∀ o ∈ db .sandboxOperations, o.operationID ≠ candidate.operation.id := by
  simp only [commitReplacement, Tx.run_bind, Tx.run_get, Tx.run_require, Tx.run_expect] at success
  obtain ⟨_, _, moved, _, d1, ⟨rfl, rfl⟩, _, _, ⟨unused, rfl⟩, _, _, ⟨-, rfl⟩, profileDigest, _,
    ⟨-, rfl⟩, _, d2, bound, _, d3, handed, _, d4, queued, _, d5, first, second⟩ := success
  obtain ⟨sessions, attempts, elsewhere⟩ := replaceAttempts_effects moved
  obtain ⟨bindings, requests, attached, replacements, still⟩ := bindReplacement_effects bound
  -- What follows the binding writes recovery work, events and messages only.
  have quiet : ∀ u, outside (.reconciliationWork :: eventTables) u = true → after u = d2 u := by
    intro u other
    have apart := outside_cons.mp other
    rw [run_outside (replacementEvent_submits.mono fun _ h => h.on) second apart.2,
      run_outside (replacementEvent_submits.mono fun _ h => h.on) first apart.2,
      run_outside queueCompute_submits queued apart.1,
      run_outside handOverRecovery_submits handed apart.1]
  refine ⟨?_, ?_, ⟨profileDigest, ?_⟩, ?_, ?_, ⟨?_, ?_⟩, fun o member same => ?_⟩
  · rw [quiet _ rfl, still _ rfl, sessions]
  · rw [quiet _ rfl, attached, attempts, replacedAttempts]
  · rw [quiet _ rfl, bindings, elsewhere _ rfl]
  · rw [quiet _ rfl, requests, elsewhere _ rfl]
  · rw [quiet _ rfl, replacements, elsewhere _ rfl]
  · rw [quiet _ rfl, still _ rfl, elsewhere _ rfl]
  · rw [quiet _ rfl, still _ rfl, elsewhere _ rfl]
  · simp only [List.any_eq_false, decide_eq_true_eq] at unused
    exact unused o (by rwa [elsewhere _ rfl]) same

/-- The decision commits exactly one replacement. -/
theorem decideReplacement_effects {old : Binding}
    (success : (decideReplacement platform clock policy events lost resources old).run
      (rules txNow).execute db = .ok (result, after)) :
    ∃ s e a b digest, Replaced platform clock db after lost resources old s e a b digest ∧
      result = { request := replacementRequest old.request resources digest
                 providerReference := none } := by
  have footprint : (decideReplacement platform clock policy events lost resources old).Submits
      (OnTables (.sessions :: replacementTables)) :=
    decideReplacement_submits (fun c on => on.mono (by decide)) (fun _ _ => by simp)
  have others : ∀ u, outside (.sessions :: replacementTables) u = true → after u = db u :=
    fun u other => run_outside footprint success other
  simp only [decideReplacement, Tx.run_bind, Tx.run_get, run_queryRow, run_scanBool,
    Tx.run_require, Tx.run_expect, Tx.run_pure] at success
  obtain ⟨_, _, ⟨rfl, rfl⟩, ⟨s, e, a⟩, _, ⟨rows, rfl⟩, b, _, ⟨binding, rfl⟩, safe, _,
    ⟨judged, rfl⟩, _, _, ⟨⟨rfl, fresh⟩, rfl⟩, digest, _, ⟨-, rfl⟩, _, _, ⟨-, rfl⟩, _, start,
    timely, _, _, committed, rfl, rfl⟩ := success
  cases Tx.run_unchanged replacementDeadline_submits timely
  obtain ⟨sessions, attempts, bindings, requests, replacements, journal, unused⟩ :=
    commitReplacement_effects committed
  have holds := judged.resolve_right fun refused => Bool.noConfusion refused.1
  exact ⟨s, e, a, b, digest, ⟨rows, binding, holds.2, fresh, unused, sessions, attempts, bindings,
    requests, replacements, journal, others⟩, rfl⟩

/-- A recorded decision is answered from the store, which is only read. -/
theorem replayReplacement_effects {old : Binding} {replacement : ID}
    (success : (replayReplacement platform clock policy old resources replacement).run
      (rules txNow).execute db = .ok (result, after)) :
    after = db ∧ sameResources result.request resources = true ∧
      ∃ request ∈ db .sandboxBindingRequests, request.sandboxBindingID = replacement ∧
        result.request = request.canonicalRequest := by
  refine ⟨Tx.run_unchanged replayReplacement_submits success, ?_⟩
  simp only [replayReplacement, Tx.run_bind, Tx.run_require, Tx.run_get, run_queryRow,
    Tx.run_pure] at success
  obtain ⟨⟨saved, _⟩, _, loaded, _, _, ⟨same, -⟩, _, _, -, _, _, -, _, _, -, _, _, -, _, _, -, _,
    _, -, rfl, -⟩ := success
  obtain ⟨-, request, member, bound, canonical, -⟩ := readSandboxBinding_ok loaded
  exact ⟨same, request, member, bound, canonical⟩

/-- ReplaceDeleted answers a recorded decision, or decides a replacement. -/
theorem replaceDeleted_effects
    (success : (replaceDeleted platform clock policy events lost resources).run
      (rules txNow).execute db = .ok (result, after)) :
    (∃ decided, (db .sandboxReplacements).find? (·.oldSandboxID = lost) = some decided ∧
        after = db ∧ sameResources result.request resources = true ∧
        ∃ request ∈ db .sandboxBindingRequests,
          request.sandboxBindingID = decided.newSandboxID ∧
          result.request = request.canonicalRequest) ∨
      ((db .sandboxReplacements).find? (·.oldSandboxID = lost) = none ∧
        ∃ old s e a b digest, old.request.scope.sandboxID = lost ∧
          Replaced platform clock db after lost resources old s e a b digest ∧
          result = { request := replacementRequest old.request resources digest
                     providerReference := none }) := by
  simp only [replaceDeleted, Tx.run_bind, Tx.run_require, Tx.run_get] at success
  obtain ⟨_, _, ⟨-, rfl⟩, first, _, read, _, _, locked, ⟨old, revision⟩, _, again, _, _, ⟨rfl, rfl⟩,
    success⟩ := success
  cases Tx.run_unchanged readSandboxBinding_submits read
  cases Tx.run_unchanged lockSandboxFence_submits locked
  obtain ⟨rfl, _, _, _, _, scope⟩ := readSandboxBinding_ok again
  split at success
  next decided found =>
    obtain ⟨rfl, same, stored⟩ := replayReplacement_effects success
    exact .inl ⟨decided, found, rfl, same, stored⟩
  next missing =>
    obtain ⟨s, e, a, b, digest, replaced, rfl⟩ := decideReplacement_effects success
    exact .inr ⟨missing, old, s, e, a, b, digest, scope, replaced, rfl⟩

end Effects
end ThinkPixelAR.Postgres
