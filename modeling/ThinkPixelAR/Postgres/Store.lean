import ThinkPixelAR.Postgres.Database

/-!
The tenant repositories (`store.go`, `attempt_fence.go`, `execution_creation.go`,
`local_grants.go`). A query that takes row locks reads the same rows as one that does
not: a transaction runs alone between its first statement and its commit.
-/
namespace ThinkPixelAR.Postgres

open Relational
open Reconciliation (Work)

/-- One second; instants count nanoseconds. -/
def second : Time := 1000000000

/-- The instant a `timestamptz` parameter carries: the driver passes whole microseconds. -/
def timestamptz (t : Time) : Time := t / 1000 * 1000

theorem timestamptz_le (t : Time) : timestamptz t ≤ t := Int.ediv_mul_le t (by decide)

theorem lt_timestamptz {s t : Int} (earlier : s + 1000 ≤ t) : s < timestamptz t := by
  unfold timestamptz
  omega

/-! ### Sessions -/

namespace Sessions

def restore (row : SessionRow) : Except Error Session :=
  Session.restore row.id row.binding row.state row.recoveryState row.stateVersion
    row.executionGeneration row.createdAt row.updatedAt row.closedAt

def add (value : Session) : Transaction Unit :=
  execWrapped "insert session"
    (.insert .sessions { value with currentExecutionID := none, currentCheckpointID := none })

def get (id : ID) : Transaction Session := do
  let db ← Tx.get
  let row ← Tx.expect ((db .sessions).find? (·.id = id)) (wrap "get session" .noRows)
  Tx.lift (restore row)

def update (value : Session) (expected : Nat) : Transaction Unit :=
  affected "update session"
    (.update .sessions (fun s => s.id = value.id && s.stateVersion = expected)
      fun s => { s with
        state := value.state
        stateVersion := value.stateVersion
        executionGeneration := value.executionGeneration
        recoveryState := value.recoveryState
        updatedAt := value.updatedAt
        closedAt := value.closedAt })

/-- `GetForUpdate` serializes admission decisions. -/
def getForUpdate (id : ID) : Transaction Session := do
  let db ← Tx.get
  let _ ← Tx.expect ((db .sessions).find? (·.id = id)) (wrap "lock Session" .noRows)
  get id

/-- The admission of `Activate`, guarded by version, state, absence of a current
Execution and the preceding generation. -/
def activateStatement (value : Session) (expected : Nat) (executionID : ID) : Stmt :=
  .update .sessions
    (fun s => s.id = value.id && s.stateVersion = expected &&
      (s.state = .ready || s.state = .idle) && s.currentExecutionID = none &&
      s.executionGeneration + 1 = value.executionGeneration)
    fun s => { s with
      state := .active
      stateVersion := value.stateVersion
      executionGeneration := value.executionGeneration
      currentExecutionID := some executionID
      updatedAt := value.updatedAt }

def activate (value : Session) (expected : Nat) (executionID : ID) : Transaction Unit := do
  Tx.require (value.state = .active ∧ value.stateVersion = expected + 1)
    (.new "invalid Session admission")
  affected "activate Session" (activateStatement value expected executionID)

end Sessions

/-! ### Executions -/

/-- `executionTerminal` and `attemptTerminal`: no result writes no instant. -/
def terminalColumn (result : Option Execution.TerminalResult) (at_ : Option Time) : Option Time :=
  result.map fun _ => at_.getD 0

namespace Executions

def restore (row : Execution) : Except Error Execution :=
  Execution.restore row.id row.binding row.deadline row.state row.stateVersion
    row.terminalResult row.createdAt row.updatedAt row.terminalAt

def add (value : Execution) : Transaction Unit :=
  execWrapped "insert execution"
    (.insert .executions
      { value with terminalAt := terminalColumn value.terminalResult value.terminalAt })

def update (value : Execution) (expected : Nat) : Transaction Unit :=
  affected "update execution"
    (.update .executions (fun e => e.id = value.id && e.stateVersion = expected)
      fun e => { e with
        state := value.state
        stateVersion := value.stateVersion
        terminalResult := value.terminalResult
        updatedAt := value.updatedAt
        terminalAt := terminalColumn value.terminalResult value.terminalAt })

end Executions

/-! ### Attempts -/

namespace Attempts

/-- `lockParents`: Session, then Execution, before the Attempt row. -/
def lockParents (executionID : ID) : Transaction Unit := do
  let db ← Tx.get
  let execution := (db .executions).find? (·.id = executionID)
  let _ ← Tx.expect (execution.bind fun e =>
      (db .sessions).find? (·.id = e.binding.raw.sessionID)) (wrap "lock Attempt Session" .noRows)
  let _ ← Tx.expect execution (wrap "lock Attempt Execution" .noRows)

theorem lockParents_submits {executionID : ID} {P : Stmt → Prop} :
    (lockParents executionID).Submits P := by
  simp [lockParents]

def add (value : Attempt) : Transaction Unit := do
  lockParents value.binding.executionID
  execWrapped "insert attempt"
    (.insert .attempts
      { value with terminalAt := terminalColumn value.terminalResult value.terminalAt })

/-- The columns `Update` writes. -/
def assign (value row : Attempt) : Attempt :=
  { row with
    current := value.current
    state := value.state
    stateVersion := value.stateVersion
    sandboxReference := value.sandboxReference
    harnessReference := value.harnessReference
    sandboxHeartbeatAt := value.sandboxHeartbeatAt
    harnessHeartbeatAt := value.harnessHeartbeatAt
    terminalResult := value.terminalResult
    updatedAt := value.updatedAt
    terminalAt := terminalColumn value.terminalResult value.terminalAt }

def update (value : Attempt) (expected : Nat) : Transaction Unit := do
  lockParents value.binding.executionID
  affected "update attempt"
    (.update .attempts (fun a => a.id = value.id && a.stateVersion = expected) (assign value))

end Attempts

/-! ### Runtime events -/

namespace RuntimeEvents

def append (value : RuntimeEvent.Event) : Transaction Unit :=
  execWrapped "append runtime event" (.insert .runtimeEvents value)

end RuntimeEvents

/-! ### Idempotency records -/

namespace IdempotencyRecords

open Idempotency (Record)

/-- The instants of a record as the columns keep them. -/
def micros (value : Record) : Record :=
  { value with
    leaseExpiresAt := value.leaseExpiresAt.map timestamptz
    completedAt := value.completedAt.map timestamptz
    createdAt := timestamptz value.createdAt
    updatedAt := timestamptz value.updatedAt
    expiresAt := timestamptz value.expiresAt }

/-- `get`: the record of a scope. -/
def get (scope : Idempotency.Scope) : Transaction Record := do
  let db ← Tx.get
  let row ← Tx.expect ((db .idempotencyRecords).find? (·.scope = scope))
    (wrap "get idempotency record" .noRows)
  Tx.lift row.restore

/-- `Reserve`: insert the record, or return the one that holds its scope. The
result tells whether the record was created. -/
def reserve (value : Record) : Transaction (Record × Bool) := do
  let db ← Tx.get
  if (db .idempotencyRecords).any (·.scope = value.scope) then do
    let existing ← get value.scope
    Tx.require (existing.normalizationVersion = value.normalizationVersion ∧
      existing.requestDigest = value.requestDigest) errRequestDigestMismatch
    return (existing, false)
  else do
    execWrapped "reserve idempotency record"
      (.insert .idempotencyRecords (micros
        { value with
          leaseExpiresAt := some (value.leaseExpiresAt.getD 0)
          completedAt := none
          response := none
          failure := none }))
    return (value, true)

/-- The columns `Update` assigns. -/
def assign (value old : Record) : Record :=
  { old with
    state := value.state
    ownerID := value.ownerID
    ownerFence := value.ownerFence
    leaseExpiresAt := value.leaseExpiresAt
    response := value.response
    failure := value.failure
    updatedAt := value.updatedAt
    completedAt := value.completedAt }

def update (value : Record) (expectedFence : Nat) : Transaction Unit :=
  affected "update idempotency record"
    (.update .idempotencyRecords
      (fun r => r.id = value.id && r.ownerFence = expectedFence && r.state = .inProgress)
      (assign (micros value)))

/-- Actions whose records are pinned: time alone never permits a second resource. -/
def pinnedActions : List String :=
  ["sessions.create.v1", "executions.create.v1", "executions.signal.v1"]

def expiryOrder (a b : Record) : Prop :=
  a.expiresAt < b.expiresAt ∨ (a.expiresAt = b.expiresAt ∧ a.id.bits ≤ b.id.bits)

instance : DecidableRel expiryOrder := fun a b =>
  inferInstanceAs (Decidable (a.expiresAt < b.expiresAt ∨
    (a.expiresAt = b.expiresAt ∧ a.id.bits ≤ b.id.bits)))

/-- The rows `DeleteExpired` selects; `skip` are rows locked by others. -/
def expired (rows : List Record) (before : Time) (limit : Nat) (skip : ID → Bool) : List Record :=
  ((rows.filter fun r => r.state ≠ .inProgress && !pinnedActions.contains r.scope.action &&
    r.expiresAt ≤ before && !skip r.id).insertionSort expiryOrder).take limit

def deleteExpired (before : Time) (limit : Nat) (skip : ID → Bool) : Transaction Nat := do
  Tx.require (before ≠ 0 ∧ 1 ≤ limit ∧ limit ≤ 1000) (.new "invalid idempotency expiry request")
  let db ← Tx.get
  let chosen := (expired (db .idempotencyRecords) (timestamptz before) limit skip).map (·.id)
  Tx.perform (wrap "delete expired idempotency records" ·.error)
    (.delete .idempotencyRecords fun r => chosen.contains r.id)

end IdempotencyRecords

/-! ### Outbox -/

namespace OutboxMessages

def get (id : ID) : Transaction Outbox.Message := do
  let db ← Tx.get
  let row ← Tx.expect ((db .outboxMessages).find? (·.id = id)) (wrap "scan outbox message" .noRows)
  Tx.lift row.restore

def claimOrder (a b : Outbox.Message) : Prop :=
  a.availableAt < b.availableAt ∨ (a.availableAt = b.availableAt ∧ a.id.bits ≤ b.id.bits)

instance : DecidableRel claimOrder := fun a b =>
  inferInstanceAs (Decidable (a.availableAt < b.availableAt ∨
    (a.availableAt = b.availableAt ∧ a.id.bits ≤ b.id.bits)))

/-- The candidates of `ClaimAvailable`; `skip` are rows locked by others. -/
def available (rows : List Outbox.Message) (now : Time) (limit : Nat) (skip : ID → Bool) :
    List Outbox.Message :=
  ((rows.filter fun m => m.availableAt ≤ now &&
    (m.state = .pending || (m.state = .claimed && m.claimExpiresAt.any (· ≤ now))) &&
    !skip m.id).insertionSort claimOrder).take limit

/-- The columns the claiming update writes. -/
def claimed (ownerID : ID) (now leaseExpiresAt : Time) (m : Outbox.Message) : Outbox.Message :=
  { m with
    state := .claimed
    attempts := m.attempts + 1
    ownerID := some ownerID
    claimFence := m.claimFence + 1
    claimExpiresAt := some leaseExpiresAt
    updatedAt := now }

end OutboxMessages

/-! ### Reconciliation work -/

namespace ReconciliationWork

def claimOrder (a b : Work) : Prop :=
  a.nextAttemptAt < b.nextAttemptAt ∨
    (a.nextAttemptAt = b.nextAttemptAt ∧ a.id.bits ≤ b.id.bits)

instance : DecidableRel claimOrder := fun a b =>
  inferInstanceAs (Decidable (a.nextAttemptAt < b.nextAttemptAt ∨
    (a.nextAttemptAt = b.nextAttemptAt ∧ a.id.bits ≤ b.id.bits)))

/-- The candidates of `ClaimAvailable`; `skip` are rows locked by others. -/
def available (rows : List Work) (now : Time) (limit : Nat) (skip : ID → Bool) :
    List Work :=
  ((rows.filter fun w => w.nextAttemptAt ≤ now &&
    (w.state = .pending || (w.state = .claimed && w.claimExpiresAt.any (· ≤ now))) &&
    !skip w.id).insertionSort claimOrder).take limit

/-- The columns a claiming update writes. -/
def claimed (ownerID : ID) (now leaseExpiresAt : Time) (w : Work) :
    Work :=
  { w with
    state := .claimed
    attempts := w.attempts + 1
    ownerID := some ownerID
    claimFence := w.claimFence + 1
    claimExpiresAt := some leaseExpiresAt
    updatedAt := now }

end ReconciliationWork

/-! ### Cleanup intents -/

namespace CleanupIntents

def add (value : Cleanup.Intent) : Transaction Unit :=
  execWrapped "insert cleanup intent"
    (.insert .cleanupIntents
      { value with lastErrorCode := none, confirmedAt := none, quarantinedAt := none })

/-- The columns `Update` writes. -/
def assign (value row : Cleanup.Intent) : Cleanup.Intent :=
  { row with
    state := value.state
    stateVersion := value.stateVersion
    attempts := value.attempts
    nextAttemptAt := value.nextAttemptAt
    lastErrorCode := value.lastErrorCode
    updatedAt := value.updatedAt
    confirmedAt := value.confirmedAt
    quarantinedAt := value.quarantinedAt }

def update (value : Cleanup.Intent) (expectedVersion : Nat) : Transaction Unit :=
  affected "update cleanup intent"
    (.update .cleanupIntents
      (fun c => c.id = value.id && c.state = .pending && c.stateVersion = expectedVersion)
      (assign value))

end CleanupIntents

/-! ### Local grants -/

namespace LocalGrants

def add (id sessionID : ID) (snapshot : App.Grant) (digest : Digest) : Transaction Unit :=
  execWrapped "insert local grant"
    (.insert .localAuthorityGrants
      { id, sessionID, snapshot, snapshotDigest := digest, state := .active, stateVersion := 0
        terminalAt := none })

def transition (id : ID) (version : Nat) (state : GrantState) (at_ : Time) : Transaction Unit :=
  affected "transition local grant"
    (.update .localAuthorityGrants
      (fun g => g.id = id && g.stateVersion = version && g.state = .active)
      fun g => { g with
        state := state
        stateVersion := g.stateVersion + 1
        terminalAt := some at_ })

end LocalGrants
end ThinkPixelAR.Postgres
