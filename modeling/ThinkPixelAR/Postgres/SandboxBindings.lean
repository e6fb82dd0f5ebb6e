import ThinkPixelAR.Postgres.LifecycleEvents

/-!
Sandbox bindings and their fence (`sandbox_bindings.go`): how a transaction reads
an immutable acquisition request and whether its Session, Execution and Attempt
are still the ones it was made for.
-/
namespace ThinkPixelAR.Postgres

open Relational

variable {step : Stmt → Db → Except Fault (Nat × Db)} {db after : Db} {platform : Platform}
  {id : ID} {now : Time}

/-- The sandbox errors `bindingError` passes through. -/
def stableErrors : List Error :=
  [Sandbox.errInvalid, Sandbox.errUnsupported, Sandbox.errConflict, Sandbox.errNotFound,
    Sandbox.errUnavailable, Sandbox.errTimeout, Sandbox.errPermission, Sandbox.errIntegrity]

/-- `bindingError`, without cancellation and privilege errors. -/
def bindingError (e : Error) : Error :=
  match stableErrors.find? fun stable => e.is stable with
  | some stable => stable
  | none =>
    if e.is .noRows then Sandbox.errNotFound
    else if e.code = some "23505" || e.code = some "23503" || e.code = some "23514" then
      Sandbox.errConflict
    else Sandbox.errUnavailable

/-- A condition scanned into a Go `bool`; `NULL` does not convert. -/
def scanBool (t : Truth) : Transaction Bool :=
  match t with
  | .true => pure true
  | .false => pure false
  | .unknown => .fail (.new "converting NULL to bool is unsupported")

variable {t : Truth} {b : Sandbox.Binding} {revision : Nat}

@[simp] theorem run_scanBool {b : Bool} : (scanBool t).run step db = .ok (b, after) ↔
      ((b = true ∧ t.Holds) ∨ (b = false ∧ t.Fails)) ∧ after = db := by
  cases t <;> simp [scanBool, Truth.Holds, Truth.Fails]

@[simp] theorem submits_scanBool {P : Stmt → Prop} : (scanBool t).Submits P := by
  cases t <;> trivial

namespace SandboxBindings

/-- `SandboxBindings.transaction`. -/
def transaction {α : Type} (now : Time) (work : Transaction α) (db : Db) :
    Except Error (α × Db) :=
  ((rules now).commit Fault.error work db).mapError bindingError

end SandboxBindings

/-- `readSandboxBinding`: the stored request with its digest verified, the
provider reference, and the revision of the lifecycle journal. -/
def readSandboxBinding (platform : Platform) (id : ID) : Transaction (Sandbox.Binding × Nat) := do
  let db ← Tx.get
  let request ← queryRow ((db .sandboxBindingRequests).find? (·.sandboxBindingID = id))
  let binding ← queryRow ((db .sandboxBindings).find? (·.id = id))
  Tx.require (request.canonicalRequest.scope.sandboxID = id) Sandbox.errIntegrity
  let digest ← Tx.expect (Sandbox.requestDigest platform request.canonicalRequest)
    Sandbox.errIntegrity
  Tx.require (request.canonicalRequest.operation.digest = some digest) Sandbox.errIntegrity
  return ({ request := request.canonicalRequest, providerReference := binding.providerReference },
    request.operationRevision)

/-- The Attempt states in which compute may run. -/
def mayCompute : Attempt.State → Bool
  | .pending | .acquiring | .starting | .running => true
  | _ => false

/-- The condition `lockSandboxFence` selects from the joined rows. -/
def sandboxFence (now : Time) (r : Sandbox.AcquireRequest) (s : SessionRow) (e : Execution)
    (a : Attempt) : Truth :=
  .of (s.state = .active) &&& .compare (· = ·) s.currentExecutionID (some e.id) &&&
    .of (s.executionGeneration = r.scope.generation) &&&
    .of (e.state = .materializing ∨ e.state = .running) &&& .of (now < e.deadline) &&&
    .of (r.deadline ≤ e.deadline) &&& .of (a.current = true) &&&
    .of (a.binding.number = r.scope.attemptOrdinal) &&&
    .of (a.binding.executionGeneration = r.scope.generation) &&& .of (mayCompute a.state = true)

/-- The Session, Execution and Attempt of a scope, joined by their keys. -/
def scopeRows (db : Db) (scope : Sandbox.Scope) : Option (SessionRow × Execution × Attempt) := do
  let s ← (db .sessions).find? (·.id = scope.sessionID)
  let e ← (db .executions).find? fun e =>
    e.id = scope.executionID && e.binding.raw.sessionID = s.id
  let a ← (db .attempts).find? fun a => a.id = scope.attemptID && a.binding.executionID = e.id
  return (s, e, a)

theorem scopeRows_ok {scope : Sandbox.Scope} {s : SessionRow} {e : Execution} {a : Attempt}
    (rows : scopeRows db scope = some (s, e, a)) :
    (s ∈ db .sessions ∧ s.id = scope.sessionID) ∧
      (e ∈ db .executions ∧ e.id = scope.executionID ∧ e.binding.raw.sessionID = s.id) ∧
      a ∈ db .attempts ∧ a.id = scope.attemptID ∧ a.binding.executionID = e.id := by
  simp only [scopeRows, Option.bind_eq_bind, Option.bind_eq_some_iff, Option.pure_def,
    Option.some.injEq, Prod.mk.injEq] at rows
  obtain ⟨_, session, _, execution, _, attempt, rfl, rfl, rfl⟩ := rows
  have key := List.find?_some session
  have key' := List.find?_some execution
  have key'' := List.find?_some attempt
  simp only [Bool.and_eq_true, decide_eq_true_eq] at key key' key''
  exact ⟨⟨List.mem_of_find?_eq_some session, key⟩,
    ⟨List.mem_of_find?_eq_some execution, key'⟩, List.mem_of_find?_eq_some attempt, key''⟩

/-- `lockSandboxFence`: whether the request is still the current compute of its
Session. A false result permits only independently authorized cleanup. -/
def lockSandboxFence (now : Time) (r : Sandbox.AcquireRequest) : Transaction Bool := do
  let db ← Tx.get
  let rows ← queryRow (scopeRows db r.scope)
  scanBool (sandboxFence now r rows.1 rows.2.1 rows.2.2)

/-- `queueCompute`: durable reconciliation work for the sandbox, once. -/
def queueCompute (now : Time) (id : ID) : Transaction Unit := do
  let db ← Tx.get
  Tx.onlyIf ((db .reconciliationWork).any (·.id = id) = false)
    (exec (.insert .reconciliationWork
      { id, targetID := id, ownerID := none, kind := "sandbox.reconcile", targetType := "sandbox"
        lastErrorCode := none, state := .pending, attempts := 0, claimFence := 0
        nextAttemptAt := now, claimExpiresAt := none, completedAt := none, createdAt := now
        updatedAt := now }))
  let db ← Tx.get
  let work ← queryRow ((db .reconciliationWork).find? (·.id = id))
  Tx.require (work.kind = "sandbox.reconcile" ∧ work.targetType = "sandbox" ∧ work.targetID = id)
    Sandbox.errIntegrity

/-! ### Footprints -/

section Submits
variable {P : Stmt → Prop}

theorem readSandboxBinding_submits : (readSandboxBinding platform id).Submits P := by
  simp [readSandboxBinding]

theorem lockSandboxFence_submits {r : Sandbox.AcquireRequest} :
    (lockSandboxFence now r).Submits P := by
  simp [lockSandboxFence]

theorem queueCompute_submits : (queueCompute now id).Submits (OnTables [.reconciliationWork]) := by
  unfold queueCompute
  rw [Tx.submits_get_bind]
  intro db
  refine .bind ?_ fun _ => by simp
  simp

end Submits

/-! ### What the reads return -/

/-- The two rows of a sandbox, with the digest of the request verified. -/
structure Stored (platform : Platform) (db : Db) (id : ID) (q : SandboxBindingRequestRow)
    (row : SandboxBindingRow) : Prop where
  request : (db .sandboxBindingRequests).find? (·.sandboxBindingID = id) = some q
  binding : (db .sandboxBindings).find? (·.id = id) = some row
  scope : q.canonicalRequest.scope.sandboxID = id
  digest : ∃ d, Sandbox.requestDigest platform q.canonicalRequest = some d ∧
    q.canonicalRequest.operation.digest = some d

/-- `readSandboxBinding` succeeds exactly on stored sandboxes. -/
theorem run_readSandboxBinding :
    (readSandboxBinding platform id).run step db = .ok ((b, revision), after) ↔
      after = db ∧ ∃ q row, Stored platform db id q row ∧
        b = { request := q.canonicalRequest, providerReference := row.providerReference } ∧
        revision = q.operationRevision := by
  simp only [readSandboxBinding, Tx.run_bind, Tx.run_get, run_queryRow, Tx.run_require,
    Tx.run_expect, Tx.run_pure, Prod.mk.injEq]
  constructor
  · rintro ⟨_, _, ⟨rfl, rfl⟩, q, _, ⟨request, rfl⟩, row, _, ⟨binding, rfl⟩, _, _,
      ⟨scope, rfl⟩, d, _,
      ⟨digest, rfl⟩, _, _, ⟨same, rfl⟩, ⟨rfl, rfl⟩, rfl⟩
    exact ⟨rfl, q, row, ⟨request, binding, scope, d, digest, same⟩, rfl, rfl⟩
  · rintro ⟨rfl, q, row, stored, rfl, rfl⟩
    obtain ⟨d, digest, same⟩ := stored.digest
    exact ⟨_, _, ⟨rfl, rfl⟩, q, _, ⟨stored.request, rfl⟩, row, _, ⟨stored.binding, rfl⟩, (), _,
      ⟨stored.scope, rfl⟩, d, _, ⟨digest, rfl⟩, (), _, ⟨same, rfl⟩, ⟨rfl, rfl⟩, rfl⟩

theorem Stored.mem {q : SandboxBindingRequestRow} {row : SandboxBindingRow}
    (stored : Stored platform db id q row) :
    (q ∈ db .sandboxBindingRequests ∧ q.sandboxBindingID = id) ∧
      row ∈ db .sandboxBindings ∧ row.id = id :=
  ⟨⟨List.mem_of_find?_eq_some stored.request, by simpa using List.find?_some stored.request⟩,
    List.mem_of_find?_eq_some stored.binding, by simpa using List.find?_some stored.binding⟩

/-- The result of `lockSandboxFence`: the condition is known for the joined rows. -/
def Fenced (now : Time) (db : Db) (r : Sandbox.AcquireRequest) (current : Bool) : Prop :=
  ∃ s e a, scopeRows db r.scope = some (s, e, a) ∧
    ((current = true ∧ (sandboxFence now r s e a).Holds) ∨
      (current = false ∧ (sandboxFence now r s e a).Fails))

theorem run_lockSandboxFence {r : Sandbox.AcquireRequest} {current : Bool} :
    (lockSandboxFence now r).run step db = .ok (current, after) ↔
      after = db ∧ Fenced now db r current := by
  simp only [lockSandboxFence, Tx.run_bind, Tx.run_get, run_queryRow, run_scanBool]
  constructor
  · rintro ⟨_, _, ⟨rfl, rfl⟩, ⟨s, e, a⟩, _, ⟨rows, rfl⟩, fence, rfl⟩
    exact ⟨rfl, s, e, a, rows, fence⟩
  · rintro ⟨rfl, s, e, a, rows, fence⟩
    exact ⟨_, _, ⟨rfl, rfl⟩, (s, e, a), _, ⟨rows, rfl⟩, fence, rfl⟩

/-- What `readSandboxBinding` returns: the stored request, with its digest verified. -/
theorem readSandboxBinding_ok
    (success : (readSandboxBinding platform id).run (rules now).execute db =
      .ok ((b, revision), after)) :
    after = db ∧ ∃ request ∈ db .sandboxBindingRequests, request.sandboxBindingID = id ∧
      b.request = request.canonicalRequest ∧ b.request.scope.sandboxID = id := by
  obtain ⟨rfl, q, row, stored, rfl, -⟩ := run_readSandboxBinding.mp success
  exact ⟨rfl, q, stored.mem.1.1, stored.mem.1.2, rfl, stored.scope⟩

end ThinkPixelAR.Postgres
