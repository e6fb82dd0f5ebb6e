import ThinkPixelAR.Postgres.Constraints

/-!
Transactions over the store, the translation of store faults into Go errors
(`store.go`), and the facts every accepted statement leaves behind.
-/
namespace ThinkPixelAR.Postgres

open Relational

variable {db after : Db} {now : Time} {n : Nat} {α κ : Type} {t u : Table} {tables : List Table}

abbrev Stmt := Statement Row

/-- A transaction body; its error is what the surrounding Go function returns. -/
abbrev Transaction (α : Type) := Program Row Fault Error α

/-! ### Errors -/

def SqlState.code : SqlState → String
  | .uniqueViolation => "23505"
  | .foreignKeyViolation => "23503"
  | .checkViolation => "23514"
  | .numericOutOfRange => "22003"

/-- The `pgconn.PgError` of a refused statement. -/
def Fault.error (f : Fault) : Error := .database f.state.code f.message

def errNotFound : Error := .new "persistent resource not found"
def errConflict : Error := .new "persistent resource conflict"
def errRequestDigestMismatch : Error := .new "idempotency request digest mismatch"

/-- `wrap`; serialization failures do not occur when transactions run one at a time. -/
def wrap (operation : String) (e : Error) : Error :=
  if e.is .noRows then .wrap operation errNotFound
  else if e.code = some "23505" then .wrap operation errConflict
  else .wrap operation e

/-- `CURRENT_TIMESTAMP` of a transaction and its successive `clock_timestamp()`s. -/
structure Clock where
  transaction : Time
  reading : Nat → Time

/-- `ExecContext` whose result is not inspected. -/
def exec (s : Stmt) : Transaction Unit := do
  let _ ← Tx.perform Fault.error s

/-- `QueryRowContext(...).Scan`. -/
def queryRow {α : Type} (o : Option α) : Transaction α := Tx.expect o .noRows

/-- A statement whose row count is not checked. -/
def execWrapped (operation : String) (s : Stmt) : Transaction Unit := do
  let _ ← Tx.perform (wrap operation ·.error) s

/-- `affected`: the statement must touch exactly one row. -/
def affected (operation : String) (s : Stmt) : Transaction Unit := do
  let n ← Tx.perform (wrap operation ·.error) s
  Tx.require (n = 1) (.wrap operation errConflict)

/-- `Store.WithinTransaction`; `now` is the timestamp of the transaction. -/
def withinTransaction {α : Type} (now : Time) (work : Transaction α) (db : Db) :
    Except Error (α × Db) :=
  (rules now).commit (fun f => .wrap "commit transaction" f.error) work db

section Run
variable {step : Stmt → Db → Except Fault (Nat × Db)} {s : Stmt} {u : Unit} {operation : String}
  {P : Stmt → Prop}

@[simp] theorem run_exec :
    (exec s).run step db = .ok (u, after) ↔ ∃ n, step s db = .ok (n, after) := by
  simp [exec]

@[simp] theorem run_execWrapped :
    (execWrapped operation s).run step db = .ok (u, after) ↔ ∃ n, step s db = .ok (n, after) := by
  simp [execWrapped]

@[simp] theorem run_affected :
    (affected operation s).run step db = .ok (u, after) ↔ step s db = .ok (1, after) := by
  simp [affected]

@[simp] theorem run_queryRow {o : Option α} {a : α} :
    (queryRow o).run step db = .ok (a, after) ↔ o = some a ∧ after = db := by
  simp [queryRow]

@[simp] theorem submits_exec : (exec s).Submits P ↔ P s := by
  simp [exec]

@[simp] theorem submits_execWrapped : (execWrapped operation s).Submits P ↔ P s := by
  simp [execWrapped]

@[simp] theorem submits_affected : (affected operation s).Submits P ↔ P s := by
  simp [affected]

@[simp] theorem submits_queryRow_bind {β : Type} {o : Option α} {f : α → Transaction β} :
    (queryRow o >>= f).Submits P ↔ ∀ a, o = some a → (f a).Submits P := by
  simp [queryRow]

end Run

/-! ### Accepted statements -/

/-- The constraints checked after every statement. -/
structure Sound (db : Db) : Prop where
  range : ∀ t, ∀ row ∈ db t, inRange t row = true
  check : ∀ t, ∀ row ∈ db t, checks t row = true
  key : ∀ t, keys t db = true
  foreign : ∀ t, foreignKeys t db = true

theorem immediate_ok : immediate db = .ok () ↔ Sound db := by
  unfold immediate
  simp only [except_seq_ok, refuse_ok, not_not]
  constructor
  · rintro ⟨range, check, key, foreign⟩
    exact ⟨fun t => range t (Table.mem_all t), fun t => check t (Table.mem_all t),
      fun t => key t (Table.mem_all t), fun t => foreign t (Table.mem_all t)⟩
  · rintro ⟨range, check, key, foreign⟩
    exact ⟨fun t _ => range t, fun t _ => check t, fun t _ => key t, fun t _ => foreign t⟩

/-- The constraints checked at commit. -/
def Settled (db : Db) : Prop := ∀ t, deferredForeignKeys t db = true

theorem deferred_ok : deferred db = .ok () ↔ Settled db := by
  unfold deferred Settled
  simp only [refuse_ok, not_not]
  exact ⟨fun all t => all t (Table.mem_all t), fun all t _ => all t⟩

instance (db : Db) : Decidable (Sound db) :=
  decidable_of_iff (immediate db = .ok ()) immediate_ok

instance (db : Db) : Decidable (Settled db) :=
  decidable_of_iff (deferred db = .ok ()) deferred_ok

variable {c : Stmt} {a : α} {x : Transaction α} {key : α → κ} {rows : List α} {row : Row t}
  {selects : Row t → Bool} {set : Row t → Row t}

theorem execute_sound (success : (rules now).execute c db = .ok (n, after)) : Sound after :=
  immediate_ok.mp (Rules.execute_immediate success)

theorem run_sound (before : Sound db) (success : x.run (rules now).execute db = .ok (a, after)) :
    Sound after :=
  Tx.run_preserves (I := Sound) (fun _ _ _ _ _ _ accepted => execute_sound accepted)
    (Tx.submits_true x) before success

/-- A committed transaction leaves a store that satisfies the schema. -/
theorem commit_sound (before : Sound db)
    (committed : (rules now).commit Fault.error x db = .ok (a, after)) : Sound after :=
  run_sound before (Rules.commit_ok.mp committed).1

theorem withinTransaction_run (committed : withinTransaction now x db = .ok (a, after)) :
    x.run (rules now).execute db = .ok (a, after) :=
  (Rules.commit_ok.mp committed).1

theorem unique_iff [DecidableEq κ] :
    unique rows key = true ↔ UniqueOn rows (fun _ => true) key := decide_eq_true_iff

theorem uniqueWhere_iff [DecidableEq κ] {p : α → Bool} :
    uniqueWhere rows p key = true ↔ UniqueOn rows p key := decide_eq_true_iff

theorem references_iff {β : Type} [DecidableEq κ] {children : List α} {reference : α → Option κ}
    {parents : List β} {key : β → κ} :
    references children reference parents key = true ↔
      References children reference parents key := decide_eq_true_iff

theorem keys_congr (same : after t = db t) : keys t after = keys t db := by
  cases t <;> simp only [keys, same]

/-- Rewriting the rows of one table keeps a sound store sound if the rows satisfy
their own constraints and the keys and references are kept. -/
theorem Sound.rewritten {rows : List (Row t)} (sound : Sound db)
    (range : ∀ row ∈ rows, inRange t row = true) (check : ∀ row ∈ rows, checks t row = true)
    (key : keys t (Function.update db t rows) = true)
    (foreign : ∀ u, foreignKeys u (Function.update db t rows) = true) :
    Sound (Function.update db t rows) := by
  have others : ∀ u, u ≠ t → Function.update db t rows u = db u :=
    fun u other => Function.update_of_ne other _ _
  refine ⟨fun u row member => ?_, fun u row member => ?_, fun u => ?_, foreign⟩
  all_goals by_cases same : u = t
  · subst same
    rw [Function.update_self] at member
    exact range row member
  · exact sound.range u row (others u same ▸ member)
  · subst same
    rw [Function.update_self] at member
    exact check row member
  · exact sound.check u row (others u same ▸ member)
  · subst same
    exact key
  · rw [keys_congr (others u same)]
    exact sound.key u

/-- Appending a runtime event also writes its stream; no other insert writes a
second table. -/
def touches (t u : Table) : Prop := t = .runtimeEvents ∧ u = .runtimeEventStreams

theorem rules_confined (now : Time) : (rules now).Confined touches := by
  intro t db row prepared trigger u untouched
  cases t
  case attempts =>
    obtain ⟨-, same⟩ := except_seq_ok.mp (show _ = _ from trigger)
    cases same
    rfl
  case runtimeEvents =>
    have other : u ≠ .runtimeEventStreams := fun same => untouched ⟨rfl, same⟩
    obtain ⟨middle, allocated, later⟩ := except_bind_ok.mp (show _ = _ from trigger)
    obtain ⟨-, same⟩ := except_seq_ok.mp later
    cases same
    obtain ⟨-, same⟩ := except_seq_ok.mp (show _ = _ from allocated)
    cases same
    exact Function.update_of_ne other _ _
  all_goals
    cases trigger
    rfl

/-- A statement changes its own table, and the stream of an appended event. -/
theorem execute_other (success : (rules now).execute c db = .ok (n, after)) (other : u ≠ c.table)
    (untouched : ¬ touches c.table u) : after u = db u :=
  Rules.execute_frame (rules_confined now) success other untouched

theorem updateTrigger_sessions {old new : SessionRow}
    (accepted : (rules now).updateTrigger .sessions db old new = .ok ()) :
    enforceSessionExecutionEpoch old new = .ok () ∧ rejectSessionBindingChange old new = .ok () :=
  except_seq_ok.mp accepted

/-- An update keeps the identity and the runtime binding of a Session. -/
theorem session_identity {old new : SessionRow}
    (accepted : (rules now).updateTrigger .sessions db old new = .ok ()) :
    new.id = old.id ∧ new.binding = old.binding := by
  have kept := refuse_ok.mp (updateTrigger_sessions accepted).2
  simpa only [not_or, not_not] using kept

theorem origin (accepted : (rules now).execute c db = .ok (n, after))
    (stream : t ≠ .runtimeEventStreams) (member : row ∈ after t) : Origin (rules now) db c t row :=
  Rules.execute_origin (rules_confined now) accepted (fun touched => stream touched.2) member

theorem fate (accepted : (rules now).execute c db = .ok (n, after))
    (stream : t ≠ .runtimeEventStreams) {old : Row t} (member : old ∈ db t) :
    Fate db after c t old :=
  Rules.execute_fate (rules_confined now) accepted (fun touched => stream touched.2) member

/-! ### Footprints -/

/-- The statement is addressed to one of the tables. -/
def OnTables (tables : List Table) (c : Stmt) : Prop := c.table ∈ tables

@[simp] theorem onTables_insert :
    OnTables tables (.insert t row) ↔ t ∈ tables := Iff.rfl

@[simp] theorem onTables_update :
    OnTables tables (.update t selects set) ↔ t ∈ tables := Iff.rfl

theorem OnTables.mono {small large : List Table} (included : small ⊆ large) (on : OnTables small c)
    : OnTables large c := included on

/-- `u` is not written by statements on the tables, nor by their triggers. -/
def outside (tables : List Table) (u : Table) : Bool :=
  !tables.contains u && (u ≠ .runtimeEventStreams || !tables.contains .runtimeEvents)

theorem outside_cons :
    outside (t :: tables) u = true ↔ outside [t] u = true ∧ outside tables u = true := by
  simp only [outside, Bool.and_eq_true, Bool.not_eq_true', List.contains_eq_mem,
    decide_eq_false_iff_not, Bool.or_eq_true, decide_eq_true_eq, List.mem_cons, not_or,
    List.not_mem_nil, not_false_eq_true, and_true]
  tauto

theorem OnTables.frame (on : OnTables tables c) (other : outside tables u = true) :
    u ≠ c.table ∧ ¬ touches c.table u := by
  simp only [outside, Bool.and_eq_true, Bool.not_eq_true', List.contains_eq_mem,
    decide_eq_false_iff_not, Bool.or_eq_true, decide_eq_true_eq] at other
  refine ⟨fun same => other.1 (same ▸ on), fun ⟨events, stream⟩ => ?_⟩
  exact other.2.elim (fun absent => absent stream) fun absent => absent (events ▸ on)

/-- A statement leaves alone every table outside its own. -/
theorem execute_outside (accepted : (rules now).execute c db = .ok (n, after))
    (other : outside [c.table] u = true) : after u = db u :=
  have frame := OnTables.frame (List.mem_singleton.mpr rfl : OnTables [c.table] c) other
  execute_other accepted frame.1 frame.2

theorem execute_insert_rows (accepted : (rules now).execute (.insert t row) db = .ok (n, after)) :
    after t = db t ++ [row] := by
  obtain ⟨prepared, trigger, rfl, -, -⟩ := Rules.execute_insert.mp accepted
  have same : prepared t = db t := rules_confined now t db row prepared trigger t
    fun ⟨events, stream⟩ => by simp [events] at stream
  rw [Function.update_self, same]

theorem execute_update_rows
    (accepted : (rules now).execute (.update t selects set) db = .ok (n, after)) :
    after t = updated selects set (db t) := by
  rw [(Rules.execute_update.mp accepted).2.1, Function.update_self]

/-- A transaction leaves alone every table outside its footprint. -/
theorem run_outside (submits : x.Submits (OnTables tables))
    (success : x.run (rules now).execute db = .ok (a, after)) (other : outside tables u = true) :
    after u = db u :=
  Rules.run_frame (rules_confined now) (submits.mono fun _ on => on.frame other) success

end ThinkPixelAR.Postgres
