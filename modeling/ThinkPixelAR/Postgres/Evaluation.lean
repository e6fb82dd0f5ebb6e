import ThinkPixelAR.Adapters.Codex.Utf8
import ThinkPixelAR.Postgres.Database

/-!
Evaluation of transactions on concrete stores. After a statement only the rows it may
have written are checked, besides the keys of their tables and the foreign keys; that is
enough in a sound store. The texts of events are decoded from their bytes, which takes
fewer steps.
-/
namespace ThinkPixelAR.Postgres

open Relational

variable {db store : Db} {now : Time} {α : Type}

/-- The tables a statement on `t` writes, with those of its trigger. -/
def writtenBy (t : Table) : List Table :=
  if t = .runtimeEvents then [t, .runtimeEventStreams] else [t]

/-- The characters of a text, from its bytes. -/
def charsOf (text : String) : List Char := Codex.runes (Codex.bytesOf text)

theorem charsOf_eq (text : String) : charsOf text = text.toList := by
  have bytes := Codex.toUTF8_toList text
  rw [Codex.byteArray_toList] at bytes
  exact (congrArg Codex.runes bytes).trans (Codex.runes_encode text.toList)

/-- `checks`, with the payload of an event decoded from its bytes. -/
def checksOn : (t : Table) → Row t → Bool
  | .runtimeEvents, e =>
    runtimeEventCheck { e with payload := "\x7b\x7d" } &&
      (Json.decodeChars (charsOf e.payload)).any Json.isObject
  | t, row => checks t row

theorem checksOn_eq (t : Table) (row : Row t) : checksOn t row = checks t row := by
  cases t with
  | runtimeEvents =>
    have object : (Json.decode "\x7b\x7d").any Json.isObject = true := by decide +kernel
    have decoded : Json.decodeChars (charsOf row.payload) = Json.decode row.payload := by
      rw [charsOf_eq, Json.decode]
    simp only [checksOn, checks, runtimeEventCheck, object, decoded, Bool.and_true]
    ac_rfl
  | _ => rfl

/-- `db` with only the last row of a table that a statement has inserted into. -/
def fresh : Stmt → Db → Db
  | .insert t _, db => Function.update db t (db t).getLast?.toList
  | _, db => db

/-- The constraints on the rows a statement may have written, and all foreign keys. -/
def immediateOn (c : Stmt) (db : Db) : Except Fault Unit := do
  refuse (¬ ∀ t ∈ writtenBy c.table, ∀ row ∈ fresh c db t, inRange t row = true)
    ⟨.numericOutOfRange, "bigint out of range"⟩
  refuse (¬ ∀ t ∈ writtenBy c.table, ∀ row ∈ fresh c db t, checksOn t row = true)
    ⟨.checkViolation, "violates check constraint"⟩
  refuse (¬ ∀ t ∈ writtenBy c.table, keys t db = true) ⟨.uniqueViolation, "duplicate key value"⟩
  refuse (¬ ∀ t ∈ Table.all, foreignKeys t db = true)
    ⟨.foreignKeyViolation, "violates foreign key constraint"⟩

/-- The schema, checked on what the statement `c` writes. -/
def rulesOn (now : Time) (c : Stmt) : Rules Row Fault :=
  { rules now with immediate := immediateOn c }

def stepOn (now : Time) (c : Stmt) (db : Db) : Except Fault (Nat × Db) :=
  (rulesOn now c).execute c db

variable {after : Db} {tables : List Table} {x : Transaction α} {c : Stmt} {n : Nat}

theorem not_mem_writtenBy {t u : Table} (other : u ∉ writtenBy t) : u ≠ t ∧ ¬ touches t u := by
  unfold writtenBy at other
  split at other
  next events =>
    simp only [List.mem_cons, List.not_mem_nil, or_false, not_or] at other
    exact ⟨other.1, fun touched => other.2 touched.2⟩
  next events => exact ⟨by simpa using other, fun touched => events touched.1⟩

theorem rulesOn_confined (c : Stmt) : (rulesOn now c).Confined touches := rules_confined now

/-- A row was stored before the statement, or is among those it is checked on. -/
theorem mem_fresh (success : stepOn now c db = .ok (n, after)) {t : Table} {row : Row t}
    (member : row ∈ after t) : row ∈ db t ∨ t ∈ writtenBy c.table ∧ row ∈ fresh c after t := by
  by_cases written : t ∈ writtenBy c.table
  · cases c with
    | insert u new =>
      obtain ⟨prepared, trigger, rfl, -, -⟩ := Rules.execute_insert.mp success
      by_cases same : t = u
      · subst same
        have kept : prepared t = db t := rulesOn_confined _ t db new prepared trigger t
          fun touched => Table.noConfusion (touched.1.symm.trans touched.2)
        rw [Function.update_self, kept, List.mem_append] at member
        refine member.imp id fun last => ⟨written, ?_⟩
        rw [fresh, Function.update_self, Function.update_self, List.getLast?_concat]
        exact last
      · refine .inr ⟨written, ?_⟩
        rw [fresh, Function.update_of_ne same]
        exact member
    | update | delete => exact .inr ⟨written, member⟩
  · have untouched := not_mem_writtenBy written
    exact .inl (Rules.execute_frame (rulesOn_confined c) success untouched.1 untouched.2 ▸ member)

/-- Checking what a statement may have written keeps a sound store sound. -/
theorem sound_stepOn (sound : Sound db) (success : stepOn now c db = .ok (n, after)) :
    Sound after := by
  have checked : immediateOn c after = .ok () := Rules.execute_immediate success
  simp only [immediateOn, checksOn_eq, except_seq_ok, refuse_ok, not_not] at checked
  obtain ⟨range, check, key, foreign⟩ := checked
  refine ⟨fun t row member => ?_, fun t row member => ?_, fun t => ?_,
    fun t => foreign t (Table.mem_all t)⟩
  · exact (mem_fresh success member).elim (sound.range t row) fun ⟨written, last⟩ =>
      range t written row last
  · exact (mem_fresh success member).elim (sound.check t row) fun ⟨written, last⟩ =>
      check t written row last
  · by_cases written : t ∈ writtenBy c.table
    · exact key t written
    · have untouched := not_mem_writtenBy written
      rw [keys_congr (Rules.execute_frame (rulesOn_confined c) success untouched.1 untouched.2)]
      exact sound.key t

/-- An accepted statement is accepted with other constraints that hold of what it leaves. -/
theorem execute_of_immediate {check : Db → Except Fault Unit}
    (success : stepOn now c db = .ok (n, after)) (checked : check after = .ok ()) :
    ({ rules now with immediate := check } : Rules Row Fault).execute c db = .ok (n, after) := by
  cases c with
  | insert t row =>
    obtain ⟨prepared, trigger, rows, -, count⟩ := Rules.execute_insert.mp success
    exact Rules.execute_insert.mpr ⟨prepared, trigger, rows, checked, count⟩
  | update t selects set =>
    obtain ⟨trigger, rows, -, count⟩ := Rules.execute_update.mp success
    exact Rules.execute_update.mpr ⟨trigger, rows, checked, count⟩
  | delete t selects =>
    obtain ⟨trigger, rows, -, count⟩ := Rules.execute_delete.mp success
    exact Rules.execute_delete.mpr ⟨trigger, rows, checked, count⟩

theorem stepOn_ok (sound : Sound db) (success : stepOn now c db = .ok (n, after)) :
    (rules now).execute c db = .ok (n, after) ∧ Sound after := by
  have settled := sound_stepOn sound success
  exact ⟨execute_of_immediate success (immediate_ok.mpr settled), settled⟩

/-- The schema without its immediate constraints. -/
def unchecked (now : Time) : Rules Row Fault := { rules now with immediate := fun _ => .ok () }

/-- The store a transaction leaves if no constraint stops it; `db` if it fails. -/
def outcome {α : Type} (now : Time) (x : Transaction α) (db : Db) : Db :=
  match x.run (unchecked now).execute db with
  | .ok (_, after) => after
  | .error _ => db

theorem outcome_eq {a : α} (ran : x.run (stepOn now) db = .ok (a, after)) :
    outcome now x db = after := by
  have same : x.run (unchecked now).execute db = .ok (a, after) :=
    Tx.run_simulates (I := fun _ => True)
      (fun _ _ _ _ _ step => ⟨execute_of_immediate step rfl, trivial⟩) trivial ran
  rw [outcome, same]

/-- The tables that are written out; the texts of messages are not. -/
def writtenOut : List Table := Table.all.filter (· ≠ .outboxMessages)

/-- `store` with the messages the transaction leaves. -/
def leaving {α : Type} (now : Time) (x : Transaction α) (db store : Db) : Db :=
  Function.update store .outboxMessages (outcome now x db .outboxMessages)

/-- The transaction commits, into `store` up to messages. -/
def evaluatesTo {α : Type} (now : Time) (x : Transaction α) (db store : Db) : Bool :=
  match x.run (stepOn now) db with
  | .ok (_, after) => decide (Settled after) && decide (∀ t ∈ writtenOut, after t = store t)
  | .error _ => false

/-- A transaction with the store it commits to, up to messages. -/
structure Evaluated {α : Type} (now : Time) (x : Transaction α) (db : Db) where
  store : Db
  evaluates : evaluatesTo now x db store = true

theorem commits_of_evaluatesTo (sound : Sound db) (evaluated : evaluatesTo now x db store = true) :
    ∃ a, (rules now).commit Fault.error x db = .ok (a, leaving now x db store) := by
  unfold evaluatesTo at evaluated
  cases ran : x.run (stepOn now) db with
  | error e => simp [ran] at evaluated
  | ok result =>
    obtain ⟨a, after⟩ := result
    simp only [ran, Bool.and_eq_true, decide_eq_true_eq] at evaluated
    have equal : leaving now x db store = after := by
      funext t
      rw [leaving, outcome_eq ran]
      by_cases messages : t = .outboxMessages
      · subst messages
        exact Function.update_self ..
      · rw [Function.update_of_ne messages]
        have listed : t ∈ writtenOut :=
          List.mem_filter.mpr ⟨Table.mem_all t, decide_eq_true messages⟩
        exact (evaluated.2 t listed).symm
    rw [equal]
    exact ⟨a, Rules.commit_ok.mpr ⟨Tx.run_simulates (fun _ _ _ _ => stepOn_ok) sound ran,
      deferred_ok.mpr evaluated.1⟩⟩

theorem sound_leaving (sound : Sound db) (evaluated : evaluatesTo now x db store = true) :
    Sound (leaving now x db store) := by
  obtain ⟨a, committed⟩ := commits_of_evaluatesTo sound evaluated
  exact commit_sound sound committed

/-- A transaction that writes no messages leaves `store` itself. -/
theorem leaving_eq (sound : Sound db) (evaluated : evaluatesTo now x db store = true)
    (submits : x.Submits (OnTables tables)) (other : outside tables .outboxMessages = true)
    (same : store .outboxMessages = db .outboxMessages) : leaving now x db store = store := by
  obtain ⟨a, committed⟩ := commits_of_evaluatesTo sound evaluated
  have messages := run_outside submits (Rules.commit_ok.mp committed).1 other
  unfold leaving at messages ⊢
  rw [Function.update_self, ← same] at messages
  rw [messages, Function.update_eq_self]

/-- The transaction answers `a` and commits, into `store` up to messages. -/
def answers {α : Type} [DecidableEq α] (now : Time) (x : Transaction α) (db store : Db) (a : α) :
    Bool :=
  match x.run (stepOn now) db with
  | .ok (b, after) =>
    decide (b = a) && decide (Settled after) && decide (∀ t ∈ writtenOut, after t = store t)
  | .error _ => false

/-- A transaction with its answer and the store it commits to, up to messages. -/
structure Answered {α : Type} [DecidableEq α] (now : Time) (x : Transaction α) (db : Db) where
  store : Db
  answer : α
  answers : answers now x db store answer = true

theorem commits_of_answers [DecidableEq α] {a : α} (sound : Sound db)
    (answered : answers now x db store a = true) :
    (rules now).commit Fault.error x db = .ok (a, leaving now x db store) := by
  unfold answers at answered
  cases ran : x.run (stepOn now) db with
  | error e => simp [ran] at answered
  | ok result =>
    obtain ⟨b, after⟩ := result
    simp only [ran, Bool.and_eq_true, decide_eq_true_eq, and_assoc] at answered
    obtain ⟨same, settled, written⟩ := answered
    have evaluated : evaluatesTo now x db store = true := by
      simp only [evaluatesTo, ran, Bool.and_eq_true, decide_eq_true_eq]
      exact ⟨settled, written⟩
    obtain ⟨c, committed⟩ := commits_of_evaluatesTo sound evaluated
    have agrees := Tx.run_simulates (fun _ _ _ _ => stepOn_ok) sound ran
    rw [(Rules.commit_ok.mp committed).1, Except.ok.injEq] at agrees
    rw [← same, ← show c = b from congrArg Prod.fst agrees]
    exact committed

/-- The transaction commits, into a store with `p`. -/
def commitsOn {α : Type} (now : Time) (x : Transaction α) (db : Db) (p : Db → Bool) : Bool :=
  match x.run (stepOn now) db with
  | .ok (_, after) => decide (Settled after) && p after
  | .error _ => false

theorem commits_of_commitsOn {p : Db → Bool} (sound : Sound db)
    (evaluated : commitsOn now x db p = true) :
    ∃ a, (rules now).commit Fault.error x db = .ok (a, outcome now x db) ∧
      Sound (outcome now x db) ∧ p (outcome now x db) = true := by
  unfold commitsOn at evaluated
  cases ran : x.run (stepOn now) db with
  | error e => simp [ran] at evaluated
  | ok result =>
    obtain ⟨a, after⟩ := result
    simp only [ran, Bool.and_eq_true, decide_eq_true_eq] at evaluated
    obtain ⟨settled, holds⟩ := evaluated
    have committed : (rules now).commit Fault.error x db = .ok (a, after) := Rules.commit_ok.mpr
      ⟨Tx.run_simulates (fun _ _ _ _ => stepOn_ok) sound ran, deferred_ok.mpr settled⟩
    rw [outcome_eq ran]
    exact ⟨a, committed, commit_sound sound committed, holds⟩

/-- The result is the error `e`. -/
def failsWith {α : Type} (result : Except Error α) (e : Error) : Bool :=
  match result with
  | .ok _ => false
  | .error raised => raised = e

theorem eq_error_of_failsWith {result : Except Error α} {e : Error}
    (failed : failsWith result e = true) : result = .error e := by
  cases result with
  | ok a => cases failed
  | error raised => rw [of_decide_eq_true failed]

end ThinkPixelAR.Postgres
