import Mathlib.Data.List.Nodup
import Mathlib.Logic.Function.Basic
import ThinkPixelAR.Relational.Truth
import ThinkPixelAR.Relational.Transaction

/-!
Relational stores with row triggers and integrity constraints. A database gives
every table its rows; a statement inserts one row, or updates or deletes the
rows its condition selects. Row triggers see the store before the statement.
Immediate constraints are checked after every statement and deferred ones when
the transaction commits.
-/
namespace ThinkPixelAR.Relational

variable {T : Type} (Row : T → Type)

/-- The rows of every table. -/
abbrev Database := (t : T) → List (Row t)

inductive Statement where
  | insert (t : T) (row : Row t)
  | update (t : T) (selects : Row t → Bool) (set : Row t → Row t)
  | delete (t : T) (selects : Row t → Bool)

variable {Row} in
/-- The table a statement is addressed to. -/
def Statement.table : Statement Row → T
  | .insert t _ => t
  | .update t _ _ => t
  | .delete t _ => t

/-- What the schema adds to plain tables. An insert trigger may also write other
rows (a sequence, a counter); no trigger rewrites the row it judges. -/
structure Rules (φ : Type) where
  insertTrigger : (t : T) → Database Row → Row t → Except φ (Database Row)
  updateTrigger : (t : T) → Database Row → Row t → Row t → Except φ Unit
  deleteTrigger : (t : T) → Database Row → Row t → Except φ Unit
  immediate : Database Row → Except φ Unit
  deferred : Database Row → Except φ Unit

variable {Row} [DecidableEq T] {φ : Type}

/-- Rows of `t` after an update. -/
def updated {α : Type} (selects : α → Bool) (set : α → α) (rows : List α) : List α :=
  rows.map fun row => if selects row then set row else row

variable {α : Type}

theorem mem_updated {selects : α → Bool} {set : α → α} {rows : List α} {row : α} :
    row ∈ updated selects set rows ↔
      ∃ old ∈ rows, (selects old = true ∧ row = set old) ∨ (selects old = false ∧ row = old) := by
  unfold updated
  rw [List.mem_map]
  refine exists_congr fun old => and_congr_right fun _ => ?_
  cases selects old <;> simp [eq_comm]

/-- An update that selects no row changes nothing. -/
theorem updated_eq_self {selects : α → Bool} {set : α → α} {rows : List α}
    (none : ∀ row ∈ rows, selects row = false) : updated selects set rows = rows := by
  unfold updated
  conv_rhs => rw [← List.map_id rows]
  exact List.map_congr_left fun row member => by simp [none row member]

/-- Every row of `old` is still in `new`, up to `rel`. -/
def Keeps {α : Type} (rel : α → α → Prop) (old new : List α) : Prop :=
  ∀ a ∈ old, ∃ b ∈ new, rel a b

section Keeps
variable {α : Type} {rel : α → α → Prop} {old middle new rows : List α}

theorem Keeps.refl (reflexive : ∀ a, rel a a) : Keeps rel rows rows :=
  fun a member => ⟨a, member, reflexive a⟩

theorem Keeps.trans (transitive : ∀ {a b c}, rel a b → rel b c → rel a c)
    (first : Keeps rel old middle) (second : Keeps rel middle new) : Keeps rel old new := by
  intro a member
  obtain ⟨b, between, moved⟩ := first a member
  obtain ⟨c, present, again⟩ := second b between
  exact ⟨c, present, transitive moved again⟩

theorem Keeps.append (reflexive : ∀ a, rel a a) : Keeps rel rows (rows ++ new) :=
  fun a member => ⟨a, List.mem_append_left _ member, reflexive a⟩

theorem Keeps.updated {selects : α → Bool} {set : α → α} (reflexive : ∀ a, rel a a)
    (moved : ∀ a ∈ rows, selects a = true → rel a (set a)) :
    Keeps rel rows (updated selects set rows) := by
  intro a member
  cases selected : selects a with
  | true => exact ⟨set a, mem_updated.mpr ⟨a, member, .inl ⟨selected, rfl⟩⟩,
      moved a member selected⟩
  | false => exact ⟨a, mem_updated.mpr ⟨a, member, .inr ⟨selected, rfl⟩⟩, reflexive a⟩

end Keeps

namespace Rules

variable (rules : Rules Row φ)

/-- Run the check on each row, stopping at the first refusal. -/
def each {α : Type} (check : α → Except φ Unit) : List α → Except φ Unit
  | [] => .ok ()
  | a :: rest => do
    check a
    each check rest

/-- Execute one statement; the result counts the rows it touched. -/
def execute : Statement Row → Database Row → Except φ (Nat × Database Row)
  | .insert t row, db => do
    let prepared ← rules.insertTrigger t db row
    let after := Function.update prepared t (prepared t ++ [row])
    rules.immediate after
    return (1, after)
  | .update t selects set, db => do
    each (fun old => rules.updateTrigger t db old (set old)) ((db t).filter selects)
    let after := Function.update db t (updated selects set (db t))
    rules.immediate after
    return ((db t).countP selects, after)
  | .delete t selects, db => do
    each (rules.deleteTrigger t db) ((db t).filter selects)
    let after := Function.update db t ((db t).filter fun row => !selects row)
    rules.immediate after
    return ((db t).countP selects, after)

end Rules

/-- Success of a sequence of checks. -/
theorem except_bind_ok {ε β : Type} {x : Except ε α} {f : α → Except ε β} {b : β} :
    (x >>= f) = .ok b ↔ ∃ a, x = .ok a ∧ f a = .ok b := by
  cases x with
  | error e | ok a => simp [Bind.bind, Except.bind]

/-- A refusal of the store, raised when the condition holds. -/
def refuse (p : Prop) [Decidable p] (fault : φ) : Except φ Unit :=
  if p then .error fault else .ok ()

@[simp] theorem refuse_ok {p : Prop} [Decidable p] {fault : φ} {u : Unit} :
    refuse p fault = .ok u ↔ ¬ p := by
  unfold refuse
  split <;> simp_all

theorem except_seq_ok {ε β : Type} {x : Except ε Unit} {y : Except ε β} {b : β} :
    (x >>= fun _ => y) = .ok b ↔ x = .ok () ∧ y = .ok b := by
  rw [except_bind_ok]
  exact ⟨fun ⟨_, first, second⟩ => ⟨first, second⟩, fun ⟨first, second⟩ => ⟨(), first, second⟩⟩

namespace Rules

theorem each_ok {check : α → Except φ Unit} {rows : List α} :
    each check rows = .ok () ↔ ∀ row ∈ rows, check row = .ok () := by
  induction rows with
  | nil => simp [each]
  | cons a rest ih => simp [each, except_seq_ok, ih]

variable {rules : Rules Row φ} {db after : Database Row} {n : Nat} {t : T}

theorem execute_insert {row : Row t} :
    rules.execute (.insert t row) db = .ok (n, after) ↔
      ∃ prepared, rules.insertTrigger t db row = .ok prepared ∧
        after = Function.update prepared t (prepared t ++ [row]) ∧
        rules.immediate after = .ok () ∧ n = 1 := by
  rw [execute, except_bind_ok]
  simp only [except_seq_ok, pure, Except.pure, Except.ok.injEq, Prod.mk.injEq]
  constructor
  · rintro ⟨prepared, trigger, check, rfl, rfl⟩
    exact ⟨prepared, trigger, rfl, check, rfl⟩
  · rintro ⟨prepared, trigger, rfl, check, rfl⟩
    exact ⟨prepared, trigger, check, rfl, rfl⟩

variable {selects : Row t → Bool} {c : Statement Row} {touches : T → T → Prop}

theorem execute_update {set : Row t → Row t} :
    rules.execute (.update t selects set) db = .ok (n, after) ↔
      (∀ old ∈ db t, selects old = true → rules.updateTrigger t db old (set old) = .ok ()) ∧
        after = Function.update db t (updated selects set (db t)) ∧
        rules.immediate after = .ok () ∧ n = (db t).countP selects := by
  simp only [execute, except_seq_ok, each_ok, List.mem_filter, and_imp, pure, Except.pure,
    Except.ok.injEq, Prod.mk.injEq]
  constructor
  · rintro ⟨trigger, check, rfl, rfl⟩
    exact ⟨trigger, rfl, check, rfl⟩
  · rintro ⟨trigger, rfl, check, rfl⟩
    exact ⟨trigger, check, rfl, rfl⟩

theorem execute_delete :
    rules.execute (.delete t selects) db = .ok (n, after) ↔
      (∀ old ∈ db t, selects old = true → rules.deleteTrigger t db old = .ok ()) ∧
        after = Function.update db t ((db t).filter fun row => !selects row) ∧
        rules.immediate after = .ok () ∧ n = (db t).countP selects := by
  simp only [execute, except_seq_ok, each_ok, List.mem_filter, and_imp, pure, Except.pure,
    Except.ok.injEq, Prod.mk.injEq]
  constructor
  · rintro ⟨trigger, check, rfl, rfl⟩
    exact ⟨trigger, rfl, check, rfl⟩
  · rintro ⟨trigger, rfl, check, rfl⟩
    exact ⟨trigger, check, rfl, rfl⟩

/-- Every accepted statement leaves the immediate constraints satisfied. -/
theorem execute_immediate (success : rules.execute c db = .ok (n, after)) :
    rules.immediate after = .ok () := by
  cases c with
  | insert t row =>
    obtain ⟨_, _, _, check, _⟩ := execute_insert.mp success
    exact check
  | update t selects set => exact (execute_update.mp success).2.2.1
  | delete t selects => exact (execute_delete.mp success).2.2.1

/-- Inserting into `t` may also write the tables `u` with `touches t u`, through
triggers, and no others. -/
def Confined (rules : Rules Row φ) (touches : T → T → Prop) : Prop :=
  ∀ t db row prepared, rules.insertTrigger t db row = .ok prepared →
    ∀ u, ¬ touches t u → prepared u = db u

/-- A statement changes its own table and the tables its trigger touches. -/
theorem execute_frame (confined : rules.Confined touches)
    (success : rules.execute c db = .ok (n, after)) {u : T} (other : u ≠ c.table)
    (untouched : ¬ touches c.table u) : after u = db u := by
  cases c with
  | insert t row =>
    obtain ⟨prepared, trigger, rfl, -, -⟩ := execute_insert.mp success
    exact (Function.update_of_ne other _ _).trans
      (confined t db row prepared trigger u untouched)
  | update t selects set =>
    rw [(execute_update.mp success).2.1]
    exact Function.update_of_ne other _ _
  | delete t selects =>
    rw [(execute_delete.mp success).2.1]
    exact Function.update_of_ne other _ _

/-- A transaction changes only tables its statements are addressed to or touch. -/
theorem run_frame {ε : Type} (confined : rules.Confined touches) {u : T}
    {x : Tx (Database Row) (Statement Row) φ ε α}
    (submits : x.Submits fun c => u ≠ c.table ∧ ¬ touches c.table u) {a : α}
    (success : x.run rules.execute db = .ok (a, after)) : after u = db u :=
  Tx.run_preserves (I := fun s => s u = db u)
    (fun _ _ _ _ clear before accepted =>
      (execute_frame confined accepted clear.1 clear.2).trans before)
    submits rfl success

end Rules

/-! ### Rows across a statement -/

/-- How a row of `t` after a statement came about: it was there before, the
statement inserted it, or the statement wrote it in place of `old`. -/
inductive Origin (rules : Rules Row φ) (db : Database Row) :
    Statement Row → (t : T) → Row t → Prop
  | kept {c : Statement Row} {t : T} {row : Row t} (member : row ∈ db t) : Origin rules db c t row
  | inserted {t : T} {row : Row t} {prepared : Database Row}
      (trigger : rules.insertTrigger t db row = .ok prepared) :
      Origin rules db (.insert t row) t row
  | written {t : T} {selects : Row t → Bool} {set : Row t → Row t} {old : Row t}
      (member : old ∈ db t) (selected : selects old = true)
      (trigger : rules.updateTrigger t db old (set old) = .ok ()) :
      Origin rules db (.update t selects set) t (set old)

/-- What becomes of a row of `t`: it stays, the statement writes `set old` in its
place, or the statement deletes it. -/
inductive Fate (db after : Database Row) : Statement Row → (t : T) → Row t → Prop
  | kept {c : Statement Row} {t : T} {old : Row t} (member : old ∈ after t) :
      Fate db after c t old
  | written {t : T} {selects : Row t → Bool} {set : Row t → Row t} {old : Row t}
      (selected : selects old = true) (member : set old ∈ after t) :
      Fate db after (.update t selects set) t old
  | deleted {t : T} {selects : Row t → Bool} {old : Row t} (selected : selects old = true) :
      Fate db after (.delete t selects) t old

namespace Rules

variable {rules : Rules Row φ} {db after : Database Row} {n : Nat} {t : T} {c : Statement Row}
  {touches : T → T → Prop}

theorem execute_origin (confined : rules.Confined touches)
    (success : rules.execute c db = .ok (n, after)) (untouched : ¬ touches c.table t) {row : Row t}
    (member : row ∈ after t) : Origin rules db c t row := by
  by_cases other : t = c.table
  · cases c with
    | insert u new =>
      obtain rfl : t = u := other
      obtain ⟨prepared, trigger, rfl, -, -⟩ := execute_insert.mp success
      rw [Function.update_self, confined _ db new prepared trigger _ untouched] at member
      rcases List.mem_append.mp member with old | new
      · exact .kept old
      · cases List.mem_singleton.mp new
        exact .inserted trigger
    | update u selects set =>
      obtain rfl : t = u := other
      obtain ⟨triggers, rfl, -, -⟩ := execute_update.mp success
      rw [Function.update_self] at member
      obtain ⟨old, present, ⟨selected, rfl⟩ | ⟨-, rfl⟩⟩ := mem_updated.mp member
      · exact .written present selected (triggers old present selected)
      · exact .kept present
    | delete u selects =>
      obtain rfl : t = u := other
      obtain ⟨-, rfl, -, -⟩ := execute_delete.mp success
      rw [Function.update_self] at member
      exact .kept (List.mem_filter.mp member).1
  · exact .kept (execute_frame confined success other untouched ▸ member)

theorem execute_fate (confined : rules.Confined touches)
    (success : rules.execute c db = .ok (n, after)) (untouched : ¬ touches c.table t) {old : Row t}
    (member : old ∈ db t) : Fate db after c t old := by
  by_cases other : t = c.table
  · cases c with
    | insert u new =>
      obtain rfl : t = u := other
      obtain ⟨prepared, trigger, rfl, -, -⟩ := execute_insert.mp success
      refine .kept ?_
      rw [Function.update_self, confined _ db new prepared trigger _ untouched]
      exact List.mem_append_left _ member
    | update u selects set =>
      obtain rfl : t = u := other
      obtain ⟨-, rfl, -, -⟩ := execute_update.mp success
      cases selected : selects old with
      | true =>
        refine .written selected ?_
        rw [Function.update_self]
        exact mem_updated.mpr ⟨old, member, .inl ⟨selected, rfl⟩⟩
      | false =>
        refine .kept ?_
        rw [Function.update_self]
        exact mem_updated.mpr ⟨old, member, .inr ⟨selected, rfl⟩⟩
    | delete u selects =>
      obtain rfl : t = u := other
      obtain ⟨-, rfl, -, -⟩ := execute_delete.mp success
      cases selected : selects old with
      | true => exact .deleted selected
      | false =>
        refine .kept ?_
        rw [Function.update_self]
        exact List.mem_filter.mpr ⟨member, by simp [selected]⟩
  · exact .kept (execute_frame confined success other untouched ▸ member)

end Rules

/-- An event wrote `after` in place of `before`, or inserted it. -/
inductive Writes : Event (Database Row) (Statement Row) → (t : T) → Option (Row t) → Row t → Prop
  | insert {pre post : Database Row} {t : T} {row : Row t} :
      Writes ⟨pre, .insert t row, post⟩ t none row
  | update {pre post : Database Row} {t : T} {selects : Row t → Bool} {set : Row t → Row t}
      {old : Row t} (member : old ∈ pre t) (selected : selects old = true) :
      Writes ⟨pre, .update t selects set, post⟩ t (some old) (set old)

/-! ### Commit -/

/-- Transactions of a schema. -/
abbrev Program (Row : T → Type) (φ ε α : Type) := Tx (Database Row) (Statement Row) φ ε α

namespace Rules

variable {ε α : Type} (rules : Rules Row φ)

/-- Run a transaction and check the deferred constraints. A failure rolls the
store back, so only successes have an after-state. -/
def commit (translate : φ → ε) (x : Program Row φ ε α) (db : Database Row) :
    Except ε (α × Database Row) := do
  let result ← x.run rules.execute db
  match rules.deferred result.2 with
  | .ok () => return result
  | .error fault => .error (translate fault)

variable {rules}

variable {db : Database Row} {translate : φ → ε} {x : Program Row φ ε α}

theorem commit_ok {after : Database Row} {a : α} :
    rules.commit translate x db = .ok (a, after) ↔
      x.run rules.execute db = .ok (a, after) ∧ rules.deferred after = .ok () := by
  simp only [commit, except_bind_ok]
  constructor
  · rintro ⟨⟨b, result⟩, ran, checked⟩
    cases check : rules.deferred result with
    | error fault => simp [check] at checked
    | ok u =>
      simp only [check, pure, Except.pure, Except.ok.injEq, Prod.mk.injEq] at checked
      obtain ⟨rfl, rfl⟩ := checked
      exact ⟨ran, check⟩
  · rintro ⟨ran, check⟩
    refine ⟨(a, after), ran, ?_⟩
    simp [check, pure, Except.pure]

/-- A commit fails with its transaction, or at the deferred constraints. -/
theorem commit_error {e : ε} (failed : rules.commit translate x db = .error e) :
    x.run rules.execute db = .error e ∨ ∃ fault, e = translate fault := by
  unfold commit at failed
  cases ran : x.run rules.execute db with
  | error e' =>
    rw [ran] at failed
    cases failed
    exact .inl rfl
  | ok result =>
    rw [ran] at failed
    cases check : rules.deferred result.2 with
    | ok u => simp [check, Bind.bind, Except.bind, pure, Except.pure] at failed
    | error fault =>
      simp only [check, Bind.bind, Except.bind, Except.error.injEq] at failed
      exact .inr ⟨fault, failed.symm⟩

/-- Whether the transaction commits, into a store that satisfies `p`. -/
def commitsTo (rules : Rules Row φ) (translate : φ → ε) (x : Program Row φ ε α)
    (db : Database Row) (p : Database Row → Bool) : Bool :=
  match rules.commit translate x db with
  | .ok (_, after) => p after
  | .error _ => false

theorem commitsTo_iff {p : Database Row → Bool} : rules.commitsTo translate x db p = true ↔
      ∃ a after, rules.commit translate x db = .ok (a, after) ∧ p after = true := by
  unfold commitsTo
  cases rules.commit translate x db with
  | error e => simp
  | ok r =>
    refine ⟨fun holds => ⟨r.1, r.2, rfl, holds⟩, ?_⟩
    rintro ⟨_, _, same, holds⟩
    cases same
    exact holds

end Rules

/-! ### Keys, indexes and references -/

/-- A unique index over the rows that satisfy `p`. -/
def UniqueOn {α κ : Type} (rows : List α) (p : α → Bool) (key : α → κ) : Prop :=
  ((rows.filter p).map key).Nodup

instance {α κ : Type} [DecidableEq κ] (rows : List α) (p : α → Bool) (key : α → κ) :
    Decidable (UniqueOn rows p key) :=
  inferInstanceAs (Decidable (List.Nodup _))

/-- Two rows of a unique index with one key are one row. -/
theorem UniqueOn.eq {κ : Type} {rows : List α} {p : α → Bool} {key : α → κ}
    (unique : UniqueOn rows p key) {a b : α} (ha : a ∈ rows) (hb : b ∈ rows) (pa : p a = true)
    (pb : p b = true) (same : key a = key b) : a = b :=
  List.inj_on_of_nodup_map unique (List.mem_filter.mpr ⟨ha, pa⟩) (List.mem_filter.mpr ⟨hb, pb⟩)
    same

/-! ### The rows of one owner -/

section Owner
variable {α : Type} {rows old new : List α} {p mine selects : α → Bool} {set : α → α}

/-- An update of other rows leaves an owner's rows as they are. -/
theorem filter_updated
    (apart : ∀ a ∈ rows, selects a = true → mine a = false ∧ mine (set a) = false) :
    (updated selects set rows).filter mine = rows.filter mine := by
  induction rows with
  | nil => rfl
  | cons a rest ih =>
    have later := ih fun b member => apart b (List.mem_cons_of_mem _ member)
    have here := apart a (List.mem_cons_self ..)
    unfold updated at later ⊢
    rw [List.map_cons, List.filter_cons, List.filter_cons, later]
    cases selected : selects a with
    | true => simp [here selected]
    | false => simp

/-- A query of an owner's rows reads those only. -/
theorem find?_of_filter (owned : ∀ a, p a = true → mine a = true)
    (same : new.filter mine = old.filter mine) : new.find? p = old.find? p := by
  have reads : ∀ rows : List α, rows.find? p = (rows.filter mine).find? p := by
    intro rows
    rw [List.find?_filter]
    congr 1
    funext a
    cases holds : p a with
    | true => simp [owned a holds]
    | false => simp
  rw [reads new, reads old, same]

theorem any_of_filter (owned : ∀ a, p a = true → mine a = true)
    (same : new.filter mine = old.filter mine) : new.any p = old.any p := by
  have reads : ∀ rows : List α, rows.any p = (rows.filter mine).any p := by
    intro rows
    rw [List.any_filter]
    congr 1
    funext a
    cases holds : p a with
    | true => simp [owned a holds]
    | false => simp
  rw [reads new, reads old, same]

end Owner

/-- The key of an inserted row is new. -/
theorem UniqueOn.inserted {κ : Type} {rows : List α} {b : α} {key : α → κ}
    (unique : UniqueOn (rows ++ [b]) (fun _ => true) key) {a : α} (member : a ∈ rows) :
    key a ≠ key b := by
  have nodup : ((rows ++ [b]).map key).Nodup := by simpa [UniqueOn] using unique
  rw [List.map_append, List.nodup_append] at nodup
  exact nodup.2.2 _ (List.mem_map_of_mem member) _ (by simp)

/-- The lookup of the only row that matches. -/
theorem find?_eq_of_only {rows : List α} {p : α → Bool} {a : α} (member : a ∈ rows)
    (holds : p a = true) (only : ∀ b ∈ rows, p b = true → b = a) : rows.find? p = some a := by
  cases found : rows.find? p with
  | none => exact absurd holds (List.find?_eq_none.mp found a member)
  | some b => rw [only b (List.mem_of_find?_eq_some found) (List.find?_some found)]

/-- At most one row of the index has any given key. -/
theorem UniqueOn.length_le_one {κ : Type} [DecidableEq κ] {rows : List α} {p : α → Bool}
    {key : α → κ} (unique : UniqueOn rows p key) (k : κ) :
    (rows.filter fun a => p a && decide (key a = k)).length ≤ 1 := by
  have counted : ((rows.filter p).map key).count k ≤ 1 := List.nodup_iff_count_le_one.mp unique k
  have flat : rows.filter (fun a => p a && decide (key a = k)) =
      (rows.filter p).filter (fun a => decide (key a = k)) := by
    rw [List.filter_filter]
    exact List.filter_congr fun a _ => Bool.and_comm _ _
  rw [flat, ← List.countP_eq_length_filter]
  rw [List.count, List.countP_map] at counted
  refine Nat.le_trans (Nat.le_of_eq (List.countP_congr fun a _ => ?_)) counted
  simp

/-- A foreign key: every non-null reference names a parent key. -/
def References {α β κ : Type} (children : List α) (reference : α → Option κ)
    (parents : List β) (key : β → κ) : Prop :=
  ∀ child ∈ children, ∀ k ∈ reference child, ∃ parent ∈ parents, key parent = k

instance {α β κ : Type} [DecidableEq κ] (children : List α) (reference : α → Option κ)
    (parents : List β) (key : β → κ) : Decidable (References children reference parents key) :=
  decidable_of_iff (children.all fun child =>
      (reference child).all fun k => parents.any fun parent => decide (key parent = k)) <| by
    simp only [References, List.all_eq_true]
    refine forall₂_congr fun child _ => ?_
    cases reference child <;> simp

/-! ### Updates that keep a key -/

section Kept
variable {α β κ : Type} {rows : List α} {parents : List β} {p selects : α → Bool} {set : α → α}
  {key : α → κ} {chosen : β → Bool} {put : β → β} {name : β → κ} {reference : α → Option κ}

theorem filter_map_updated (kept : ∀ a, p (set a) = p a) (same : ∀ a, key (set a) = key a) :
    ((updated selects set rows).filter p).map key = (rows.filter p).map key := by
  induction rows with
  | nil => rfl
  | cons a rest ih =>
    unfold updated at ih ⊢
    rw [List.map_cons]
    cases selects a <;> cases holds : p a <;> simp [kept, same, holds, ih]

theorem UniqueOn.updated (kept : ∀ a, p (set a) = p a) (same : ∀ a, key (set a) = key a)
    (unique : UniqueOn rows p key) : UniqueOn (updated selects set rows) p key := by
  unfold UniqueOn
  rw [filter_map_updated kept same]
  exact unique

theorem References.updated_parents (same : ∀ b, name (put b) = name b)
    (references : References rows reference parents name) :
    References rows reference (updated chosen put parents) name := by
  intro child member k found
  obtain ⟨parent, present, named⟩ := references child member k found
  cases selected : chosen parent with
  | true =>
    exact ⟨put parent, mem_updated.mpr ⟨parent, present, .inl ⟨selected, rfl⟩⟩,
      (same parent).trans named⟩
  | false => exact ⟨parent, mem_updated.mpr ⟨parent, present, .inr ⟨selected, rfl⟩⟩, named⟩

theorem References.updated_children
    (same : ∀ a ∈ rows, selects a = true → reference (set a) = reference a)
    (references : References rows reference parents name) :
    References (updated selects set rows) reference parents name := by
  intro child member k found
  obtain ⟨old, present, ⟨selected, rfl⟩ | ⟨-, rfl⟩⟩ := mem_updated.mp member
  · exact references old present k (same old present selected ▸ found)
  · exact references _ present k found

end Kept

end ThinkPixelAR.Relational
