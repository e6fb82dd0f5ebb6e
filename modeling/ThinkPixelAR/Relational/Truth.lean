import Mathlib.Order.Defs.LinearOrder

/-!
Three-valued logic of SQL conditions. A comparison with `NULL` is unknown; a
`WHERE` clause and a trigger's `IF` take a row only when the condition is true,
while a `CHECK` constraint refuses it only when the condition is false. The two
readings differ exactly on the unknown value, so both are kept.
-/
namespace ThinkPixelAR.Relational

/-- Truth value of a SQL condition. -/
inductive Truth where
  | false
  | unknown
  | true
deriving DecidableEq

namespace Truth

/-- The condition of a non-nullable expression. -/
def of (p : Prop) [Decidable p] : Truth := if p then .true else .false

/-- A binary comparison of nullable expressions; unknown as soon as one is `NULL`. -/
def compare {α β : Type} (r : α → β → Prop) [∀ a b, Decidable (r a b)] :
    Option α → Option β → Truth
  | some a, some b => of (r a b)
  | _, _ => .unknown

def and : Truth → Truth → Truth
  | .false, _ => .false
  | _, .false => .false
  | .true, .true => .true
  | _, _ => .unknown

def or : Truth → Truth → Truth
  | .true, _ => .true
  | _, .true => .true
  | .false, .false => .false
  | _, _ => .unknown

def not : Truth → Truth
  | .true => .false
  | .false => .true
  | .unknown => .unknown

instance : AndOp Truth := ⟨and⟩
instance : OrOp Truth := ⟨or⟩
instance : Complement Truth := ⟨not⟩

/-- The reading of `WHERE`, `IF` and `IS TRUE`. -/
abbrev Holds (t : Truth) : Prop := t = .true

/-- The condition is false, which is what makes a `CHECK` refuse a row. -/
abbrev Fails (t : Truth) : Prop := t = .false

variable {p : Prop} [Decidable p] {s t : Truth}

@[simp] theorem holds_of : (of p).Holds ↔ p := by
  by_cases h : p <;> simp [Holds, of, h]

@[simp] theorem fails_of : (of p).Fails ↔ ¬ p := by
  by_cases h : p <;> simp [Fails, of, h]

@[simp] theorem holds_and : (s &&& t).Holds ↔ s.Holds ∧ t.Holds := by
  cases s <;> cases t <;> decide

@[simp] theorem fails_and : (s &&& t).Fails ↔ s.Fails ∨ t.Fails := by
  cases s <;> cases t <;> decide

@[simp] theorem holds_or : (s ||| t).Holds ↔ s.Holds ∨ t.Holds := by
  cases s <;> cases t <;> decide

@[simp] theorem holds_not : (~~~t).Holds ↔ t.Fails := by
  cases t <;> decide

variable {α β : Type} {r : α → β → Prop} [∀ a b, Decidable (r a b)]

/-- A comparison is true only between two present values. -/
theorem holds_compare {a : Option α} {b : Option β} :
    (compare r a b).Holds ↔ ∃ x y, a = some x ∧ b = some y ∧ r x y := by
  cases a <;> cases b <;> simp [compare]

theorem fails_compare {a : Option α} {b : Option β} :
    (compare r a b).Fails ↔ ∃ x y, a = some x ∧ b = some y ∧ ¬ r x y := by
  cases a <;> cases b <;> simp [compare]

end Truth
end ThinkPixelAR.Relational
