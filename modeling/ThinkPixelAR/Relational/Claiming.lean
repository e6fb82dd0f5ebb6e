import Mathlib.Data.List.Sort
import ThinkPixelAR.Relational.Table

/-!
Claiming from a table that serves as a queue: the first rows that satisfy a
condition, in a given order, are selected by their keys and rewritten. What such a
claim is for is said by a per-row function that may refuse: the rows it would
accept, the first of them, and the values it gives them (`ClaimsFirst`).
-/
namespace ThinkPixelAR.Relational

section First
variable {α : Type} (order : α → α → Prop) [DecidableRel order] (limit : Nat)

variable {order limit} {p q : α → Bool} {rows : List α}

end First

/-! ### What a claim promises -/

section Claims
variable {α ε : Type} [DecidableEq α] (order : α → α → Prop) [DecidableRel order] (limit : Nat)
  (claim : α → Except ε α)

end Claims

/-! ### Rows selected by key -/

section Chosen
variable {α κ : Type} [DecidableEq κ] {rows chosen : List α} {key : α → κ} {set : α → α}

end Chosen

/-- A fallible function over a list succeeds with the list of its values. -/
theorem mapM_eq_ok_iff {α β ε : Type} {f : α → Except ε β} {l : List α} {r : List β} :
    l.mapM f = .ok r ↔ l.map f = r.map .ok := by
  induction l generalizing r with
  | nil => cases r <;> simp [pure, Except.pure]
  | cons a rest ih =>
    rw [List.mapM_cons, except_bind_ok]
    simp only [except_bind_ok, ih, pure, Except.pure, Except.ok.injEq]
    constructor
    · rintro ⟨b, first, bs, later, rfl⟩
      rw [List.map_cons, List.map_cons, first, later]
    · intro all
      cases r with
      | nil => simp at all
      | cons b bs =>
        simp only [List.map_cons, List.cons.injEq] at all
        exact ⟨b, all.1, bs, all.2, rfl⟩

end ThinkPixelAR.Relational
