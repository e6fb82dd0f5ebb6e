import Mathlib.Data.List.Induction

/-!
Traces: lists of what happened, oldest first. A property of a trace that looks at each
element and at what came before it is kept by appending an element that has it.
-/
namespace ThinkPixelAR.Relational

variable {α : Type} {Q R : List α → α → Prop} {trace : List α} {x : α}

/-- Every element satisfies `Q` after the elements before it. -/
def EachAfter (Q : List α → α → Prop) (trace : List α) : Prop :=
  ∀ before x after, trace = before ++ x :: after → Q before x

theorem eachAfter_nil : EachAfter Q [] := by
  intro before x after split
  simp at split

theorem eachAfter_concat : EachAfter Q (trace ++ [x]) ↔ EachAfter Q trace ∧ Q trace x := by
  constructor
  · intro all
    refine ⟨fun before y after split => ?_, all trace x [] rfl⟩
    exact all before y (after ++ [x]) (by simp [split])
  · rintro ⟨all, last⟩ before y after split
    rcases List.eq_nil_or_concat after with rfl | ⟨rest, z, rfl⟩
    · obtain ⟨rfl, same⟩ := List.append_inj' split rfl
      cases same
      exact last
    · have whole : trace ++ [x] = (before ++ y :: rest) ++ [z] := by simp [split]
      exact all before y rest (List.append_inj' whole rfl).1

/-- Appending elements none of which is constrained. -/
theorem EachAfter.append_free {more : List α} (all : EachAfter Q trace)
    (free : ∀ before, ∀ y ∈ more, Q before y) : EachAfter Q (trace ++ more) := by
  induction more using List.reverseRecOn with
  | nil => simpa using all
  | append_singleton more y ih =>
    rw [← List.append_assoc, eachAfter_concat]
    exact ⟨ih fun before z member => free before z (List.mem_append_left _ member),
      free _ y (List.mem_append_right _ List.mem_cons_self)⟩

/-- An element of an appended trace lies in the one part or in the other. -/
theorem split_append {more before after : List α} (split : trace ++ more = before ++ x :: after) :
    (∃ rest, trace = before ++ x :: rest ∧ after = rest ++ more) ∨
      ∃ rest, before = trace ++ rest ∧ more = rest ++ x :: after := by
  rcases List.append_eq_append_iff.mp split with ⟨rest, first, second⟩ | ⟨rest, first, second⟩
  · exact .inr ⟨rest, first, second⟩
  · cases rest with
    | nil => exact .inr ⟨[], by simpa using first.symm, by simpa using second.symm⟩
    | cons y rest =>
      obtain ⟨rfl, rfl⟩ := List.cons.inj second
      exact .inl ⟨rest, first, rfl⟩

end ThinkPixelAR.Relational
