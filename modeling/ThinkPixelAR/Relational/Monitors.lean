import ThinkPixelAR.Relational.Traces

/-!
Monitors: a transition relation over the elements of a trace. A trace is accepted when the
relation can follow it from the start; what the transitions keep then holds of the trace
and of each of its prefixes.
-/
namespace ThinkPixelAR.Relational

variable {σ α : Type} {advances : σ → α → σ → Prop} {start p : σ} {trace : List α}

/-- The monitor follows the trace and ends in the state. -/
inductive Accepted (advances : σ → α → σ → Prop) (start : σ) : List α → σ → Prop
  | nil : Accepted advances start [] start
  | concat {trace : List α} {p q : σ} {x : α} (earlier : Accepted advances start trace p)
      (last : advances p x q) : Accepted advances start (trace ++ [x]) q

namespace Accepted

/-- Invariant rule: what holds at the start and is kept by every transition. -/
theorem invariant {I : List α → σ → Prop} (base : I [] start)
    (keeps : ∀ {trace p x q}, I trace p → advances p x q → I (trace ++ [x]) q)
    (accepted : Accepted advances start trace p) : I trace p := by
  induction accepted with
  | nil => exact base
  | concat _ last ih => exact keeps ih last

/-- What an invariant gives at a transition holds of every element. -/
theorem eachAfter {I : List α → σ → Prop} {Q : List α → α → Prop} (base : I [] start)
    (keeps : ∀ {trace p x q}, I trace p → advances p x q → I (trace ++ [x]) q)
    (gives : ∀ {trace p x q}, I trace p → advances p x q → Q trace x)
    (accepted : Accepted advances start trace p) : EachAfter Q trace := by
  induction accepted with
  | nil => exact eachAfter_nil
  | concat earlier last ih =>
    exact eachAfter_concat.mpr ⟨ih, gives (earlier.invariant base keeps) last⟩

/-- Every prefix of an accepted trace is accepted. -/
theorem before {first later : List α} (accepted : Accepted advances start (first ++ later) p) :
    ∃ q, Accepted advances start first q := by
  induction later using List.reverseRecOn generalizing p with
  | nil => exact ⟨p, by simpa using accepted⟩
  | append_singleton later x ih =>
    rw [← List.append_assoc] at accepted
    generalize whole : first ++ later ++ [x] = trace at accepted
    cases accepted with
    | nil => simp at whole
    | concat earlier _ => exact ih ((List.append_inj' whole rfl).1 ▸ earlier)

end Accepted
end ThinkPixelAR.Relational
