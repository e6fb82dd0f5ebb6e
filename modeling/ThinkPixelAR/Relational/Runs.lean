import Mathlib.Data.List.Basic

/-!
Runs of a state machine: the events of a list, taken one after the other.
-/
namespace ThinkPixelAR.Relational

variable {σ ε : Type} {step : σ → ε → σ}

/-- The state after all events. -/
def run (step : σ → ε → σ) (s : σ) (events : List ε) : σ := events.foldl step s

@[simp] theorem run_nil (s : σ) : run step s [] = s := rfl

/-- Run rule: what every step keeps holds at the end. -/
theorem run_invariant {P : σ → Prop} (keeps : ∀ s e, P s → P (step s e)) {s : σ} (start : P s)
    (events : List ε) : P (run step s events) :=
  List.foldlRecOn events step start fun t before e _ => keeps t e before

/-- Run rule: states that every step relates are related at the ends of a run. -/
theorem run_relates {P : σ → Prop} {R : σ → σ → Prop} (refl : ∀ s, R s s)
    (trans : ∀ {a b c}, R a b → R b c → R a c) (keeps : ∀ s e, P s → P (step s e))
    (steps : ∀ s e, P s → R s (step s e)) {s : σ} (start : P s) (events : List ε) :
    R s (run step s events) := by
  induction events generalizing s with
  | nil => exact refl s
  | cons e rest ih => exact trans (steps s e start) (ih (keeps s e start))

end ThinkPixelAR.Relational
