import Mathlib.Logic.Relation

/-!
Programs outside a store. A service calls the store several times; each call is one
atomic attempt that leaves a new store or fails and leaves none. The service holds
nothing in between, so the environment may change the store before, between and
after its calls.
-/
namespace ThinkPixelAR.Relational

open Relation

/-- A program over stores `σ` whose calls fail with errors `ε`. -/
inductive Calls (σ ε α : Type) : Type 1 where
  | pure (a : α)
  | call {β : Type} (attempt : σ → Except ε (β × σ)) (k : Except ε β → Calls σ ε α)

namespace Calls

variable {σ ε α β : Type}

def bind : Calls σ ε α → (α → Calls σ ε β) → Calls σ ε β
  | .pure a, f => f a
  | .call attempt k, f => .call attempt fun answer => (k answer).bind f

instance : Monad (Calls σ ε) where
  pure := .pure
  bind := bind

/-- One call; its answer is a value or an error. -/
def perform (attempt : σ → Except ε (β × σ)) : Calls σ ε (Except ε β) := .call attempt .pure

/-- The program takes the store from `s` to `t` and returns the value, with steps of
the environment in between. -/
inductive Runs (env : σ → σ → Prop) : Calls σ ε α → σ → σ → α → Prop
  | pure {a : α} {s t : σ} (waits : ReflTransGen env s t) : Runs env (.pure a) s t a
  | accepted {γ : Type} {attempt : σ → Except ε (γ × σ)} {k : Except ε γ → Calls σ ε α}
      {s m m' t : σ} {b : γ} {a : α} (waits : ReflTransGen env s m)
      (answer : attempt m = .ok (b, m'))
      (rest : Runs env (k (.ok b)) m' t a) : Runs env (.call attempt k) s t a
  | refused {γ : Type} {attempt : σ → Except ε (γ × σ)} {k : Except ε γ → Calls σ ε α}
      {s m t : σ} {e : ε} {a : α} (waits : ReflTransGen env s m) (answer : attempt m = .error e)
      (rest : Runs env (k (.error e)) m t a) : Runs env (.call attempt k) s t a

variable {env : σ → σ → Prop} {s t u : σ}

theorem Runs.after_waiting {x : Calls σ ε α} {a : α} (waits : ReflTransGen env s t)
    (runs : Runs env x t u a) : Runs env x s u a := by
  cases runs with
  | pure later => exact .pure (waits.trans later)
  | accepted later answer rest => exact .accepted (waits.trans later) answer rest
  | refused later answer rest => exact .refused (waits.trans later) answer rest

@[simp] theorem runs_pure {a b : α} :
    Runs env (Pure.pure a : Calls σ ε α) s t b ↔ b = a ∧ ReflTransGen env s t := by
  constructor
  · intro runs
    cases runs with
    | pure waits => exact ⟨rfl, waits⟩
  · rintro ⟨rfl, waits⟩
    exact .pure waits

/-- A sequence runs exactly when its parts run one after the other. -/
@[simp] theorem runs_bind {x : Calls σ ε α} {f : α → Calls σ ε β} {b : β} :
    Runs env (x >>= f) s u b ↔ ∃ a t, Runs env x s t a ∧ Runs env (f a) t u b := by
  show Runs env (x.bind f) s u b ↔ _
  induction x generalizing s with
  | pure a =>
    constructor
    · exact fun runs => ⟨a, s, .pure .refl, runs⟩
    · rintro ⟨_, t, first, rest⟩
      cases first with
      | pure waits => exact rest.after_waiting waits
  | call attempt k ih =>
    constructor
    · intro runs
      cases runs with
      | accepted waits answer rest =>
        obtain ⟨a, t, first, later⟩ := (ih _).mp rest
        exact ⟨a, t, .accepted waits answer first, later⟩
      | refused waits answer rest =>
        obtain ⟨a, t, first, later⟩ := (ih _).mp rest
        exact ⟨a, t, .refused waits answer first, later⟩
    · rintro ⟨a, t, first, later⟩
      cases first with
      | accepted waits answer rest => exact .accepted waits answer ((ih _).mpr ⟨a, t, rest, later⟩)
      | refused waits answer rest => exact .refused waits answer ((ih _).mpr ⟨a, t, rest, later⟩)

/-- One call is accepted or refused in a store the environment leaves. -/
theorem runs_perform {attempt : σ → Except ε (β × σ)} {answer : Except ε β} :
    Runs env (perform attempt) s t answer ↔ ∃ m, ReflTransGen env s m ∧
      ((∃ b m', answer = .ok b ∧ attempt m = .ok (b, m') ∧ ReflTransGen env m' t) ∨
        (∃ e, answer = .error e ∧ attempt m = .error e ∧ ReflTransGen env m t)) := by
  constructor
  · intro runs
    cases runs with
    | accepted waits answer rest =>
      cases rest with
      | pure later => exact ⟨_, waits, .inl ⟨_, _, rfl, answer, later⟩⟩
    | refused waits answer rest =>
      cases rest with
      | pure later => exact ⟨_, waits, .inr ⟨_, rfl, answer, later⟩⟩
  · rintro ⟨m, waits, ⟨b, m', rfl, answer, later⟩ | ⟨e, rfl, answer, later⟩⟩
    · exact .accepted waits answer (.pure later)
    · exact .refused waits answer (.pure later)

end Calls
end ThinkPixelAR.Relational
