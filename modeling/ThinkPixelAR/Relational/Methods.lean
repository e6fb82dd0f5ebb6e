import Mathlib.Data.Nat.ModEq

/-!
Methods of a mutable object. A method reads and assigns the fields of its receiver and
may return an error in between; what it assigned before the error stays assigned. A
history is a list of calls, each answered by the object the calls before it left.
-/
namespace ThinkPixelAR.Relational

/-- Method bodies over a receiver `σ` that may return an error `ε`. -/
abbrev Method (σ ε : Type) : Type → Type := ExceptT ε (StateM σ)

namespace Method

variable {σ ε κ : Type}

/-- The answer to one call and the object it leaves. -/
def call (m : Method σ ε Unit) (s : σ) : Except ε Unit × σ := m.run.run s

section Bodies
variable {α : Type} {s : σ}

@[simp] theorem call_pure : (pure () : Method σ ε Unit).call s = (.ok (), s) := rfl

@[simp] theorem call_get_bind {k : σ → Method σ ε Unit} : (get >>= k).call s = (k s).call s := rfl

@[simp] theorem call_throw {e : ε} : (throw e : Method σ ε Unit).call s = (.error e, s) := rfl

@[simp] theorem call_throw_bind {e : ε} {k : α → Method σ ε Unit} :
    ((throw e : Method σ ε α) >>= k).call s = (.error e, s) := rfl

@[simp] theorem call_modify {f : σ → σ} : (modify f : Method σ ε Unit).call s = (.ok (), f s) := rfl

@[simp] theorem call_modify_bind {f : σ → σ} {k : Unit → Method σ ε Unit} :
    ((modify f : Method σ ε Unit) >>= k).call s = (k ()).call (f s) := rfl

@[simp] theorem call_ite {p : Prop} [Decidable p] {m n : Method σ ε Unit} :
    (if p then m else n).call s = if p then m.call s else n.call s := by
  split <;> rfl

end Bodies

/-- The object after one call, whatever was answered. -/
def after (m : Method σ ε Unit) (s : σ) : σ := (m.call s).2

/-- What a call does if it decides first and assigns last: `attempt` is the object it
leaves or the error it returns. -/
def atomically (attempt : Except ε σ) (s : σ) : Except ε Unit × σ :=
  match attempt with
  | .ok t => (.ok (), t)
  | .error e => (.error e, s)

variable {e : ε} {s : σ} {attempt : σ → Except ε σ} {m : Method σ ε Unit}

theorem atomically_ite {p : Prop} [Decidable p] {attempt : Except ε σ} :
    atomically (if p then .error e else attempt) s =
      if p then (.error e, s) else atomically attempt s := by
  split <;> rfl

/-- The test before the rest of a method is the test before the rest of its attempt. -/
theorem call_guarded {p : σ → Prop} [DecidablePred p] {k : σ → Method σ ε Unit}
    {attempt : Except ε σ} (rest : (k s).call s = atomically attempt s) :
    (do
      let s ← get
      if p s then throw e
      k s : Method σ ε Unit).call s = atomically (if p s then .error e else attempt) s := by
  simp only [call_get_bind, call_ite, atomically_ite]
  split
  · rfl
  · exact rest

/-- A method that decides first leaves the receiver alone when it returns an error. -/
theorem after_of_error (atomic : ∀ s, m.call s = atomically (attempt s) s)
    (refused : (m.call s).1 = .error e) : m.after s = s := by
  rw [atomic] at refused
  unfold after
  rw [atomic]
  cases decided : attempt s with
  | error => rfl
  | ok t => simp [decided, atomically] at refused

/-- The step of such a method: nothing, or what `attempt` decided. -/
theorem after_cases (atomic : ∀ s, m.call s = atomically (attempt s) s) :
    m.after s = s ∨ attempt s = .ok (m.after s) := by
  unfold after
  rw [atomic]
  cases attempt s with
  | error => exact .inl rfl
  | ok t => exact .inr rfl

/-! ### Histories -/

section History
variable (method : κ → Method σ ε Unit)

/-- The object after all calls of the history. -/
def history (s : σ) (calls : List κ) : σ := calls.foldl (fun t c => (method c).after t) s

/-- Every call is made in a state that meets its condition. -/
def Along (G : σ → κ → Prop) : σ → List κ → Prop
  | _, [] => True
  | s, c :: rest => G s c ∧ Along G ((method c).after s) rest

/-- How many calls of the history took a step of the given kind. -/
def tally (kind : σ → σ → Bool) : σ → List κ → Nat
  | _, [] => 0
  | s, c :: rest =>
    (kind s ((method c).after s)).toNat + tally kind ((method c).after s) rest

variable {method}

@[simp] theorem history_nil (s : σ) : history method s [] = s := rfl

@[simp] theorem history_cons (s : σ) (c : κ) (rest : List κ) :
    history method s (c :: rest) = history method ((method c).after s) rest := rfl

theorem history_append (s : σ) (calls more : List κ) :
    history method s (calls ++ more) = history method (history method s calls) more :=
  List.foldl_append

theorem history_concat (s : σ) (calls : List κ) (c : κ) :
    history method s (calls ++ [c]) = (method c).after (history method s calls) :=
  history_append s calls [c]

variable {G : σ → κ → Prop} {calls : List κ} {P : σ → Prop} {kind : σ → σ → Bool}

theorem along_append {more : List κ} :
    Along method G s (calls ++ more) ↔
      Along method G s calls ∧ Along method G (history method s calls) more := by
  induction calls generalizing s with
  | nil => simp [Along]
  | cons c rest ih => simp [Along, ih, and_assoc]

theorem along_true (s : σ) (calls : List κ) : Along method (fun _ _ => True) s calls := by
  induction calls generalizing s with
  | nil => exact trivial
  | cons c rest ih => exact ⟨trivial, ih _⟩

/-- Run rule: what every step keeps holds at the end. -/
theorem Along.invariant (step : ∀ s c, P s → G s c → P ((method c).after s)) (start : P s)
    (along : Along method G s calls) : P (history method s calls) := by
  induction calls generalizing s with
  | nil => exact start
  | cons c rest ih => exact ih (step s c start along.1) along.2

/-- Run rule: objects that every step relates are related at the ends of a run. -/
theorem Along.relates {R : σ → σ → Prop} (refl : ∀ s, R s s)
    (trans : ∀ {a b c}, R a b → R b c → R a c) (keeps : ∀ s c, P s → G s c → P ((method c).after s))
    (step : ∀ s c, P s → G s c → R s ((method c).after s)) (start : P s)
    (along : Along method G s calls) : R s (history method s calls) := by
  induction calls generalizing s with
  | nil => exact refl s
  | cons c rest ih =>
    exact trans (step s c start along.1) (ih (keeps s c start along.1) along.2)

/-- Run rule: an object that no call changes is not changed by the rest of a run. -/
theorem history_fixed (fixed : ∀ s c, P s → (method c).after s = s)
    (final : P (history method s calls)) (more : List κ) :
    history method s (calls ++ more) = history method s calls := by
  rw [history_append]
  induction more with
  | nil => rfl
  | cons c rest ih => rw [history_cons, fixed _ c final, ih]

section Monotone
variable {α : Type} [Preorder α] {G : σ → κ → Prop} {P : σ → Prop} {f : σ → α} {s : σ}

/-- Run rule: what no step lowers is no lower at the end. -/
theorem Along.monotone (keeps : ∀ s c, P s → G s c → P ((method c).after s))
    (step : ∀ s c, P s → G s c → f s ≤ f ((method c).after s)) (start : P s)
    (along : Along method G s calls) : f s ≤ f (history method s calls) :=
  along.relates (R := fun s t => f s ≤ f t) (fun _ => le_refl _) le_trans keeps step start

/-- The same between any two points of the run. -/
theorem Along.monotone_between (keeps : ∀ s c, P s → G s c → P ((method c).after s))
    (step : ∀ s c, P s → G s c → f s ≤ f ((method c).after s)) {before rest : List κ}
    (start : P s) (along : Along method G s (before ++ rest)) :
    f (history method s before) ≤ f (history method s (before ++ rest)) := by
  obtain ⟨first, later⟩ := along_append.mp along
  rw [history_append]
  exact later.monotone keeps step (first.invariant keeps start)

/-- Run rule: both at once, for a step lemma that says both. -/
theorem Along.kept (step : ∀ {s} c, P s → G s c → P ((method c).after s) ∧
      f s ≤ f ((method c).after s)) (start : P s) (along : Along method G s calls) :
    P (history method s calls) ∧
      ∀ before rest, calls = before ++ rest → f (history method s before) ≤
        f (history method s calls) := by
  have keeps := fun s c (before : P s) met => (step (s := s) c before met).1
  refine ⟨along.invariant keeps start, ?_⟩
  rintro before rest rfl
  exact along.monotone_between keeps (fun s c before met => (step c before met).2) start

end Monotone

/-- Run rule: a counter that every step raises by its kind counts the steps of that
kind, modulo `n`; exactly, for `n = 0`. -/
theorem tally_counts {n : Nat} {f : σ → Nat} (keeps : ∀ s c, P s → P ((method c).after s))
    (step : ∀ s c, P s →
      f ((method c).after s) ≡ f s + (kind s ((method c).after s)).toNat [MOD n]) (start : P s)
    (calls : List κ) : f (history method s calls) ≡ f s + tally method kind s calls [MOD n] := by
  induction calls generalizing s with
  | nil => exact Nat.ModEq.refl _
  | cons c rest ih =>
    rw [history_cons, tally, ← Nat.add_assoc]
    exact (ih (keeps s c start)).trans ((step s c start).add_right _)

/-- Run rule: no step is of the kind if no step is in the states the run stays in. -/
theorem tally_eq_zero (keeps : ∀ s c, P s → P ((method c).after s))
    (none : ∀ s c, P s → kind s ((method c).after s) = false) (start : P s) (calls : List κ) :
    tally method kind s calls = 0 := by
  induction calls generalizing s with
  | nil => rfl
  | cons c rest ih => simp [tally, none s c start, ih (keeps s c start)]

/-- Run rule: a step that leads to where it cannot be taken again is taken at most once. -/
theorem tally_le_one {Q : σ → Prop} (keeps : ∀ s c, P s → P ((method c).after s))
    (stays : ∀ s c, Q s → Q ((method c).after s))
    (leads : ∀ s c, P s → kind s ((method c).after s) = true → Q ((method c).after s))
    (none : ∀ s c, Q s → kind s ((method c).after s) = false) (start : P s) (calls : List κ) :
    tally method kind s calls ≤ 1 := by
  induction calls generalizing s with
  | nil => exact Nat.zero_le 1
  | cons c rest ih =>
    rw [tally]
    cases taken : kind s ((method c).after s) with
    | false => simpa using ih (keeps s c start)
    | true => simp [tally_eq_zero stays none (leads s c start taken) rest]

end History

end Method
end ThinkPixelAR.Relational
