import Mathlib.Logic.Relation

/-!
Transactions over an arbitrary store. A transaction reads the store, submits
statements the store may refuse, and either returns a value or fails. A refused
statement aborts it: the surrounding code never continues after a refusal, it
only translates the fault into its own error.

Everything a transaction can do to the store goes through its statements, so a
property kept by every accepted statement is kept by every transaction
(`run_preserves`). What a transaction did on the way is its `trace`.
-/
namespace ThinkPixelAR.Relational

/-- A transaction over stores `σ` with statements `S`, faults `φ`, errors `ε`. -/
inductive Tx (σ S φ ε α : Type) where
  | pure (a : α)
  | fail (e : ε)
  | read (k : σ → Tx σ S φ ε α)
  | exec (s : S) (translate : φ → ε) (k : Nat → Tx σ S φ ε α)

/-- One accepted statement, with the store before and after it. -/
structure Event (σ S : Type) where
  pre : σ
  statement : S
  post : σ

namespace Tx

variable {σ S φ ε α β : Type}

def bind : Tx σ S φ ε α → (α → Tx σ S φ ε β) → Tx σ S φ ε β
  | .pure a, f => f a
  | .fail e, _ => .fail e
  | .read k, f => .read fun s => (k s).bind f
  | .exec s translate k, f => .exec s translate fun n => (k n).bind f

instance : Monad (Tx σ S φ ε) where
  pure := .pure
  bind := bind

/-- The current store. -/
def get : Tx σ S φ ε σ := .read .pure

/-- Submit a statement; the result is the number of rows it touched. -/
def perform (translate : φ → ε) (s : S) : Tx σ S φ ε Nat := .exec s translate .pure

def require (p : Prop) [Decidable p] (e : ε) : Tx σ S φ ε Unit :=
  if p then .pure () else .fail e

/-- A part that runs only under a condition. -/
def onlyIf (p : Prop) [Decidable p] (x : Tx σ S φ ε Unit) : Tx σ S φ ε Unit :=
  if p then x else .pure ()

/-- The value of a query that must find something. -/
def expect (o : Option α) (e : ε) : Tx σ S φ ε α :=
  match o with
  | some a => .pure a
  | none => .fail e

/-- A computation outside the store. -/
def lift (x : Except ε α) : Tx σ S φ ε α :=
  match x with
  | .ok a => .pure a
  | .error e => .fail e

section Run
variable (step : S → σ → Except φ (Nat × σ))

def run : Tx σ S φ ε α → σ → Except ε (α × σ)
  | .pure a, s => .ok (a, s)
  | .fail e, _ => .error e
  | .read k, s => run (k s) s
  | .exec c translate k, s =>
    match step c s with
    | .ok (n, s') => run (k n) s'
    | .error f => .error (translate f)

/-- The accepted statements of a run, in order. A run that fails later is rolled
back; its trace still lists what was accepted before the failure. -/
def trace : Tx σ S φ ε α → σ → List (Event σ S)
  | .pure _, _ => []
  | .fail _, _ => []
  | .read k, s => trace (k s) s
  | .exec c _ k, s =>
    match step c s with
    | .ok (n, s') => ⟨s, c, s'⟩ :: trace (k n) s'
    | .error _ => []

variable {step}
variable {x : Tx σ S φ ε α} {f : α → Tx σ S φ ε β} {s t : σ} {a : α} {e : ε} {c : S}
  {translate : φ → ε} {o : Option α} {p : Prop} {u : Unit} {I : σ → Prop} {event : Event σ S}

@[simp] theorem run_pure {b : α} :
    run step (Pure.pure a : Tx σ S φ ε α) s = .ok (b, t) ↔ b = a ∧ t = s := by
  show Except.ok (a, s) = Except.ok (b, t) ↔ _
  simp only [Except.ok.injEq, Prod.mk.injEq]
  constructor <;> (rintro ⟨rfl, rfl⟩; exact ⟨rfl, rfl⟩)

@[simp] theorem run_fail {b : α} : run step (.fail e : Tx σ S φ ε α) s = .ok (b, t) ↔ False := by
  simp [run]

theorem run_bind_eq (x : Tx σ S φ ε α) (f : α → Tx σ S φ ε β) (s : σ) :
    run step (x >>= f) s =
      match run step x s with
      | .ok (a, t) => run step (f a) t
      | .error e => .error e := by
  show run step (x.bind f) s = _
  induction x generalizing s with
  | pure a => rfl
  | fail e => rfl
  | read k ih => exact ih s s
  | exec c translate k ih =>
    simp only [bind, run]
    cases step c s with
    | ok r => exact ih r.1 r.2
    | error e => rfl

/-- A sequence succeeds exactly when its parts succeed one after the other. -/
@[simp] theorem run_bind {u : σ} {b : β} :
    run step (x >>= f) s = .ok (b, u) ↔
      ∃ a t, run step x s = .ok (a, t) ∧ run step (f a) t = .ok (b, u) := by
  rw [run_bind_eq]
  cases h : run step x s with
  | error e => simp
  | ok r =>
    obtain ⟨a, t⟩ := r
    constructor
    · exact fun later => ⟨a, t, rfl, later⟩
    · rintro ⟨_, _, same, later⟩
      cases same
      exact later

@[simp] theorem run_get {v : σ} : run step (get : Tx σ S φ ε σ) s = .ok (v, t) ↔ v = s ∧ t = s := by
  show run step (Pure.pure s : Tx σ S φ ε σ) s = .ok (v, t) ↔ _
  exact run_pure

@[simp] theorem run_perform {n : Nat} :
    run step (perform translate c : Tx σ S φ ε Nat) s = .ok (n, t) ↔ step c s = .ok (n, t) := by
  simp only [perform, run]
  cases step c s <;> simp [Prod.ext_iff]

@[simp] theorem run_require [Decidable p] :
    run step (require p e : Tx σ S φ ε Unit) s = .ok (u, t) ↔ p ∧ t = s := by
  unfold require
  split <;> rename_i h
  · simp [run, h, eq_comm]
  · simp [run, h]

@[simp] theorem run_onlyIf [Decidable p] {x : Tx σ S φ ε Unit} :
    run step (onlyIf p x) s = .ok (u, t) ↔
      (p ∧ run step x s = .ok (u, t)) ∨ (¬ p ∧ t = s) := by
  unfold onlyIf
  split <;> rename_i h
  · simp [h]
  · simp [run, h, eq_comm]

@[simp] theorem run_expect :
    run step (expect o e : Tx σ S φ ε α) s = .ok (a, t) ↔ o = some a ∧ t = s := by
  cases o <;> simp [expect, run, eq_comm]

@[simp] theorem run_lift {x : Except ε α} :
    run step (lift x : Tx σ S φ ε α) s = .ok (a, t) ↔ x = .ok a ∧ t = s := by
  cases x <;> simp [lift, run, eq_comm]

/-! ### What a transaction can submit -/

/-- Every statement the transaction can submit satisfies `P`, whatever it reads. -/
def Submits (P : S → Prop) : Tx σ S φ ε α → Prop
  | .pure _ => True
  | .fail _ => True
  | .read k => ∀ s, Submits P (k s)
  | .exec c _ k => P c ∧ ∀ n, Submits P (k n)

variable {P Q : S → Prop}

@[simp] theorem submits_pure : (Pure.pure a : Tx σ S φ ε α).Submits P := trivial

theorem Submits.bind (first : x.Submits P) (rest : ∀ a, (f a).Submits P) : (x >>= f).Submits P := by
  show (x.bind f).Submits P
  induction x with
  | pure a => exact rest a
  | fail e => trivial
  | read k ih => exact fun s => ih s (first s)
  | exec c translate k ih => exact ⟨first.1, fun n => ih n (first.2 n)⟩

theorem Submits.mono (weaker : ∀ c, P c → Q c) (submits : x.Submits P) : x.Submits Q := by
  induction x with
  | pure a => trivial
  | fail e => trivial
  | read k ih => exact fun s => ih s (submits s)
  | exec c translate k ih => exact ⟨weaker c submits.1, fun n => ih n (submits.2 n)⟩

theorem submits_true (x : Tx σ S φ ε α) : x.Submits fun _ => True := by
  induction x with
  | pure a => trivial
  | fail e => trivial
  | read k ih => exact ih
  | exec c translate k ih => exact ⟨trivial, ih⟩

@[simp] theorem submits_require [Decidable p] : (require p e : Tx σ S φ ε Unit).Submits P := by
  unfold require
  split <;> trivial

@[simp] theorem submits_onlyIf [Decidable p] {x : Tx σ S φ ε Unit} :
    (onlyIf p x).Submits P ↔ (p → x.Submits P) := by
  unfold onlyIf
  split <;> rename_i h
  · simp [h]
  · exact ⟨fun _ holds => (h holds).elim, fun _ => trivial⟩

@[simp] theorem submits_expect : (expect o e : Tx σ S φ ε α).Submits P := by
  cases o <;> trivial

@[simp] theorem submits_lift {x : Except ε α} : (lift x : Tx σ S φ ε α).Submits P := by
  cases x <;> trivial

@[simp] theorem submits_get_bind {f : σ → Tx σ S φ ε α} :
    (get >>= f).Submits P ↔ ∀ s, (f s).Submits P := Iff.rfl

@[simp] theorem submits_perform_bind {f : Nat → Tx σ S φ ε α} :
    (perform translate c >>= f).Submits P ↔ P c ∧ ∀ n, (f n).Submits P := Iff.rfl

/-- What follows a requirement is submitted only when the requirement holds. -/
@[simp] theorem submits_require_bind [Decidable p] {f : Unit → Tx σ S φ ε α} :
    (require p e >>= f).Submits P ↔ (p → (f ()).Submits P) := by
  unfold require
  split
  · rename_i h
    exact ⟨fun all _ => all, fun all => all h⟩
  · rename_i h
    exact ⟨fun _ holds => (h holds).elim, fun _ => trivial⟩

@[simp] theorem submits_expect_bind :
    (expect o e >>= f).Submits P ↔ ∀ a, o = some a → (f a).Submits P := by
  cases o with
  | none => exact ⟨fun _ _ found => (nomatch found), fun _ => trivial⟩
  | some b =>
    refine ⟨fun all a found => ?_, fun all => all b rfl⟩
    cases found
    exact all

@[simp] theorem submits_lift_bind {x : Except ε α} :
    (lift x >>= f).Submits P ↔ ∀ a, x = .ok a → (f a).Submits P := by
  cases x with
  | error e => exact ⟨fun _ _ found => (nomatch found), fun _ => trivial⟩
  | ok b =>
    refine ⟨fun all a found => ?_, fun all => all b rfl⟩
    cases found
    exact all

/-- A run in which every statement was accepted by `weaker` is a run of `step`, if
`step` accepts those statements in the stores that satisfy `I`. -/
theorem run_simulates {weaker : S → σ → Except φ (Nat × σ)}
    (accepts : ∀ c s n t, I s → weaker c s = .ok (n, t) → step c s = .ok (n, t) ∧ I t)
    (before : I s) (success : run weaker x s = .ok (a, t)) : run step x s = .ok (a, t) := by
  induction x generalizing s with
  | pure b => exact success
  | fail e => exact (run_fail.mp success).elim
  | read k ih => exact ih s before success
  | exec c translate k ih =>
    simp only [run] at success
    cases accepted : weaker c s with
    | error e => simp [accepted] at success
    | ok r =>
      obtain ⟨stronger, after⟩ := accepts c s r.1 r.2 before accepted
      rw [accepted] at success
      rw [run, stronger]
      exact ih r.1 after success

/-! ### How a transaction can fail -/

/-- Every error the transaction can end with satisfies `E`, whatever it reads and
whichever statement is refused. -/
def Raises (E : ε → Prop) : Tx σ S φ ε α → Prop
  | .pure _ => True
  | .fail e => E e
  | .read k => ∀ s, Raises E (k s)
  | .exec _ translate k => (∀ f, E (translate f)) ∧ ∀ n, Raises E (k n)

variable {E : ε → Prop}

@[simp] theorem raises_pure : (Pure.pure a : Tx σ S φ ε α).Raises E := trivial

theorem Raises.bind (first : x.Raises E) (rest : ∀ a, (f a).Raises E) : (x >>= f).Raises E := by
  show (x.bind f).Raises E
  induction x with
  | pure a => exact rest a
  | fail e => exact first
  | read k ih => exact fun s => ih s (first s)
  | exec c translate k ih => exact ⟨first.1, fun n => ih n (first.2 n)⟩

@[simp] theorem raises_get_bind {f : σ → Tx σ S φ ε α} :
    (get >>= f).Raises E ↔ ∀ s, (f s).Raises E := Iff.rfl

@[simp] theorem raises_perform :
    (perform translate c : Tx σ S φ ε Nat).Raises E ↔ ∀ f, E (translate f) :=
  ⟨fun h => h.1, fun h => ⟨h, fun _ => trivial⟩⟩

@[simp] theorem raises_require [Decidable p] :
    (require p e : Tx σ S φ ε Unit).Raises E ↔ (¬ p → E e) := by
  unfold require
  split <;> rename_i h
  · exact ⟨fun _ failed => (failed h).elim, fun _ => trivial⟩
  · exact ⟨fun raised _ => raised, fun raised => raised h⟩

@[simp] theorem raises_onlyIf [Decidable p] {x : Tx σ S φ ε Unit} :
    (onlyIf p x).Raises E ↔ (p → x.Raises E) := by
  unfold onlyIf
  split <;> rename_i h
  · simp [h]
  · exact ⟨fun _ holds => (h holds).elim, fun _ => trivial⟩

@[simp] theorem raises_expect : (expect o e : Tx σ S φ ε α).Raises E ↔ (o = none → E e) := by
  cases o with
  | none => exact ⟨fun raised _ => raised, fun raised => raised rfl⟩
  | some a => exact ⟨fun _ found => (nomatch found), fun _ => trivial⟩

@[simp] theorem raises_lift {x : Except ε α} :
    (lift x : Tx σ S φ ε α).Raises E ↔ ∀ e, x = .error e → E e := by
  cases x with
  | error e => exact ⟨fun raised _ same => by cases same; exact raised, fun raised => raised e rfl⟩
  | ok a => exact ⟨fun _ _ found => (nomatch found), fun _ => trivial⟩

/-- A sequence fails in its first part, or in the rest after the first succeeded. -/
theorem run_bind_error :
    run step (x >>= f) s = .error e ↔
      run step x s = .error e ∨ ∃ a t, run step x s = .ok (a, t) ∧ run step (f a) t = .error e := by
  rw [run_bind_eq]
  cases h : run step x s with
  | error e' => simp
  | ok r =>
    obtain ⟨a, t⟩ := r
    constructor
    · exact fun later => .inr ⟨a, t, rfl, later⟩
    · rintro (same | ⟨_, _, same, later⟩)
      · cases same
      · cases same
        exact later

theorem run_raises (raises : x.Raises E) (failure : run step x s = .error e) : E e := by
  induction x generalizing s with
  | pure a => cases failure
  | fail e =>
    cases failure
    exact raises
  | read k ih => exact ih s (raises s) failure
  | exec c translate k ih =>
    simp only [run] at failure
    cases accepted : step c s with
    | error f =>
      rw [accepted] at failure
      cases failure
      exact raises.1 f
    | ok r =>
      rw [accepted] at failure
      exact ih r.1 (raises.2 r.1) failure

/-- Every event of a trace is an accepted statement of `P`, submitted in a store
that still satisfies whatever such statements keep. -/
theorem mem_trace (keep : ∀ c s n t, P c → I s → step c s = .ok (n, t) → I t)
    (submits : x.Submits P) (before : I s) (member : event ∈ trace step x s) :
    P event.statement ∧ I event.pre ∧
      ∃ n, step event.statement event.pre = .ok (n, event.post) := by
  induction x generalizing s with
  | pure b => cases member
  | fail e => cases member
  | read k ih => exact ih s (submits s) before member
  | exec c translate k ih =>
    simp only [trace] at member
    cases accepted : step c s with
    | error e => simp [accepted] at member
    | ok r =>
      rw [accepted] at member
      rcases List.mem_cons.mp member with rfl | later
      · exact ⟨submits.1, before, r.1, accepted⟩
      · exact ih r.1 (submits.2 r.1) (keep c s r.1 r.2 submits.1 before accepted) later

/-- The events of a sequence are those of its first part and, once that succeeded,
those of the rest. -/
theorem mem_trace_bind :
    event ∈ trace step (x >>= f) s ↔ event ∈ trace step x s ∨
      ∃ a t, run step x s = .ok (a, t) ∧ event ∈ trace step (f a) t := by
  show event ∈ trace step (x.bind f) s ↔ _
  induction x generalizing s with
  | pure a =>
    constructor
    · exact fun later => .inr ⟨a, s, rfl, later⟩
    · rintro (never | ⟨_, _, same, later⟩)
      · cases never
      · cases same
        exact later
  | fail e => simp [bind, trace, run]
  | read k ih => exact ih s
  | exec c translate k ih =>
    simp only [bind, trace, run]
    cases step c s with
    | error e => simp
    | ok r => simp only [List.mem_cons, ih, or_assoc]

theorem mem_trace_perform (member : event ∈ trace step (perform translate c : Tx σ S φ ε Nat) s) :
    event.pre = s ∧ event.statement = c := by
  simp only [perform, trace] at member
  cases accepted : step c s with
  | error e => simp [accepted] at member
  | ok r =>
    simp only [accepted, List.mem_cons, List.not_mem_nil, or_false] at member
    rw [member]
    exact ⟨rfl, rfl⟩

/-- A property kept by every statement a run accepted holds where the run ends. -/
theorem run_keeps (keep : ∀ event ∈ trace step x s, ∀ n,
      step event.statement event.pre = .ok (n, event.post) → I event.pre → I event.post)
    (before : I s) (success : run step x s = .ok (a, t)) : I t := by
  induction x generalizing s with
  | pure b =>
    obtain ⟨-, rfl⟩ := run_pure.mp success
    exact before
  | fail e => exact (run_fail.mp success).elim
  | read k ih => exact ih s keep before success
  | exec c translate k ih =>
    simp only [run] at success
    simp only [trace] at keep
    cases accepted : step c s with
    | error e => simp [accepted] at success
    | ok r =>
      rw [accepted] at success keep
      exact ih r.1 (fun event later => keep event (List.mem_cons_of_mem _ later))
        (keep _ List.mem_cons_self r.1 accepted before) success

/-- A property every accepted statement of `P` keeps is kept by every transaction
that submits only such statements. -/
theorem run_preserves (keep : ∀ c s n t, P c → I s → step c s = .ok (n, t) → I t)
    (submits : x.Submits P) (before : I s) (success : run step x s = .ok (a, t)) : I t := by
  refine run_keeps (fun event member n accepted holds => ?_) before success
  have allowed := mem_trace (I := fun _ => True) (fun _ _ _ _ _ _ _ => trivial) submits trivial
    member
  exact keep _ _ n _ allowed.1 holds accepted

/-- A transaction that submits nothing leaves the store as it is. -/
theorem run_unchanged (submits : x.Submits fun _ => False) (success : run step x s = .ok (a, t)) :
    t = s :=
  run_preserves (I := fun u => u = s) (fun _ _ _ _ never => never.elim) submits rfl success

end Run

/-- A relation between the stores before and after a transaction that is
reflexive and transitive holds if every accepted statement of `P` establishes it. -/
theorem run_relates {step : S → σ → Except φ (Nat × σ)} {P : S → Prop} {rel : σ → σ → Prop}
    (refl : ∀ s, rel s s) (trans : ∀ {s t u}, rel s t → rel t u → rel s u)
    (keep : ∀ c s n t, P c → step c s = .ok (n, t) → rel s t)
    {x : Tx σ S φ ε α} (submits : x.Submits P) {s t : σ} {a : α}
    (success : run step x s = .ok (a, t)) : rel s t :=
  run_preserves (I := rel s) (fun c _ n _ member before accepted =>
    trans before (keep c _ n _ member accepted)) submits (refl s) success

end Tx
end ThinkPixelAR.Relational
