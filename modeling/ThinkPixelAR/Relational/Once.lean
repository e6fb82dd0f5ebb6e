import Mathlib.Data.List.Basic

/-!
Requests that are made at most once. A machine answers calls; the calls of one family
share a slot. The first call that makes the request fills the slot with its key and, if
the outcome is known, the outcome. The slot is never changed again, and later calls are
answered from it.
-/
namespace ThinkPixelAR.Relational.Once

variable {σ τ κ ε β : Type}

/-- The state after all calls. -/
def run (call : τ → σ → Except ε β × σ) (s : σ) (calls : List τ) : σ :=
  calls.foldl (fun t c => (call c t).2) s

/-- A family of calls: the slot, the key of a call that belongs to it, and how many
requests were made. -/
structure Family (σ τ κ β : Type) where
  slot : σ → Option (κ × Option β)
  key : τ → Option κ
  count : σ → Nat

/-- What each single call does to the slot of a family, in the states that `Inv` holds of.
`Passes` are the checks made of the arguments. -/
structure Family.Lawful (F : Family σ τ κ β) (call : τ → σ → Except ε β × σ) (Inv : σ → Prop)
    (Passes : τ → Prop) : Prop where
  keeps : ∀ {c s}, Inv s → Inv (call c s).2
  frozen : ∀ {c s x}, Inv s → F.slot s = some x → F.slot (call c s).2 = some x
  counted : ∀ {c s}, Inv s → F.count (call c s).2 + (F.slot s).isSome.toNat =
    F.count s + (F.slot (call c s).2).isSome.toNat
  other : ∀ {c s k j v}, Inv s → F.key c = some k → F.slot s = some (j, v) → k ≠ j →
    ∃ e, (call c s).1 = .error e
  unknown : ∀ {c s k}, Inv s → F.key c = some k → F.slot s = some (k, none) →
    ∃ e, (call c s).1 = .error e
  known : ∀ {c s k b}, Inv s → F.key c = some k → F.slot s = some (k, some b) → Passes c →
    call c s = (.ok b, s)
  returned : ∀ {c s k b}, Inv s → F.key c = some k → (call c s).1 = .ok b →
    F.slot (call c s).2 = some (k, some b) ∧ Passes c
  requested : ∀ {c s k}, Inv s → F.key c = some k → F.count (call c s).2 ≠ F.count s →
    ∃ v, F.slot (call c s).2 = some (k, v)

/-- What a call of the family with the key `k` does: it fails, it repeats the outcome the slot
records for its key, or it fills the empty slot. -/
inductive Family.Takes (F : Family σ τ κ β) (Passes : Prop) (s : σ) (k : κ) :
    Except ε β × σ → Prop
  | refused (e : ε) : Takes F Passes s k (.error e, s)
  | replayed {b : β} : Passes → F.slot s = some (k, some b) → Takes F Passes s k (.ok b, s)
  | asked {answer : Except ε β} {t : σ} {v : Option β} : Passes → F.slot s = none →
      F.slot t = some (k, v) → (∀ b, answer = .ok b → v = some b) →
      Takes F Passes s k (answer, t)

section Takes
variable {F : Family σ τ κ β} {Passes : Prop} {s : σ} {k j : κ} {v : Option β} {b : β}
  {result : Except ε β × σ} (takes : F.Takes Passes s k result)
include takes

theorem Family.Takes.error (filled : F.slot s = some (j, v)) (unusable : k ≠ j ∨ v = none) :
    ∃ e, result.1 = .error e := by
  cases takes with
  | refused e => exact ⟨e, rfl⟩
  | replayed _ found =>
    cases found.symm.trans filled
    simp at unusable
  | asked _ fresh => cases fresh.symm.trans filled

theorem Family.Takes.returned (returned : result.1 = .ok b) :
    F.slot result.2 = some (k, some b) ∧ Passes := by
  cases takes with
  | refused e => cases returned
  | replayed passes found =>
    cases returned
    exact ⟨found, passes⟩
  | asked passes _ slot ok => exact ⟨ok b returned ▸ slot, passes⟩

theorem Family.Takes.requested (made : F.count result.2 ≠ F.count s) :
    ∃ v, F.slot result.2 = some (k, v) := by
  cases takes with
  | refused | replayed => exact absurd rfl made
  | asked _ _ slot => exact ⟨_, slot⟩

end Takes

section Runs
variable {F : Family σ τ κ β} {call : τ → σ → Except ε β × σ} {Inv : σ → Prop}
  {Passes : τ → Prop} (lawful : F.Lawful call Inv Passes)
include lawful

theorem inv_run {s : σ} (start : Inv s) (calls : List τ) : Inv (run call s calls) := by
  induction calls generalizing s with
  | nil => exact start
  | cons c rest ih => exact ih (lawful.keeps start)

theorem slot_run {s : σ} {x : κ × Option β} (start : Inv s) (filled : F.slot s = some x)
    (calls : List τ) : F.slot (run call s calls) = some x := by
  induction calls generalizing s with
  | nil => exact filled
  | cons c rest ih => exact ih (lawful.keeps start) (lawful.frozen start filled)

/-- The requests made are counted by the slot. -/
theorem count_run {s : σ} (start : Inv s) (calls : List τ) :
    F.count (run call s calls) + (F.slot s).isSome.toNat =
      F.count s + (F.slot (run call s calls)).isSome.toNat := by
  induction calls generalizing s with
  | nil => rfl
  | cons c rest ih =>
    have one := lawful.counted (c := c) start
    have more := ih (lawful.keeps (c := c) start)
    rw [run, List.foldl_cons]
    rw [run] at more
    omega

theorem count_le_one {s : σ} (start : Inv s) (fresh : F.count s = 0) (calls : List τ) :
    F.count (run call s calls) ≤ 1 := by
  have counted := count_run lawful start calls
  have bound := Bool.toNat_le (F.slot (run call s calls)).isSome
  omega

variable {s : σ} {first later : τ} {j k : κ}

/-- A call that filled the slot without an outcome fails for ever. -/
theorem failed_again (start : Inv s) (same : F.key later = some k)
    (filled : F.slot (call first s).2 = some (k, none)) (between : List τ) :
    ∃ e, (call later (run call (call first s).2 between)).1 = .error e := by
  have kept := lawful.keeps (c := first) start
  exact lawful.unknown (inv_run lawful kept between) same (slot_run lawful kept filled between)

/-- An outcome that was returned is returned again, and nothing else happens. -/
theorem returned_again {b : β} (start : Inv s) (keyed : F.key first = some k)
    (same : F.key later = some k) (alike : Passes first → Passes later)
    (returned : (call first s).1 = .ok b) (between : List τ) :
    call later (run call (call first s).2 between) =
      (.ok b, run call (call first s).2 between) := by
  obtain ⟨filled, passes⟩ := lawful.returned start keyed returned
  have kept := lawful.keeps (c := first) start
  exact lawful.known (inv_run lawful kept between) same (slot_run lawful kept filled between)
    (alike passes)

/-- After the request was made, a call with another key fails. -/
theorem changed_fails (start : Inv s) (keyed : F.key first = some j)
    (other : F.key later = some k) (differs : k ≠ j)
    (made : F.count (call first s).2 ≠ F.count s) (between : List τ) :
    ∃ e, (call later (run call (call first s).2 between)).1 = .error e := by
  obtain ⟨v, filled⟩ := lawful.requested start keyed made
  have kept := lawful.keeps (c := first) start
  exact lawful.other (inv_run lawful kept between) other (slot_run lawful kept filled between)
    differs

end Runs

end ThinkPixelAR.Relational.Once
