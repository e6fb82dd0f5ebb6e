import ThinkPixelAR.Domain.Session

/-!
Histories of a Session. Callers hold a Session from `New` or `Restore` and may call
`Transition` any number of times, with any target, expected version and clock; some
calls are refused, some repeat an end state, some take an edge. What a Session is
after such a history, and whether `Restore` would load it again, is derived from the
effect of one call.
-/
namespace ThinkPixelAR.Session

open Relational

variable {s : Session}

/-- A Session as callers get it. -/
inductive Constructed : Session → Prop
  | new {id : ID} {binding : RawBinding} {now : Time} {s : Session}
      (created : create id binding now = .ok s) : Constructed s
  | restored {id : ID} {binding : RuntimeBinding} {state : State} {recoveryState : Option State}
      {stateVersion executionGeneration : Nat} {createdAt updatedAt : Time}
      {closedAt : Option Time} {s : Session}
      (accepted : restore id binding state recoveryState stateVersion executionGeneration
        createdAt updatedAt closedAt = .ok s) : Constructed s

/-- The Session after the calls. -/
abbrev afterCalls (s : Session) (calls : List Call) : Session := Method.history Call.method s calls

/-- What `Restore` and every call maintain. -/
structure WellFormed (s : Session) : Prop where
  identified : validID s.id = true
  created : s.createdAt ≠ 0
  updated : s.createdAt ≤ s.updatedAt
  recovery : s.recoveryState.isSome = true ↔ s.state = .degraded
  recoverable : s.recoveryState ≠ some .degraded ∧ s.recoveryState ≠ some .closed
  closed : s.closedAt.isSome = true ↔ s.state = .closed
  closedLater : ∀ t, s.closedAt = some t → s.createdAt ≤ t
  version : s.stateVersion < 2 ^ 64
  generation : s.executionGeneration ≤ maxInt64

/-! ### Loading again -/

/-- `Restore` with the Session's own fields. -/
def reload (s : Session) : Except Error Session :=
  restore s.id s.binding s.state s.recoveryState s.stateVersion s.executionGeneration s.createdAt
    s.updatedAt s.closedAt

theorem reload_ok_iff : s.reload = .ok s ↔ s.WellFormed ∧ s.stateVersion ≤ maxInt64 := by
  unfold reload restore
  constructor
  · intro accepted
    split at accepted
    next => cases accepted
    next fields =>
      split at accepted
      next => cases accepted
      next recovery =>
        split at accepted
        next => cases accepted
        next states =>
          simp only [Bool.or_eq_true, Bool.not_eq_true', decide_eq_true_eq, not_or, not_lt,
            Bool.not_eq_false, bne_iff_ne, ne_eq, not_not] at fields recovery states
          obtain ⟨⟨⟨⟨identified, created⟩, updated⟩, version⟩, generation⟩ := fields
          obtain ⟨⟨closed, later⟩, degraded⟩ := states
          refine ⟨⟨identified, created, updated, ?_, recovery, ?_, ?_, ?_, generation⟩, version⟩
          · rw [← degraded, decide_eq_true_eq]
          · rw [← closed, decide_eq_true_eq]
          · intro t stamped
            simpa [stamped] using later
          · exact lt_of_le_of_lt version (by decide)
  · rintro ⟨formed, version⟩
    have closed : decide (s.state = .closed) = s.closedAt.isSome := by
      rw [Bool.eq_iff_iff, decide_eq_true_eq, formed.closed]
    have degraded : decide (s.state = .degraded) = s.recoveryState.isSome := by
      rw [Bool.eq_iff_iff, decide_eq_true_eq, formed.recovery]
    have later : s.closedAt.any (fun t => decide (t < s.createdAt)) = false := by
      cases stamped : s.closedAt with
      | none => rfl
      | some t => simpa using formed.closedLater t stamped
    rw [if_neg (by simp [formed.identified, formed.created, formed.updated, version,
        formed.generation]),
      if_neg (by simp [formed.recoverable]), if_neg (by simp [closed, degraded, later])]

theorem Constructed.reloads (start : Constructed s) : s.reload = .ok s := by
  cases start with
  | new created =>
    unfold create at created
    split at created
    next => cases created
    next identified =>
      split at created
      next => cases created
      next =>
        split at created
        next => cases created
        next clock =>
          cases created
          simp only [Bool.not_eq_true', Bool.not_eq_false] at identified
          simp [reload, restore, identified, clock, maxInt64]
  | restored accepted =>
    have found := accepted
    unfold restore at found
    split at found
    next => cases found
    next =>
      split at found
      next => cases found
      next =>
        split at found
        next => cases found
        next =>
          cases found
          exact accepted

theorem Constructed.wellFormed (start : Constructed s) : s.WellFormed :=
  (reload_ok_iff.mp start.reloads).1

theorem Constructed.of_reloads (loads : s.reload = .ok s) : Constructed s :=
  .restored loads

/-! ### One call -/

/-- The Session after the edge to `next`. -/
def moved (s : Session) (next : State) (now : Time) : Session :=
  { s with
    recoveryState :=
      if next = .degraded then some s.state
      else if s.state = .degraded then none
      else s.recoveryState
    executionGeneration :=
      if admission s.state next then increment s.executionGeneration else s.executionGeneration
    state := next
    stateVersion := increment s.stateVersion
    updatedAt := now
    closedAt := if next = .closed then some now else s.closedAt }

theorem WellFormed.moved_generation (formed : s.WellFormed) (next : State) (now : Time) :
    (s.moved next now).executionGeneration =
      s.executionGeneration + (admission s.state next).toNat := by
  unfold moved
  cases admits : admission s.state next with
  | false => simp
  | true => simp [increment_eq_of_le formed.generation]

/-- The edges a call can take from `s`. -/
structure Edge (s : Session) (next : State) (now : Time) : Prop where
  moves : next ≠ s.state
  allowed : s.canTransition next = true
  monotone : s.updatedAt ≤ now
  room : admission s.state next = true → s.executionGeneration ≠ maxInt64

/-- A call leaves the Session alone or takes an edge. -/
theorem Call.after_cases (c : Call) (s : Session) :
    c.method.after s = s ∨
      ∃ next, c.target = some next ∧ Edge s next c.now ∧ c.method.after s = s.moved next c.now := by
  rcases Method.after_cases (fun s => c.method_call s) (s := s) with same | taken
  · exact .inl same
  · obtain ⟨target, expectedVersion, now⟩ := c
    generalize Method.after _ s = t at taken
    unfold attempt at taken
    cases target with
    | none =>
      dsimp only at taken
      split at taken <;> cases taken
    | some next =>
      dsimp only at taken
      unfold transition at taken
      split at taken
      next => cases taken
      next =>
        split at taken
        next => cases taken
        next late =>
          split at taken
          next =>
            split at taken
            next =>
              cases taken
              exact .inl rfl
            next => cases taken
          next different =>
            split at taken
            next => cases taken
            next edge =>
              split at taken
              next => cases taken
              next room =>
                cases taken
                refine .inr ⟨next, rfl, ⟨different, by simpa using edge, ?_, ?_⟩, rfl⟩
                · exact not_lt.mp (not_or.mp late).2
                · exact fun admits full => room ⟨admits, full⟩

namespace Edge

variable {next : State} {now : Time}

theorem living (edge : Edge s next now) : s.state ≠ .closed := by
  intro closed
  have allowed := edge.allowed
  simp [canTransition, closed, Session.allowed] at allowed

theorem from_closing (edge : Edge s next now) (closing : s.state = .closing) : next = .closed := by
  have allowed := edge.allowed
  have moves := edge.moves
  rw [closing] at moves
  simp only [canTransition, closing, ne_eq, reduceCtorEq, not_false_eq_true, true_and, if_neg moves,
    if_false] at allowed
  cases next <;> simp_all [Session.allowed]

theorem wellFormed (edge : Edge s next now) (formed : s.WellFormed) :
    (s.moved next now).WellFormed := by
  have living := edge.living
  have unclosed : s.closedAt = none := by
    rw [← Option.not_isSome_iff_eq_none, formed.closed]
    exact living
  have started : s.createdAt ≤ now := le_trans formed.updated edge.monotone
  refine ⟨formed.identified, formed.created, started, ?_, ?_, ?_, ?_, ?_, ?_⟩
  · by_cases failing : next = .degraded
    · simp [moved, failing]
    · by_cases recovering : s.state = .degraded
      · simp [moved, failing, recovering]
      · have steady : s.recoveryState = none := by
          rw [← Option.not_isSome_iff_eq_none, formed.recovery]
          exact recovering
        simp [moved, failing, recovering, steady]
  · by_cases failing : next = .degraded
    · have healthy : s.state ≠ .degraded := fun same => edge.moves (failing.trans same.symm)
      simp [moved, failing, living, healthy]
    · by_cases recovering : s.state = .degraded
      · simp [moved, failing, recovering]
      · simpa [moved, failing, recovering] using formed.recoverable
  · by_cases closing : next = .closed <;> simp [moved, closing, unclosed]
  · intro t stamped
    by_cases closing : next = .closed
    · simp only [moved, if_pos closing, Option.some.injEq] at stamped
      exact stamped ▸ started
    · simp [moved, closing, unclosed] at stamped
  · exact Nat.mod_lt _ (by decide)
  · rw [formed.moved_generation]
    cases admits : admission s.state next with
    | false => simpa using formed.generation
    | true => exact lt_of_le_of_ne formed.generation (edge.room admits)

end Edge

theorem WellFormed.after (formed : s.WellFormed) (c : Call) : (c.method.after s).WellFormed := by
  rcases c.after_cases s with same | ⟨next, -, edge, taken⟩
  · rw [same]
    exact formed
  · rw [taken]
    exact edge.wellFormed formed

theorem WellFormed.afterCalls (formed : s.WellFormed) (calls : List Call) :
    (s.afterCalls calls).WellFormed :=
  Method.Along.invariant (fun _ c before _ => before.after c) formed (Method.along_true s calls)

/-! ### Any history -/

/-- The call changed the state. -/
def changed (s t : Session) : Bool := s.state ≠ t.state

/-- The call admitted an Execution. -/
def admitted (s t : Session) : Bool := admission s.state t.state

/-- A Session after calls, against the Session it was. Versions are `uint64` sums. -/
structure AfterCalls (s : Session) (calls : List Call) : Prop where
  recovery : (s.afterCalls calls).recoveryState.isSome = true ↔
    (s.afterCalls calls).state = .degraded
  closed : (s.afterCalls calls).closedAt.isSome = true ↔ (s.afterCalls calls).state = .closed
  updated : (s.afterCalls calls).createdAt ≤ (s.afterCalls calls).updatedAt
  monotone : s.updatedAt ≤ (s.afterCalls calls).updatedAt
  identity : (s.afterCalls calls).id = s.id ∧ (s.afterCalls calls).createdAt = s.createdAt
  binding : (s.afterCalls calls).binding = s.binding
  version : (s.afterCalls calls).stateVersion =
    (s.stateVersion + Method.tally Call.method changed s calls) % 2 ^ 64
  generation : (s.afterCalls calls).executionGeneration =
    s.executionGeneration + Method.tally Call.method admitted s calls

/-- One more call. -/
structure OneCall (s : Session) (c : Call) : Prop where
  monotone : s.updatedAt ≤ (c.method.after s).updatedAt
  refused : ∀ e, (c.method.call s).1 = .error e → c.method.after s = s
  repeated : c.target = some s.state → s.state = .closing ∨ s.state = .closed →
    c.method.after s = s
  final : c.method.after s ≠ s → s.state ≠ .closed
  closing : c.method.after s ≠ s → s.state = .closing → (c.method.after s).state = .closed

theorem Call.after_updatedAt (c : Call) (s : Session) :
    s.updatedAt ≤ (c.method.after s).updatedAt := by
  rcases c.after_cases s with same | ⟨next, -, edge, taken⟩
  · rw [same]
  · rw [taken]
    exact edge.monotone

theorem Call.after_frame (c : Call) (s : Session) :
    (c.method.after s).id = s.id ∧ (c.method.after s).createdAt = s.createdAt ∧
      (c.method.after s).binding = s.binding := by
  rcases c.after_cases s with same | ⟨next, -, -, taken⟩
  · rw [same]
    exact ⟨rfl, rfl, rfl⟩
  · rw [taken]
    exact ⟨rfl, rfl, rfl⟩

theorem Call.after_version (c : Call) (s : Session) :
    (c.method.after s).stateVersion ≡
      s.stateVersion + (changed s (c.method.after s)).toNat [MOD 2 ^ 64] := by
  rcases c.after_cases s with same | ⟨next, -, edge, taken⟩
  · rw [same]
    simp [changed, Nat.ModEq.refl]
  · have moves : changed s (s.moved next c.now) = true := decide_eq_true edge.moves.symm
    rw [taken, moves]
    exact Nat.mod_modEq _ _

theorem Call.after_generation (c : Call) (formed : s.WellFormed) :
    (c.method.after s).executionGeneration =
      s.executionGeneration + (admitted s (c.method.after s)).toNat := by
  rcases c.after_cases s with same | ⟨next, -, edge, taken⟩
  · rw [same]
    cases state : s.state <;> simp [admitted, admission, state]
  · rw [taken]
    exact formed.moved_generation next c.now

theorem afterCalls_frame (s : Session) (calls : List Call) :
    (s.afterCalls calls).id = s.id ∧ (s.afterCalls calls).createdAt = s.createdAt ∧
      (s.afterCalls calls).binding = s.binding := by
  refine Method.Along.invariant (G := fun _ _ => True)
    (P := fun t => t.id = s.id ∧ t.createdAt = s.createdAt ∧ t.binding = s.binding)
    (fun t c before _ => ?_) ⟨rfl, rfl, rfl⟩ (Method.along_true s calls)
  obtain ⟨id, created, binding⟩ := c.after_frame t
  exact ⟨id.trans before.1, created.trans before.2.1, binding.trans before.2.2⟩

theorem WellFormed.afterCalls_facts (formed : s.WellFormed) (calls : List Call) :
    AfterCalls s calls := by
  have ends := formed.afterCalls calls
  obtain ⟨id, created, binding⟩ := afterCalls_frame s calls
  refine ⟨ends.recovery, ends.closed, ends.updated, ?_, ⟨id, created⟩, binding, ?_, ?_⟩
  · exact Method.Along.monotone (G := fun _ _ => True) (P := fun _ => True) (f := updatedAt)
      (fun _ _ _ _ => trivial) (fun t c _ _ => c.after_updatedAt t) trivial
      (Method.along_true s calls)
  · have counted := Method.tally_counts (P := fun _ => True) (f := stateVersion)
      (fun _ _ _ => trivial) (fun t c _ => Call.after_version c t) trivial calls (s := s)
    rwa [Nat.ModEq, Nat.mod_eq_of_lt ends.version] at counted
  · exact Nat.modEq_zero_iff.mp (Method.tally_counts (P := WellFormed)
      (fun _ c before => before.after c)
      (fun _ c before => Nat.modEq_zero_iff.mpr (c.after_generation before)) formed calls)

theorem Call.facts (c : Call) (s : Session) : OneCall s c := by
  refine ⟨c.after_updatedAt s, fun e => ?_, fun target _ => ?_, fun applied => ?_,
    fun applied closing => ?_⟩
  · exact Method.after_of_error fun s => c.method_call s
  · rcases c.after_cases s with same | ⟨next, taken, edge, -⟩
    · exact same
    · exact (edge.moves (Option.some.inj (taken.symm.trans target))).elim
  · rcases c.after_cases s with same | ⟨next, -, edge, -⟩
    · exact (applied same).elim
    · exact edge.living
  · rcases c.after_cases s with same | ⟨next, -, edge, taken⟩
    · exact (applied same).elim
    · rw [taken]
      exact edge.from_closing closing

/-- Whatever calls are made of a Session from `New` or `Restore`, its fields agree with
its history, and one more call is refused, repeats an end state or takes a legal edge. -/
theorem transition_history {s : Session} (start : Constructed s) (calls : List Call) :
    AfterCalls s calls ∧ ∀ c, OneCall (s.afterCalls calls) c :=
  ⟨start.wellFormed.afterCalls_facts calls, fun c => c.facts _⟩

namespace Sample

def runtime : RuntimeBinding where
  raw :=
    { authorityMode := some .localAuthority, authorityNamespace := "local", agentID := "agent"
      agentVersionID := "1", runtimeSpecSchemaVersion := "1", runtimeSpec := "\x7b\x7d"
      runtimeSpecDigest := some ⟨0⟩, runtimeProfileSchemaVersion := "1"
      runtimeProfileSnapshot := "\x7b\x7d", runtimeProfileDigest := some ⟨0⟩ }
  valid := by decide +kernel

/-- A READY Session of any age. -/
def ready (version : Nat) : Session :=
  { id := ID.v7 2, state := .ready, stateVersion := version, executionGeneration := 0
    binding := runtime, recoveryState := none, createdAt := 1, updatedAt := 1, closedAt := none }

theorem ready_constructed {version : Nat} (bounded : version ≤ maxInt64) :
    Constructed (ready version) := by
  have identified : validID (ID.v7 2) = true := by decide
  refine .of_reloads ?_
  simp [reload, restore, ready, identified, Nat.not_lt.mpr bounded]

/-- Admitted, degraded, recovered and closed, with a refused and a repeated call. -/
def calls : List Call :=
  [⟨some .active, 7, 2⟩, ⟨some .closed, 8, 2⟩, ⟨some .degraded, 8, 3⟩, ⟨some .active, 9, 3⟩,
    ⟨some .closing, 10, 4⟩, ⟨some .closing, 11, 4⟩, ⟨some .closed, 11, 5⟩]

end Sample

open Sample

/-- The sample ends CLOSED, five versions and one generation later. -/
theorem transition_history_sample :
    (AfterCalls (ready 7) calls ∧
      ∀ c, OneCall ((ready 7).afterCalls calls) c) ∧
      ((ready 7).afterCalls calls).state = .closed ∧
      ((ready 7).afterCalls calls).stateVersion = 12 ∧
      ((ready 7).afterCalls calls).executionGeneration = 1 :=
  ⟨transition_history (ready_constructed (by decide)) calls, rfl, rfl, rfl⟩

/-! ### Loading after a history

`Restore` refuses versions beyond `math.MaxInt64`. `Transition` refuses to take the
generation there, but not the version. -/

theorem Call.after_version_le (c : Call) (below : s.stateVersion < maxInt64) :
    (c.method.after s).stateVersion ≤ maxInt64 := by
  rcases c.after_cases s with same | ⟨next, -, -, taken⟩
  · rw [same]
    exact le_of_lt below
  · rw [taken]
    show increment s.stateVersion ≤ maxInt64
    rw [increment_eq_of_le (le_of_lt below)]
    exact below

/-- A Session whose calls are all made below the largest version is loaded again. -/
theorem history_reloads {s : Session} (start : Constructed s) {calls : List Call}
    (below : Method.Along Call.method (fun t _ => t.stateVersion < maxInt64) s calls) :
    (s.afterCalls calls).reload = .ok (s.afterCalls calls) := by
  refine reload_ok_iff.mpr (Method.Along.invariant
    (P := fun t => t.WellFormed ∧ t.stateVersion ≤ maxInt64) (fun t c before version => ?_)
    (reload_ok_iff.mp start.reloads) below)
  exact ⟨before.1.after c, c.after_version_le version⟩

theorem history_reloads_sample :
    ((ready 7).afterCalls calls).reload =
      .ok ((ready 7).afterCalls calls) := by
  refine history_reloads (ready_constructed (by decide)) ?_
  refine ⟨?_, ?_, ?_, ?_, ?_, ?_, ?_, trivial⟩ <;> decide

/-- At the largest version a call is accepted and leaves a Session that is refused. -/
theorem last_version_not_reloaded :
    Constructed (ready maxInt64) ∧
      (Call.method ⟨some .suspended, maxInt64, 2⟩).call (ready maxInt64) =
        (.ok (), (ready maxInt64).afterCalls [⟨some .suspended, maxInt64, 2⟩]) ∧
      ((ready maxInt64).afterCalls [⟨some .suspended, maxInt64, 2⟩]).reload =
        .error errInvalidSession :=
  ⟨ready_constructed (le_refl _), rfl, rfl⟩

end ThinkPixelAR.Session
