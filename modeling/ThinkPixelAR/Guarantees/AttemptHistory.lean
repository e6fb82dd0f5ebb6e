import ThinkPixelAR.Domain.Attempt
import ThinkPixelAR.Guarantees.ExecutionHistory

/-!
Histories of an Attempt. Five methods share the version, the clock and the terminal
guard; what each of them can do is said once, and what an Attempt is after any history
of them follows: its evidence, its designation, its references and its two heartbeats,
and that `Restore` loads it again as it is.
-/
namespace ThinkPixelAR.Attempt

open Relational

variable {now : Time} {answer : Except Error Unit × Attempt}

/-- The Attempt after the calls. -/
abbrev afterCalls (a : Attempt) (calls : List Call) : Attempt := Method.history Call.method a calls

/-- `Restore` with the Attempt's own fields. -/
def reload (a : Attempt) : Except Error Attempt :=
  restore a.id a.binding a.state a.stateVersion a.current a.sandboxReference a.harnessReference
    a.sandboxHeartbeatAt a.harnessHeartbeatAt a.terminalResult a.createdAt a.updatedAt a.terminalAt

/-! ### What a call can do -/

/-- The edge to a state, with the evidence of a terminal one. -/
def edge (a : Attempt) (next : State) (result : Option TerminalResult) (now : Time) : Attempt :=
  { a with
    state := next
    stateVersion := increment a.stateVersion
    updatedAt := now
    terminalResult := if result.isSome then result else a.terminalResult
    terminalAt := if result.isSome then some now else a.terminalAt
    current := if result.isSome then false else a.current }

/-- What one call can do. -/
inductive Takes (a : Attempt) : Except Error Unit × Attempt → Prop
  | refused (error : Error) : Takes a (.error error, a)
  /-- The same reference, or the same terminal result, again. -/
  | repeated : Takes a (.ok (), a)
  | bound {peer : Peer} {reference : ID} {now : Time} : a.state.isTerminal = false →
      a.updatedAt ≤ now → a.reference peer = none → validID reference = true →
      Takes a (.ok (), advance now (setReference peer reference a))
  | observed {peer : Peer} {observedAt now : Time} : a.state.isTerminal = false →
      a.updatedAt ≤ now → a.createdAt ≤ observedAt → observedAt ≤ now →
      (∀ last, a.heartbeatAt peer = some last → last ≤ observedAt) →
      Takes a (.ok (), advance now (setHeartbeat peer observedAt a))
  | taken {next : State} {result : Option TerminalResult} {now : Time} :
      legal a.state next = true → a.updatedAt ≤ now → result.isSome = next.isTerminal →
      (result.all Execution.validResult) = true → Takes a (.ok (), a.edge next result now)

section Calls
variable {a t : Attempt}

theorem validateMutation_later {expectedVersion : Nat}
    (accepted : a.validateMutation expectedVersion now = .ok ()) : a.updatedAt ≤ now := by
  unfold validateMutation at accepted
  split at accepted
  · cases accepted
  split at accepted
  · cases accepted
  obtain ⟨later, accepted⟩ := unless_ok.mp accepted
  exact le_of_not_gt later

theorem bindInPlace_takes (peer : Peer) (reference : ID) (expectedVersion : Nat) (now : Time) :
    Takes a ((bindInPlace peer reference expectedVersion now).call a) := by
  unfold bindInPlace
  simp only [Method.call_get_bind]
  cases checked : a.validateMutation expectedVersion now with
  | error e => exact .refused e
  | ok =>
    have later := validateMutation_later checked
    simp only [Method.call_ite, Method.call_throw_bind]
    split
    · exact .refused _
    rename_i guarded
    simp only [Bool.or_eq_true, Bool.not_eq_true', not_or, Bool.not_eq_false,
      Bool.not_eq_true] at guarded
    cases held : a.reference peer with
    | none => exact .bound guarded.2 later held guarded.1
    | some bound =>
      simp only [Method.call_ite, Method.call_pure, Method.call_throw]
      split
      · exact .repeated
      · exact .refused _

theorem observeHeartbeatInPlace_takes (peer : Peer) (expectedVersion : Nat)
    (observedAt now : Time) :
    Takes a ((observeHeartbeatInPlace peer expectedVersion observedAt now).call a) := by
  unfold observeHeartbeatInPlace
  simp only [Method.call_get_bind]
  cases checked : a.validateMutation expectedVersion now with
  | error e => exact .refused e
  | ok =>
    have later := validateMutation_later checked
    simp only [Method.call_ite, Method.call_throw_bind, Method.call_modify_bind, Method.call_modify]
    split
    · exact .refused _
    rename_i guarded
    simp only [Bool.or_eq_true, Bool.not_eq_true', decide_eq_true_eq, not_or, not_lt,
      Bool.not_eq_true] at guarded
    obtain ⟨⟨⟨⟨⟨-, running⟩, -⟩, created⟩, past⟩, monotone⟩ := guarded
    refine .observed running later created past fun last held => ?_
    simpa [held] using monotone

theorem transitionInPlace_takes (target : Option State) (expectedVersion : Nat)
    (result : Option Execution.RawResult) (now : Time) :
    Takes a ((transitionInPlace target expectedVersion result now).call a) := by
  unfold transitionInPlace
  simp only [Method.call_get_bind]
  cases checked : a.validateMutation expectedVersion now with
  | error e => exact .refused e
  | ok =>
    have later := validateMutation_later checked
    cases target with
    | none => exact .refused _
    | some next =>
      simp only [Method.call_ite, Method.call_throw_bind, Method.call_modify_bind,
        Method.call_modify, Method.call_pure]
      split
      · split
        · exact .repeated
        · exact .refused _
      split
      · exact .refused _
      rename_i barred
      split
      · exact .refused _
      rename_i evidence
      simp only [Bool.not_eq_true, Bool.not_eq_false'] at barred
      simp only [Bool.or_eq_true, bne_iff_ne, ne_eq, not_or, not_not, Bool.not_eq_true] at evidence
      have stored := Execution.stored_result evidence.2
      have took : Takes a (.ok (), a.edge next (result.bind (·.parsed)) now) :=
        .taken barred later (stored.trans evidence.1.symm) (Execution.stored_valid evidence.2)
      unfold edge at took
      rw [stored] at took
      cases result with
      | none => exact took
      | some r => exact took

theorem Call.takes (c : Call) (a : Attempt) : Takes a (c.method.call a) := by
  cases c with
  | bind peer reference expectedVersion now =>
    exact bindInPlace_takes peer reference expectedVersion now
  | observeHeartbeat peer expectedVersion observedAt now =>
    exact observeHeartbeatInPlace_takes peer expectedVersion observedAt now
  | transition target expectedVersion result now =>
    exact transitionInPlace_takes target expectedVersion result now

/-- A call that returns an error changes nothing. -/
theorem Call.refused_same (c : Call) {error : Error}
    (refused : (c.method.call a).1 = .error error) :
    c.method.after a = a := by
  have takes := c.takes a
  unfold Method.after
  generalize c.method.call a = answer at takes refused ⊢
  cases takes with
  | refused => rfl
  | repeated => rfl
  | bound | observed | taken => cases refused

/-! ### What one call keeps -/

/-- The evidence, the designation and the heartbeats agree with the state and the clock. -/
structure Coherent (a : Attempt) : Prop where
  identified : validID a.id = true
  fenced : validID a.binding.executionID = true ∧ a.binding.executionGeneration ≠ 0 ∧
    a.binding.number ≠ 0
  version : a.stateVersion < 2 ^ 64
  created : a.createdAt ≠ 0
  updated : a.createdAt ≤ a.updatedAt
  current : a.current = !a.state.isTerminal
  result : a.terminalResult.isSome = a.state.isTerminal
  time : a.terminalAt.isSome = a.state.isTerminal
  evidence : a.terminalResult.all Execution.validResult = true
  references : ∀ peer, (a.reference peer).all validID = true
  heartbeats : ∀ peer last, a.heartbeatAt peer = some last →
    a.createdAt ≤ last ∧ last ≤ a.updatedAt

/-- What is never taken back. -/
structure Follows (a t : Attempt) : Prop where
  ended : a.state.isTerminal = true → t = a
  reference : ∀ peer reference, a.reference peer = some reference →
    t.reference peer = some reference
  heartbeat : ∀ peer last, a.heartbeatAt peer = some last →
    ∃ next, t.heartbeatAt peer = some next ∧ last ≤ next

theorem Follows.refl (a : Attempt) : Follows a a where
  ended _ := rfl
  reference _ _ held := held
  heartbeat _ last held := ⟨last, held, le_refl _⟩

theorem Follows.trans {b : Attempt} (first : Follows a b) (second : Follows b t) : Follows a t where
  ended terminal := by
    have same := first.ended terminal
    rw [second.ended (same ▸ terminal), same]
  reference peer r held := second.reference peer r (first.reference peer r held)
  heartbeat peer last held := by
    obtain ⟨middle, kept, earlier⟩ := first.heartbeat peer last held
    obtain ⟨final, told, later⟩ := second.heartbeat peer middle kept
    exact ⟨final, told, le_trans earlier later⟩

theorem legal_running {next : State} (edge : legal a.state next = true) :
    a.state.isTerminal = false := by
  revert edge
  cases a.state <;> cases next <;> simp [legal, State.isTerminal]

theorem reference_setReference (peer other : Peer) (reference : ID) (now : Time) :
    (advance now (setReference peer reference a)).reference other =
      if other = peer then some reference else a.reference other := by
  cases peer <;> cases other <;> rfl

theorem heartbeatAt_setReference (peer other : Peer) (reference : ID) (now : Time) :
    (advance now (setReference peer reference a)).heartbeatAt other = a.heartbeatAt other := by
  cases peer <;> cases other <;> rfl

theorem reference_setHeartbeat (peer other : Peer) (observedAt now : Time) :
    (advance now (setHeartbeat peer observedAt a)).reference other = a.reference other := by
  cases peer <;> cases other <;> rfl

theorem heartbeatAt_setHeartbeat (peer other : Peer) (observedAt now : Time) :
    (advance now (setHeartbeat peer observedAt a)).heartbeatAt other =
      if other = peer then some observedAt else a.heartbeatAt other := by
  cases peer <;> cases other <;> rfl

/-- Whatever a reference is set to, the fields of the other kinds stay. -/
theorem Coherent.advanced (coherent : Coherent a) (later : a.updatedAt ≤ now) (id : t.id = a.id)
    (version : t.stateVersion = increment a.stateVersion) (binding : t.binding = a.binding)
    (createdAt : t.createdAt = a.createdAt)
    (updatedAt : t.updatedAt = now) (state : t.state = a.state) (current : t.current = a.current)
    (result : t.terminalResult = a.terminalResult) (time : t.terminalAt = a.terminalAt)
    (references : ∀ peer, (t.reference peer).all validID = true)
    (heartbeats : ∀ peer last, t.heartbeatAt peer = some last → a.createdAt ≤ last ∧ last ≤ now) :
    Coherent t where
  identified := id ▸ coherent.identified
  fenced := binding ▸ coherent.fenced
  version := version ▸ increment_lt _
  created := createdAt ▸ coherent.created
  updated := by
    rw [createdAt, updatedAt]
    exact le_trans coherent.updated later
  current := by rw [current, state, coherent.current]
  result := by rw [result, state, coherent.result]
  time := by rw [time, state, coherent.time]
  evidence := result ▸ coherent.evidence
  references := references
  heartbeats := by
    rw [createdAt, updatedAt]
    exact heartbeats

theorem Takes.coherent (takes : Takes a answer) (coherent : Coherent a) : Coherent answer.2 := by
  cases takes with
  | refused => exact coherent
  | repeated => exact coherent
  | @bound peer reference now running later unset valid =>
    refine coherent.advanced later ?_ ?_ ?_ ?_ ?_ ?_ ?_ ?_ ?_ (fun other => ?_)
      (fun other last held => ?_)
    iterate 9 cases peer <;> rfl
    · rw [reference_setReference]
      split
      · simpa using valid
      · exact coherent.references other
    · rw [heartbeatAt_setReference] at held
      obtain ⟨first, second⟩ := coherent.heartbeats other last held
      exact ⟨first, le_trans second later⟩
  | @observed peer observedAt now running later created past monotone =>
    refine coherent.advanced later ?_ ?_ ?_ ?_ ?_ ?_ ?_ ?_ ?_ (fun other => ?_)
      (fun other last held => ?_)
    iterate 9 cases peer <;> rfl
    · rw [reference_setHeartbeat]
      exact coherent.references other
    · rw [heartbeatAt_setHeartbeat] at held
      split at held
      · cases held
        exact ⟨created, past⟩
      · obtain ⟨first, second⟩ := coherent.heartbeats other last held
        exact ⟨first, le_trans second later⟩
  | @taken next result now legal later told valid =>
    have running := legal_running legal
    have unset : a.terminalResult = none ∧ a.terminalAt = none :=
      ⟨by simpa [running] using coherent.result, by simpa [running] using coherent.time⟩
    have designated : a.current = true := by rw [coherent.current, running]; rfl
    refine ⟨coherent.identified, coherent.fenced, increment_lt _, coherent.created,
      le_trans coherent.updated later, ?_, ?_, ?_, ?_, fun peer => ?_, fun peer last held => ?_⟩
    · show (if result.isSome then false else a.current) = !next.isTerminal
      rw [designated, ← told]
      cases result <;> rfl
    · show (if result.isSome then result else a.terminalResult).isSome = next.isTerminal
      rw [unset.1, ← told]
      cases result <;> rfl
    · show (if result.isSome then some now else a.terminalAt).isSome = next.isTerminal
      rw [unset.2, ← told]
      cases result <;> rfl
    · show (if result.isSome then result else a.terminalResult).all Execution.validResult = true
      split
      · exact valid
      · exact coherent.evidence
    · have same : (a.edge next result now).reference peer = a.reference peer := by
        cases peer <;> rfl
      rw [same]
      exact coherent.references peer
    · have same : (a.edge next result now).heartbeatAt peer = a.heartbeatAt peer := by
        cases peer <;> rfl
      obtain ⟨first, second⟩ := coherent.heartbeats peer last (same ▸ held)
      exact ⟨first, le_trans second later⟩

theorem Takes.follows (takes : Takes a answer) : Follows a answer.2 := by
  have alive (running : a.state.isTerminal = false) {P : Prop} : a.state.isTerminal = true → P := by
    intro ended
    rw [running] at ended
    cases ended
  cases takes with
  | refused => exact .refl a
  | repeated => exact .refl a
  | @bound peer reference now running later unset valid =>
    refine ⟨alive running, fun other r held => ?_, fun other last held => ?_⟩
    · rw [reference_setReference]
      split
      · rename_i same
        rw [same, unset] at held
        cases held
      · exact held
    · exact ⟨last, (heartbeatAt_setReference ..).trans held, le_refl _⟩
  | @observed peer observedAt now running later created past monotone =>
    refine ⟨alive running, fun other r held => ?_, fun other last held => ?_⟩
    · exact (reference_setHeartbeat ..).trans held
    · rw [heartbeatAt_setHeartbeat]
      split
      · rename_i same
        exact ⟨observedAt, rfl, monotone last (same ▸ held)⟩
      · exact ⟨last, held, le_refl _⟩
  | @taken next result now legal later told valid =>
    refine ⟨alive (legal_running legal), fun peer r held => ?_, fun peer last held => ?_⟩
    · cases peer <;> exact held
    · cases peer <;> exact ⟨last, held, le_refl _⟩

/-- The call changed something. -/
def changed (a t : Attempt) : Bool := decide (t ≠ a)

/-- A change shows in the version, also where the `uint64` starts again. -/
theorem Takes.counted (takes : Takes a answer) :
    answer.2.stateVersion ≡ a.stateVersion + (changed a answer.2).toNat [MOD 2 ^ 64] := by
  have raised {t : Attempt} (version : t.stateVersion = increment a.stateVersion) :
      t.stateVersion ≡ a.stateVersion + (changed a t).toNat [MOD 2 ^ 64] := by
    have differs : changed a t = true := by
      refine decide_eq_true fun same => increment_ne a.stateVersion ?_
      rw [← version, same]
    rw [version, differs]
    exact Nat.mod_modEq _ _
  have idle : a.stateVersion ≡ a.stateVersion + (changed a a).toNat [MOD 2 ^ 64] := by
    simp [changed, Nat.ModEq.refl]
  cases takes with
  | refused => exact idle
  | repeated => exact idle
  | @bound peer reference now | @observed peer observedAt now =>
    exact raised (by cases peer <;> rfl)
  | taken => exact raised rfl

/-- What `Restore` accepts. -/
theorem Coherent.reloads (coherent : Coherent a) : a.reload = .ok a := by
  have sandbox : (a.sandboxReference.any fun id => !validID id) = false := by
    have valid := coherent.references .sandbox
    cases held : a.sandboxReference with
    | none => rfl
    | some id => simpa [reference, held] using valid
  have harness : (a.harnessReference.any fun id => !validID id) = false := by
    have valid := coherent.references .harness
    cases held : a.harnessReference with
    | none => rfl
    | some id => simpa [reference, held] using valid
  have evidence : (a.terminalResult.any fun r => !Execution.validResult r) = false := by
    have valid := coherent.evidence
    cases told : a.terminalResult with
    | none => rfl
    | some r => simpa [told] using valid
  unfold reload restore
  rw [if_neg, if_neg]
  · simp [coherent.result, coherent.time, coherent.current, evidence]
  · simp [coherent.identified, coherent.fenced, coherent.created, coherent.updated, sandbox,
      harness]

/-! ### Whole histories -/

theorem created_coherent {id : ID} {binding : Binding} (created : create id binding now = .ok a) :
    Coherent a ∧ a.stateVersion = 0 := by
  unfold create at created
  split at created
  · cases created
  rename_i checked
  cases created
  simp only [Bool.or_eq_true, Bool.not_eq_true', decide_eq_true_eq, not_or,
    Bool.not_eq_false] at checked
  obtain ⟨⟨⟨⟨identified, execution⟩, generation⟩, number⟩, clock⟩ := checked
  refine ⟨⟨identified, ⟨execution, generation, number⟩, Nat.two_pow_pos 64, clock, le_refl _, rfl,
    rfl, rfl, rfl,
    fun peer => ?_, fun peer last held => ?_⟩, rfl⟩
  · cases peer <;> rfl
  · cases peer <;> cases held

/-- An Attempt from `New`, after any history of its five methods. Its version counts the calls
that changed something, as a `uint64` counts. -/
theorem attempt_history {id : ID} {binding : Binding} {now : Time}
    (created : create id binding now = .ok a) (calls : List Call) :
    Coherent (a.afterCalls calls) ∧
    (∀ more, Follows (a.afterCalls calls) (a.afterCalls (calls ++ more))) ∧
    (a.afterCalls calls).stateVersion = Method.tally Call.method changed a calls % 2 ^ 64 ∧
    (∀ (c : Call) (error : Error), (c.method.call (a.afterCalls calls)).1 = .error error →
      c.method.after (a.afterCalls calls) = a.afterCalls calls) ∧
    (a.afterCalls calls).reload = .ok (a.afterCalls calls) := by
  obtain ⟨initial, zero⟩ := created_coherent created
  have coherent := (Method.along_true a calls).invariant (P := Coherent)
    (fun s c before _ => (c.takes s).coherent before) initial
  refine ⟨coherent, fun more => ?_, ?_, fun c _ => c.refused_same, coherent.reloads⟩
  · have joined : a.afterCalls (calls ++ more) = (a.afterCalls calls).afterCalls more :=
      Method.history_append a calls more
    rw [joined]
    exact (Method.along_true _ more).relates (P := fun _ => True) Follows.refl Follows.trans
      (fun _ _ _ _ => trivial) (fun s c _ _ => (c.takes s).follows) trivial
  · have counted := Method.tally_counts (P := fun _ => True) (f := stateVersion)
      (fun _ _ _ => trivial) (fun s c _ => (c.takes s).counted) trivial calls (s := a)
    rwa [zero, Nat.zero_add, Nat.ModEq, Nat.mod_eq_of_lt coherent.version] at counted

end Calls

namespace Sample

def fresh : Attempt :=
  { id := ID.v7 1, binding := ⟨ID.v7 2, 1, 1⟩, state := .pending, stateVersion := 0, current := true
    sandboxReference := none, harnessReference := none, sandboxHeartbeatAt := none
    harnessHeartbeatAt := none, terminalResult := none, createdAt := 10, updatedAt := 10
    terminalAt := none }

theorem fresh_new : create (ID.v7 1) ⟨ID.v7 2, 1, 1⟩ 10 = .ok fresh := by decide

/-- Bound, seen alive and failed; the second binding is refused. -/
def calls : List Call :=
  [.bind .sandbox (ID.v7 3) 0 11, .bind .sandbox (ID.v7 4) 1 12, .observeHeartbeat .sandbox 1 11 12,
    .transition (some .failed) 2 (some ⟨"r", some ⟨1⟩⟩) 13]

end Sample

theorem attempt_history_sample :
    (Sample.fresh.afterCalls Sample.calls).state = .failed ∧
    (Sample.fresh.afterCalls Sample.calls).stateVersion =
      Method.tally Call.method changed Sample.fresh Sample.calls % 2 ^ 64 :=
  ⟨by decide, (attempt_history Sample.fresh_new Sample.calls).2.2.1⟩

end ThinkPixelAR.Attempt
