import ThinkPixelAR.Domain.Execution

/-!
Histories of an Execution. `Transition` sets the terminal result and the terminal time
together and only on the edge into a terminal state, so they stay paired with the state
once they are. `Restore` tests the pair with one conjunction: a state that is not
terminal is loaded with either of the two set, which the schema's two separate checks
refuse.
-/
namespace ThinkPixelAR.Execution

open Relational

/-- An Execution as callers get it. -/
inductive Constructed : Execution → Prop
  | new {id : ID} {binding : RawBinding} {deadline now : Time} {e : Execution}
      (created : create id binding deadline now = .ok e) : Constructed e
  | restored {id : ID} {binding : Binding} {deadline : Time} {state : State} {stateVersion : Nat}
      {result : Option TerminalResult} {createdAt updatedAt : Time} {terminalAt : Option Time}
      {e : Execution}
      (accepted : restore id binding deadline state stateVersion result createdAt updatedAt
        terminalAt = .ok e) : Constructed e

/-- The Execution after the calls. -/
abbrev afterCalls (e : Execution) (calls : List Call) : Execution :=
  Method.history Call.method e calls

/-- The terminal result and the terminal time are set in the terminal states only. -/
structure Paired (e : Execution) : Prop where
  result : e.terminalResult.isSome = e.state.isTerminal
  time : e.terminalAt.isSome = e.state.isTerminal

/-- The edge to a state, with the evidence of a terminal one. -/
def edge (e : Execution) (next : State) (result : Option TerminalResult) (now : Time) :
    Execution :=
  { e with
    state := next
    stateVersion := increment e.stateVersion
    updatedAt := now
    terminalResult := if result.isSome then result else e.terminalResult
    terminalAt := if result.isSome then some now else e.terminalAt }

/-- What a call of `Transition` can do. -/
inductive Takes (e : Execution) : Except Error Unit × Execution → Prop
  | refused (error : Error) : Takes e (.error error, e)
  /-- The same terminal result again. -/
  | repeated : e.state.isTerminal = true → Takes e (.ok (), e)
  | taken {next : State} {result : Option TerminalResult} {now : Time} :
      legal e.state next = true → e.updatedAt ≤ now → result.isSome = next.isTerminal →
      Takes e (.ok (), e.edge next result now)

section Calls
variable {e t : Execution}

theorem RawResult.parsed_of_valid {r : RawResult} (valid : r.valid = true) :
    ∃ result, r.parsed = some result := by
  simp only [RawResult.valid, Bool.and_eq_true, Option.isSome_iff_exists] at valid
  obtain ⟨-, digest, some⟩ := valid
  exact ⟨⟨r.reference, digest⟩, by rw [RawResult.parsed, some]; rfl⟩

/-- A result that is absent or valid is stored as it is. -/
theorem stored_result {result : Option RawResult}
    (valid : (result.any fun r => !r.valid) = false) :
    (result.bind (·.parsed)).isSome = result.isSome := by
  cases result with
  | none => rfl
  | some r =>
    have checked : r.valid = true := by simpa using valid
    obtain ⟨parsed, told⟩ := RawResult.parsed_of_valid checked
    simp [told]

theorem stored_valid {result : Option RawResult}
    (valid : (result.any fun r => !r.valid) = false) :
    (result.bind (·.parsed)).all validResult = true := by
  cases result with
  | none => rfl
  | some r =>
    obtain ⟨reference, digest⟩ := r
    have checked : boundedString 2048 reference = true ∧ digest.isSome = true := by
      simpa [RawResult.valid] using valid
    cases digest with
    | none => cases checked.2
    | some d => exact checked.1

theorem Call.takes (c : Call) (e : Execution) : Takes e (c.method.call e) := by
  obtain ⟨target, expectedVersion, result, now⟩ := c
  cases target with
  | none =>
    unfold method
    simp only [Method.call_get_bind, Method.call_ite, Method.call_throw_bind, Method.call_throw]
    split <;> exact .refused _
  | some next =>
    unfold method
    simp only [Method.call_get_bind, Method.call_ite, Method.call_throw_bind,
      Method.call_modify_bind, Method.call_modify, Method.call_pure]
    split
    · exact .refused _
    split
    · exact .refused _
    rename_i clock
    split
    · rename_i same
      split
      · rename_i again
        simp only [Bool.and_eq_true] at again
        exact .repeated (same ▸ again.1)
      · exact .refused _
    split
    · exact .refused _
    rename_i barred
    split
    · exact .refused _
    rename_i checked
    simp only [Bool.not_eq_true, Bool.not_eq_false'] at barred
    simp only [Bool.or_eq_true, bne_iff_ne, ne_eq, not_or, not_not, Bool.not_eq_true] at checked
    have stored := stored_result checked.2
    have took : Takes e (.ok (), e.edge next (result.bind (·.parsed)) now) :=
      .taken barred (le_of_not_gt (not_or.mp clock).2) (stored.trans checked.1.symm)
    unfold edge at took
    rw [stored] at took
    cases result with
    | none => exact took
    | some r => exact took

theorem legal_running {next : State} (edge : legal e.state next = true) :
    e.state.isTerminal = false ∧ next ≠ e.state := by
  revert edge
  cases e.state <;> cases next <;> simp [legal, State.isTerminal]

/-! ### One call -/

/-- The call took an edge. -/
def moved (e t : Execution) : Bool := decide (t.state ≠ e.state)

/-- What one call owes. -/
structure Owes (e t : Execution) : Prop where
  /-- A terminal Execution is not changed at all. -/
  final : e.state.isTerminal = true → t = e
  /-- An edge counts; a call without one changes nothing. -/
  version : moved e t = true → t.stateVersion = increment e.stateVersion
  idle : moved e t = false → t = e
  updated : e.updatedAt ≤ t.updatedAt

theorem Owes.same (e : Execution) : Owes e e where
  final _ := rfl
  version edge := by simp [moved] at edge
  idle _ := rfl
  updated := le_refl _

theorem Call.owes (c : Call) (e : Execution) : Owes e (c.method.after e) := by
  have takes := c.takes e
  unfold Method.after
  generalize c.method.call e = answer at takes
  cases takes with
  | refused => exact .same e
  | repeated => exact .same e
  | taken edge later told =>
    obtain ⟨running, differs⟩ := legal_running edge
    refine ⟨fun ended => ?_, fun _ => rfl, fun same => ?_, later⟩
    · rw [running] at ended
      cases ended
    · simp only [moved, decide_eq_false_iff_not, ne_eq, not_not] at same
      exact absurd same differs

/-- An edge into a terminal state sets the result and the time, and no other call sets one. -/
theorem Call.paired (c : Call) (paired : Paired e) : Paired (c.method.after e) := by
  have takes := c.takes e
  unfold Method.after
  generalize c.method.call e = answer at takes
  cases takes with
  | refused => exact paired
  | repeated => exact paired
  | @taken next result now edge later told =>
    obtain ⟨running, -⟩ := legal_running edge
    have unset : e.terminalResult = none ∧ e.terminalAt = none :=
      ⟨by simpa [running] using paired.result, by simpa [running] using paired.time⟩
    constructor
    · show (if result.isSome then result else e.terminalResult).isSome = next.isTerminal
      rw [unset.1, ← told]
      cases result <;> rfl
    · show (if result.isSome then some now else e.terminalAt).isSome = next.isTerminal
      rw [unset.2, ← told]
      cases result <;> rfl

/-- A call that returns an error changes nothing. -/
theorem Call.refused_same (c : Call) {error : Error}
    (refused : (c.method.call e).1 = .error error) :
    c.method.after e = e := by
  have takes := c.takes e
  unfold Method.after
  generalize c.method.call e = answer at takes refused ⊢
  cases takes with
  | refused => rfl
  | repeated => rfl
  | taken => cases refused

/-! ### Whole histories -/

theorem Constructed.paired (start : Constructed e)
    (together : e.terminalResult.isSome = e.terminalAt.isSome) : Paired e := by
  cases start with
  | new created =>
    unfold create at created
    split at created
    · obtain ⟨-, created⟩ := unless_ok.mp created
      cases created
      exact ⟨rfl, rfl⟩
    · cases created
  | restored accepted =>
    unfold restore at accepted
    split at accepted
    · cases accepted
    obtain ⟨checked, accepted⟩ := unless_ok.mp accepted
    cases accepted
    simp only [Bool.or_eq_true, bne_iff_ne, ne_eq, not_or, not_not] at checked together
    have both := checked.1
    rw [together, Bool.and_self] at both
    exact ⟨together.trans both.symm, both.symm⟩

/-- An Execution through any history: a terminal one is never changed, an edge raises the
version, a `uint64`, and never moves `updatedAt` back, and every other call changes nothing.
If the result and the time are set together at the start they stay paired with the state; and
if the version stays below the end of its range an edge raises it by one. -/
theorem terminal_evidence_history (start : Constructed e) (calls : List Call) :
    (∀ before rest, calls = before ++ rest →
      ((e.afterCalls before).state.isTerminal = true → e.afterCalls calls = e.afterCalls before) ∧
      (e.afterCalls before).updatedAt ≤ (e.afterCalls calls).updatedAt) ∧
    (∀ before c rest, calls = before ++ c :: rest →
      (moved (e.afterCalls before) (e.afterCalls (before ++ [c])) = true →
        (e.afterCalls (before ++ [c])).stateVersion =
          increment (e.afterCalls before).stateVersion) ∧
      (moved (e.afterCalls before) (e.afterCalls (before ++ [c])) = false →
        e.afterCalls (before ++ [c]) = e.afterCalls before) ∧
      ∀ error, (c.method.call (e.afterCalls before)).1 = .error error →
        e.afterCalls (before ++ [c]) = e.afterCalls before) ∧
    (e.terminalResult.isSome = e.terminalAt.isSome →
      ∀ before rest, calls = before ++ rest → Paired (e.afterCalls before)) ∧
    (Method.Along Call.method (fun e _ => e.stateVersion < 2 ^ 64 - 1) e calls →
      ∀ before c rest, calls = before ++ c :: rest →
        moved (e.afterCalls before) (e.afterCalls (before ++ [c])) = true →
          (e.afterCalls (before ++ [c])).stateVersion =
            (e.afterCalls before).stateVersion + 1) := by
  refine ⟨?_, ?_, fun together => ?_, fun room => ?_⟩
  · rintro before rest rfl
    refine ⟨fun ended => ?_, ?_⟩
    · exact Method.history_fixed (P := fun e => e.state.isTerminal = true)
        (fun s c => (c.owes s).final) ended rest
    · exact (Method.along_true e (before ++ rest)).monotone_between (P := fun _ => True)
        (f := updatedAt) (fun _ _ _ _ => trivial) (fun s c _ _ => (c.owes s).updated) trivial
  · rintro before c rest rfl
    simp only [afterCalls, Method.history_concat]
    have owes := c.owes (e.afterCalls before)
    exact ⟨owes.version, owes.idle, fun _ => c.refused_same⟩
  · rintro before rest rfl
    exact (Method.along_true e before).invariant (P := Paired)
      (fun _ c paired _ => c.paired paired) (start.paired together)
  · rintro before c rest rfl edge
    have counted : (e.afterCalls before).stateVersion < 2 ^ 64 - 1 :=
      (Method.along_append.mp room).2.1
    simp only [afterCalls, Method.history_concat] at edge ⊢
    exact ((c.owes _).version edge).trans (increment_eq counted)

end Calls

namespace Sample

/-- The authority and the agent of an Execution. -/
def admitted : Binding where
  raw :=
    { sessionID := ID.v7 1, sessionGeneration := 1, authorityMode := some .localAuthority
      authorityNamespace := "n", authorityReference := "r", externalRunID := none
      grantDigest := some ⟨0⟩, agentID := "a", agentVersionID := "1"
      agentEvidence := "\x7b\x7d", agentEvidenceDigest := some ⟨0⟩ }
  session := by decide +kernel
  generation := by decide
  valid := by decide +kernel

/-- Running since 20. -/
def working : Execution :=
  { id := ID.v7 2, binding := admitted, deadline := 90, state := .running, stateVersion := 2
    terminalResult := none, createdAt := 10, updatedAt := 20, terminalAt := none }

def outcome : TerminalResult := ⟨"r", ⟨1⟩⟩

/-- Running, with a result nobody reported. -/
def decided : Execution := { working with terminalResult := some outcome }

/-- Running, at the last version of a `uint64`. -/
def worn : Execution := { working with stateVersion := 2 ^ 64 - 1 }

/-- The snapshot is loaded as it is. -/
structure Loaded (e : Execution) : Prop where
  accepted : restore e.id e.binding e.deadline e.state e.stateVersion e.terminalResult e.createdAt
    e.updatedAt e.terminalAt = .ok e

theorem Loaded.of_checks {e : Execution} (identified : validID e.id = true)
    (times : e.deadline ≠ 0 ∧ e.createdAt ≠ 0 ∧ e.createdAt < e.deadline ∧
      e.createdAt ≤ e.updatedAt)
    (pairs : e.state.isTerminal = (e.terminalResult.isSome && e.terminalAt.isSome))
    (valid : e.terminalResult.all validResult = true) : Loaded e := by
  refine ⟨?_⟩
  have results : (e.terminalResult.any fun r => !validResult r) = false := by
    cases told : e.terminalResult with
    | none => rfl
    | some r => simpa [told] using valid
  unfold restore
  rw [if_neg (by simp [identified, times]), if_neg (by simp [pairs, results])]

theorem working_loaded : Loaded working := .of_checks (by decide) (by decide) rfl rfl

theorem decided_loaded : Loaded decided := .of_checks (by decide) (by decide) rfl (by decide)

theorem worn_loaded : Loaded worn := .of_checks (by decide) (by decide) rfl rfl

/-- Succeeds, and is told so again. -/
def calls : List Call :=
  [⟨some .succeeded, 2, some outcome.raw, 30⟩, ⟨some .succeeded, 3, some outcome.raw, 40⟩]

end Sample

theorem terminal_evidence_history_sample :
    (Sample.working.afterCalls Sample.calls).state = .succeeded ∧
    Paired (Sample.working.afterCalls Sample.calls) ∧
    (Sample.working.afterCalls (Sample.calls.take 1)).stateVersion =
      Sample.working.stateVersion + 1 := by
  have room : Method.Along Call.method (fun e _ => e.stateVersion < 2 ^ 64 - 1) Sample.working
      Sample.calls := ⟨by decide, by decide, trivial⟩
  obtain ⟨-, -, pairs, counts⟩ :=
    terminal_evidence_history (.restored Sample.working_loaded.accepted) Sample.calls
  exact ⟨by decide, pairs rfl Sample.calls [] (List.append_nil _).symm,
    counts room [] _ _ rfl (by decide)⟩

/-- `Restore` accepts a running Execution with a terminal result, and one whose next edge
sets the version back to zero. -/
theorem running_restored_with_result :
    Constructed Sample.decided ∧ Sample.decided.state.isTerminal = false ∧
      Sample.decided.terminalResult.isSome = true ∧
    Constructed Sample.worn ∧
      ((Call.mk (some .cancelling) (2 ^ 64 - 1) none 30).method.call Sample.worn).1 = .ok () ∧
      (Sample.worn.afterCalls [⟨some .cancelling, 2 ^ 64 - 1, none, 30⟩]).stateVersion = 0 :=
  ⟨.restored Sample.decided_loaded.accepted, rfl, rfl, .restored Sample.worn_loaded.accepted,
    by decide, by decide⟩

end ThinkPixelAR.Execution
