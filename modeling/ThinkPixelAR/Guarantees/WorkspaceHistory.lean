import ThinkPixelAR.Domain.Workspace

/-!
Histories of a Workspace. `Publish` and `Advance` make a line of generations, each the
child of the one before; `Transition` moves the lifecycle and does not look at it. The
table lets PROVISIONING become READY without a generation, which the schema's check of
usable states refuses. If that edge waits for the first generation, every usable state
has a current one, through DEGRADED and back.
-/
namespace ThinkPixelAR.Workspace

open Relational

variable {generations : List Generation}

/-- The Workspace after the calls. -/
abbrev afterCalls (w : Workspace) (calls : List Call) : Workspace :=
  Method.history Call.method w calls

/-- The states in which a Workspace is used. -/
def State.isUsable : State → Bool
  | .ready | .attached | .snapshotting => true
  | _ => false

/-- The generation a call with the answer makes current. -/
def Call.makes : Call → Except Error Unit → Option Generation
  | .publish g _ _, .ok () | .advance g _ _, .ok () => some g
  | _, _ => none

/-- The generations that the calls make current, in order. -/
def madeCurrent : Workspace → List Call → List Generation
  | _, [] => []
  | w, c :: rest => (c.makes (c.method.call w).1).toList ++ madeCurrent (c.method.after w) rest

/-- Numbered from zero, the first without a parent and each other the child of the one
before. -/
def Lineage (generations : List Generation) : Prop :=
  ∀ i g, generations[i]? = some g →
    g.generation = i ∧ g.parentID = if i = 0 then none else (generations[i - 1]?).map (·.id)

/-- `NewGeneration` returned the generation. -/
def Made (g : Generation) : Prop :=
  ∃ tenantID id workspaceID sessionID number parent binding now,
    newGeneration tenantID id workspaceID sessionID number parent binding now = .ok g

/-- The generation of the call, if it has one, comes from `NewGeneration`. -/
def Call.Sourced : Call → Prop
  | .transition _ _ _ => True
  | .publish g _ _ | .advance g _ _ => Made g

/-- PROVISIONING becomes READY with a generation. -/
def Awaits (w : Workspace) : Call → Prop
  | .transition (some .ready) _ _ => w.state = .provisioning → w.currentGenerationID.isSome = true
  | _ => True

/-! ### What a call can do -/

def edge (w : Workspace) (next : State) (now : Time) : Workspace :=
  { w with
    recoveryState :=
      if next = .degraded then some w.state
      else if w.state = .degraded then none
      else w.recoveryState
    state := next
    stateVersion := increment w.stateVersion
    updatedAt := now
    deletedAt := if next = .deleted then some now else w.deletedAt }

def current (w : Workspace) (g : Generation) (now : Time) : Workspace :=
  { w with
    currentGeneration := g.generation
    currentGenerationID := some g.id
    stateVersion := increment w.stateVersion
    updatedAt := now }

inductive Takes (w : Workspace) : Call → Except Error Unit × Workspace → Prop
  | refused {c : Call} (error : Error) : Takes w c (.error error, w)
  /-- DELETING or DELETED again. -/
  | repeated {target : Option State} {expectedVersion : Nat} {now : Time} :
      Takes w (.transition target expectedVersion now) (.ok (), w)
  | moved {next : State} {expectedVersion : Nat} {now : Time} :
      workspaceTransitions w.state next = true →
      (w.state = .degraded → some next = w.recoveryState ∨ next = .deleting) →
      Takes w (.transition (some next) expectedVersion now) (.ok (), w.edge next now)
  | published {g : Generation} {expectedVersion : Nat} {now : Time} : w.state = .provisioning →
      g.generation = 0 → w.currentGenerationID = none →
      Takes w (.publish g expectedVersion now) (.ok (), { w with
        currentGenerationID := some g.id, stateVersion := increment w.stateVersion
        updatedAt := now })
  | advanced {g : Generation} {expectedVersion : Nat} {now : Time} {parent : ID} :
      w.state = .snapshotting → w.currentGenerationID = some parent →
      g.generation = w.currentGeneration + 1 → g.parentID = some parent →
      Takes w (.advance g expectedVersion now) (.ok (), w.current g now)

section Calls
variable {w t : Workspace} {g : Generation}

theorem transition_takes (target : Option State) (expectedVersion : Nat) (now : Time) :
    Takes w (.transition target expectedVersion now)
      ((transition target expectedVersion now).call w) := by
  cases target with
  | none =>
    unfold transition
    simp only [Method.call_get_bind, Method.call_ite, Method.call_throw_bind, Method.call_throw]
    split <;> exact .refused _
  | some next =>
    unfold transition
    simp only [Method.call_get_bind, Method.call_ite, Method.call_throw_bind,
      Method.call_modify_bind, Method.call_modify, Method.call_pure]
    split
    · exact .refused _
    split
    · exact .refused _
    split
    · split
      · exact .repeated
      · exact .refused _
    split
    · exact .refused _
    rename_i barred
    simp only [Bool.or_eq_true, Bool.not_eq_true', Bool.and_eq_true, decide_eq_true_eq, not_or,
      not_and, Bool.not_eq_false, ne_eq, not_not] at barred
    have took : Takes w (.transition (some next) expectedVersion now)
        (.ok (), w.edge next now) := by
      refine .moved barred.1 fun degraded => ?_
      by_cases back : some next = w.recoveryState
      · exact .inl back
      · exact .inr (barred.2 ⟨degraded, back⟩)
    unfold edge at took
    -- only the assignments are left
    split_ifs at took ⊢ <;> exact took

theorem publish_takes (g : Generation) (expectedVersion : Nat) (now : Time) :
    Takes w (.publish g expectedVersion now) ((publish g expectedVersion now).call w) := by
  unfold publish
  simp only [Method.call_get_bind, Method.call_ite, Method.call_throw_bind, Method.call_modify]
  split
  · exact .refused _
  split
  · exact .refused _
  rename_i checked
  simp only [Bool.or_eq_true, decide_eq_true_eq, not_or, ne_eq, not_not,
    Option.isSome_iff_ne_none] at checked
  exact .published checked.1.1.1.1.1.1.1 checked.1.2 checked.2

theorem advance_takes (g : Generation) (expectedVersion : Nat) (now : Time) :
    Takes w (.advance g expectedVersion now) ((advance g expectedVersion now).call w) := by
  unfold advance
  simp only [Method.call_get_bind, Method.call_ite, Method.call_throw_bind, Method.call_modify]
  split
  · exact .refused _
  split
  · exact .refused _
  split
  · exact .refused _
  rename_i checked
  simp only [Bool.or_eq_true, decide_eq_true_eq, not_or, ne_eq, not_not,
    Option.isNone_iff_eq_none] at checked
  obtain ⟨⟨⟨⟨⟨⟨⟨⟨⟨snapshotting, held⟩, -⟩, -⟩, -⟩, next⟩, -⟩, child⟩, -⟩, -⟩ := checked
  obtain ⟨parent, same⟩ := Option.ne_none_iff_exists'.mp held
  exact .advanced snapshotting same next (child.trans same)

theorem Call.takes (c : Call) (w : Workspace) : Takes w c (c.method.call w) := by
  cases c with
  | transition target expectedVersion now => exact transition_takes target expectedVersion now
  | publish g expectedVersion now => exact publish_takes g expectedVersion now
  | advance g expectedVersion now => exact advance_takes g expectedVersion now

/-- A call that returns an error changes nothing. -/
theorem Call.refused_same (c : Call) {error : Error}
    (refused : (c.method.call w).1 = .error error) :
    c.method.after w = w := by
  have takes := c.takes w
  unfold Method.after
  generalize c.method.call w = answer at takes refused ⊢
  cases takes with
  | refused => rfl
  | repeated => rfl
  | moved | published | advanced => cases refused

/-! ### What one call keeps -/

/-- The Workspace agrees with the generations made current so far. -/
structure Sound (w : Workspace) (generations : List Generation) : Prop where
  lineage : Lineage generations
  latest : w.currentGenerationID = generations.getLast?.map (·.id)
  number : w.currentGeneration = generations.length - 1
  recovery : w.recoveryState.isSome = true ↔ w.state = .degraded
  deleted : w.deletedAt.isSome = true ↔ w.state = .deleted

/-- A usable state, and one that DEGRADED goes back to, has a current generation. -/
structure Equipped (w : Workspace) : Prop where
  usable : w.state.isUsable = true → w.currentGenerationID.isSome = true
  remembered : ∀ state, w.recoveryState = some state → state.isUsable = true →
    w.currentGenerationID.isSome = true

theorem Lineage.snoc (lineage : Lineage generations) (number : g.generation = generations.length)
    (parent : g.parentID = generations.getLast?.map (·.id)) : Lineage (generations ++ [g]) := by
  intro i h found
  rcases Nat.lt_or_ge i generations.length with earlier | later
  · rw [List.getElem?_append_left earlier] at found
    obtain ⟨same, told⟩ := lineage i h found
    refine ⟨same, told.trans ?_⟩
    split
    · rfl
    · rw [List.getElem?_append_left (by omega)]
  · rw [List.getElem?_append_right later] at found
    have last : i = generations.length := by
      by_contra beyond
      rw [List.getElem?_eq_none (by simp only [List.length_singleton]; omega)] at found
      cases found
    rw [last, Nat.sub_self] at found
    cases found
    refine ⟨number.trans last.symm, ?_⟩
    rw [parent, last, List.getLast?_eq_getElem?]
    split
    · rename_i empty
      rw [List.length_eq_zero_iff.mp empty]
      rfl
    · rw [List.getElem?_append_left (by omega)]

theorem Made.first (made : Made g) (zero : g.generation = 0) : g.parentID = none := by
  obtain ⟨tenantID, id, workspaceID, sessionID, number, parent, binding, now, made⟩ := made
  unfold newGeneration at made
  split at made
  · cases made
  split at made
  · split at made
    · cases made
    · cases made
      rfl
  · rename_i positive
    split at made
    · cases made
    · split at made
      · cases made
      · cases made
        exact absurd zero positive

variable {now : Time} {answer : Except Error Unit × Workspace}

theorem edge_sound {next : State} (sound : Sound w generations)
    (legal : workspaceTransitions w.state next = true) : Sound (w.edge next now) generations := by
  refine ⟨sound.lineage, sound.latest, sound.number, ?_, ?_⟩
  · have before := sound.recovery
    simp only [edge]
    split
    · simp_all
    · split <;> simp_all
  · have before := sound.deleted
    simp only [edge]
    split
    · simp_all
    · rename_i other
      have alive : w.state ≠ .deleted := by
        intro deleted
        rw [deleted] at legal
        cases next <;> cases legal
      simp [other, before, alive]

theorem edge_equipped {next : State} (equipped : Equipped w)
    (legal : workspaceTransitions w.state next = true)
    (back : w.state = .degraded → some next = w.recoveryState ∨ next = .deleting)
    (waits : next = .ready → w.state = .provisioning → w.currentGenerationID.isSome = true) :
    Equipped (w.edge next now) := by
  refine ⟨fun used => ?_, fun state remembered used => ?_⟩
  · replace used : next.isUsable = true := used
    -- from a usable state, from DEGRADED to what it remembers, or for the first time
    by_cases before : w.state.isUsable = true
    · exact equipped.usable before
    by_cases degraded : w.state = .degraded
    · rcases back degraded with same | deleting
      · exact equipped.remembered next same.symm used
      · rw [deleting] at used
        cases used
    · have started : next = .ready ∧ w.state = .provisioning := by
        revert legal used before degraded
        cases w.state <;> cases next <;> simp [workspaceTransitions, State.isUsable]
      exact waits started.1 started.2
  · simp only [edge] at remembered
    split at remembered
    · cases remembered
      exact equipped.usable used
    · split at remembered
      · cases remembered
      · exact equipped.remembered state remembered used

/-- What one call adds to the line. -/
theorem Takes.sound {c : Call} (takes : Takes w c answer) (sourced : c.Sourced)
    (sound : Sound w generations) : Sound answer.2 (generations ++ (c.makes answer.1).toList) := by
  have idle : generations ++ (none : Option Generation).toList = generations := List.append_nil _
  cases takes with
  | refused error => cases c <;> exact idle.symm ▸ sound
  | repeated => exact idle.symm ▸ sound
  | moved legal => exact idle.symm ▸ edge_sound sound legal
  | @published g expectedVersion now provisioning zero none =>
    have empty : generations = [] := by
      have latest := sound.latest
      rw [none] at latest
      simpa using latest.symm
    subst empty
    exact ⟨sound.lineage.snoc (by rw [zero]; rfl) (by rw [Made.first sourced zero]; rfl), rfl,
      sound.number, sound.recovery, sound.deleted⟩
  | @advanced g expectedVersion now parent snapshotting held next child =>
    have present : generations ≠ [] := by
      rintro rfl
      have latest := sound.latest
      rw [held] at latest
      cases latest
    have positive : 0 < generations.length := List.length_pos_of_ne_nil present
    have number : g.generation = generations.length := by
      rw [next, sound.number]
      omega
    refine ⟨sound.lineage.snoc number ?_, ?_, ?_, sound.recovery, sound.deleted⟩
    · rw [child, ← held, sound.latest]
    · simp [current, Call.makes]
    · simp [current, Call.makes, number]

theorem Takes.equipped {c : Call} (takes : Takes w c answer) (waits : Awaits w c)
    (equipped : Equipped w) : Equipped answer.2 := by
  cases takes with
  | refused => exact equipped
  | repeated => exact equipped
  | @moved next expectedVersion now legal back =>
    have first : next = .ready → w.state = .provisioning → w.currentGenerationID.isSome = true := by
      rintro rfl
      exact waits
    exact edge_equipped equipped legal back first
  | published => exact ⟨fun _ => rfl, fun _ _ _ => rfl⟩
  | advanced => exact ⟨fun _ => rfl, fun _ _ _ => rfl⟩

/-- A deleted Workspace is never changed. -/
theorem Takes.deleted_same {c : Call} (takes : Takes w c answer) (deleted : w.state = .deleted) :
    answer.2 = w := by
  cases takes with
  | refused => rfl
  | repeated => rfl
  | @moved next expectedVersion now legal =>
    rw [deleted] at legal
    cases next <;> cases legal
  | published provisioning => rw [deleted] at provisioning; cases provisioning
  | advanced snapshotting => rw [deleted] at snapshotting; cases snapshotting

/-! ### Whole histories -/

theorem created_sound {tenantID id : ID} {binding : RawBinding}
    (created : create tenantID id binding now = .ok w) : Sound w [] ∧ Equipped w := by
  obtain ⟨-, created⟩ := unless_ok.mp created
  cases created
  refine ⟨⟨?_, rfl, rfl, by simp, by simp⟩, ?_, ?_⟩
  · intro i g found
    cases found
  · intro used
    cases used
  · intro state remembered
    cases remembered

theorem sound_history (calls : List Call) :
    ∀ (w : Workspace) (generations : List Generation), Sound w generations →
      (∀ c ∈ calls, c.Sourced) →
      Sound (w.afterCalls calls) (generations ++ madeCurrent w calls) := by
  induction calls with
  | nil =>
    intro w generations sound _
    rw [madeCurrent, List.append_nil]
    exact sound
  | cons c rest ih =>
    intro w generations sound sourced
    have one := (c.takes w).sound (sourced c (by simp)) sound
    have more := ih (c.method.after w) _ one fun d member => sourced d (by simp [member])
    rw [List.append_assoc] at more
    exact more

/-- A Workspace through any history: the generations made current are one line, the recovery
state belongs to DEGRADED and the time of deletion to DELETED, which is never left, and a call
that fails changes nothing. If PROVISIONING becomes READY with a generation only, every usable
Workspace has a current one. -/
theorem workspace_history {tenantID id : ID} {binding : RawBinding} {now : Time}
    (created : create tenantID id binding now = .ok w) {calls : List Call}
    (sourced : ∀ c ∈ calls, c.Sourced) :
    (∀ before rest, calls = before ++ rest →
      Sound (w.afterCalls before) (madeCurrent w before) ∧
      ((w.afterCalls before).state = .deleted → w.afterCalls calls = w.afterCalls before)) ∧
    (∀ before c rest, calls = before ++ c :: rest →
      ∀ error, (c.method.call (w.afterCalls before)).1 = .error error →
        w.afterCalls (before ++ [c]) = w.afterCalls before) ∧
    (Method.Along Call.method Awaits w calls →
      ∀ before rest, calls = before ++ rest → Equipped (w.afterCalls before)) := by
  obtain ⟨sound, equipped⟩ := created_sound created
  refine ⟨?_, ?_, fun waits => ?_⟩
  · rintro before rest rfl
    refine ⟨sound_history before w [] sound
      (fun c member => sourced c (List.mem_append_left _ member)), fun deleted => ?_⟩
    exact Method.history_fixed (P := fun w => w.state = .deleted)
      (fun s c => (c.takes s).deleted_same) deleted rest
  · rintro before c rest rfl error refused
    exact (Method.history_concat w before c).trans (c.refused_same refused)
  · rintro before rest rfl
    exact (Method.along_append.mp waits).1.invariant (P := Equipped)
      (fun s c equipped waits => (c.takes s).equipped waits equipped) equipped

end Calls

namespace Sample

def stored : RawBinding :=
  { sessionID := ID.v7 3, providerKind := "k", providerReference := "p", capacityBytes := 1
    accessMode := "a", volumeMode := "v", encryptionClass := "e", storageProfile := "s"
    configDigest := some ⟨0⟩, sourceType := "t", sourceReference := "r", provenance := "\x7b\x7d"
    provenanceDigest := some ⟨0⟩, createOperationID := ID.v7 4, retentionDisposition := "d" }

/-- A new Workspace. -/
structure Fresh where
  w : Workspace
  created : create (ID.v7 1) (ID.v7 2) stored 10 = .ok w
  state : w.state = .provisioning
  version : w.stateVersion = 0
  updated : w.updatedAt = 10
  unset : w.currentGenerationID = none

def fresh : Fresh where
  w := { tenantID := ID.v7 1, id := ID.v7 2, binding := stored, state := .provisioning
         stateVersion := 0, currentGeneration := 0, currentGenerationID := none
         recoveryState := none, createdAt := 10, updatedAt := 10, deletedAt := none }
  created := by decide +kernel
  state := rfl
  version := rfl
  updated := rfl
  unset := rfl

/-- The first boundary of that Workspace. -/
structure First where
  g : Generation
  made : newGeneration (ID.v7 1) (ID.v7 5) (ID.v7 2) (ID.v7 3) 0 none g.binding 11 = .ok g

def boundary : GenerationBinding :=
  { operationID := ID.v7 6, providerSnapshotReference := "", integrityAlgorithm := "i"
    integrityRoot := some ⟨0⟩, manifestDigest := some ⟨0⟩, logicalBytes := 0, logicalFiles := 0
    creatorExecutionID := none, creatorAttemptID := none, creatorExecutionGeneration := 0
    storageEvidence := "\x7b\x7d", storageEvidenceDigest := some ⟨0⟩, classification := "c"
    retentionDisposition := "d" }

def first : First where
  g := { tenantID := ID.v7 1, id := ID.v7 5, workspaceID := ID.v7 2, sessionID := ID.v7 3
         generation := 0, parentID := none, binding := boundary, createdAt := 11 }
  made := by decide +kernel

/-- Published, ready, degraded and deleted. -/
def calls : List Call :=
  [.publish first.g 0 12, .transition (some .ready) 1 13, .transition (some .degraded) 2 14,
    .transition (some .deleting) 3 15, .transition (some .deleted) 4 16]

end Sample

open Sample

theorem workspace_history_sample :
    (fresh.w.afterCalls calls).state = .deleted ∧
    Sound (fresh.w.afterCalls calls) (madeCurrent fresh.w calls) ∧
    (fresh.w.afterCalls (calls.take 2)).state = .ready ∧
    (fresh.w.afterCalls (calls.take 2)).currentGenerationID.isSome = true := by
  have sourced : ∀ c ∈ calls, c.Sourced := by
    simp only [calls, List.forall_mem_cons, Call.Sourced]
    exact ⟨⟨_, _, _, _, _, _, _, _, first.made⟩, trivial, trivial, trivial, trivial, by simp⟩
  have waits : Method.Along Call.method Awaits fresh.w calls :=
    ⟨trivial, fun _ => rfl, trivial, trivial, trivial, trivial⟩
  obtain ⟨line, -, usable⟩ := workspace_history fresh.created sourced
  have ready := usable waits (calls.take 2) (calls.drop 2) (List.take_append_drop 2 calls).symm
  exact ⟨by decide, (line calls [] (List.append_nil _).symm).1, rfl, ready.usable rfl⟩

/-- A Workspace that just was created becomes READY without a generation. -/
theorem ready_without_generation :
    create (ID.v7 1) (ID.v7 2) stored 10 = .ok fresh.w ∧
      ((transition (some .ready) 0 11).call fresh.w).1 = .ok () ∧
      (fresh.w.afterCalls [.transition (some .ready) 0 11]).state = .ready ∧
      (fresh.w.afterCalls [.transition (some .ready) 0 11]).currentGenerationID = none :=
  ⟨fresh.created, rfl, rfl, rfl⟩

end ThinkPixelAR.Workspace
