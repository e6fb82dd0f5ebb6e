import ThinkPixelAR.Guarantees.SandboxJournal

/-!
The ordinals of an Execution's Attempts. Attempt rows are appended and keep their
place; the schema keeps their identity and ordinal, freezes an Attempt that is no
longer current and admits one current Attempt per Execution.

ReplaceDeleted numbers its Attempt after the current one. The repository's Add takes
the ordinal its caller offers: the schema asks only that it is positive and unused.
Ordinals increase if every Add offers more than the ordinal recorded last.
-/
namespace ThinkPixelAR.Guarantees

open Relational Postgres
open Attempts (add lockParents_submits update)

variable {a : Attempt} {platform : Platform} {db after : Db}

/-- Of two Attempts of one Execution, the one recorded later has the greater ordinal. -/
def Ascending (rows : List Attempt) : Prop :=
  rows.Pairwise fun earlier later =>
    earlier.binding.executionID = later.binding.executionID →
      earlier.binding.number < later.binding.number

instance (rows : List Attempt) : Decidable (Ascending rows) :=
  inferInstanceAs (Decidable (List.Pairwise _ _))

/-- What was handed out: the Attempts with their Executions and ordinals, in order. -/
def handedOut (rows : List Attempt) : List (ID × ID × Nat) :=
  rows.map fun a => (a.id, a.binding.executionID, a.binding.number)

/-- The Attempt recorded last for an Execution. -/
def lastAttempt (rows : List Attempt) (executionID : ID) : Option Attempt :=
  (rows.filter (·.binding.executionID = executionID)).getLast?

/-- The Attempt offers an ordinal greater than the one recorded last. -/
def OffersNext (db : Db) (offered : Attempt) : Prop :=
  ∀ last, lastAttempt (db .attempts) offered.binding.executionID = some last →
    last.binding.number < offered.binding.number

/-! ### Rows in ascending order -/

/-- Ascending rows in which the current Attempt of an Execution is its greatest. -/
structure Ordered (rows : List Attempt) : Prop where
  ascending : Ascending rows
  leads : ∀ a ∈ rows, a.current = true → ∀ b ∈ rows,
    b.binding.executionID = a.binding.executionID → b.binding.number ≤ a.binding.number

section Rows
variable {rows : List Attempt} {offered last : Attempt}

variable {executionID : ID} {selects : Attempt → Bool} {set : Attempt → Attempt}

/-- In ascending rows the last Attempt of an Execution is its greatest. -/
theorem Ascending.le_last (ascending : Ascending rows)
    (found : lastAttempt rows executionID = some last) (member : a ∈ rows)
    (same : a.binding.executionID = executionID) : a.binding.number ≤ last.binding.number := by
  have mine : a ∈ rows.filter (·.binding.executionID = executionID) :=
    List.mem_filter.mpr ⟨member, decide_eq_true same⟩
  obtain ⟨earlier, split⟩ := List.getLast?_eq_some_iff.mp found
  have sorted := ascending.filter (·.binding.executionID = executionID)
  rw [split] at mine sorted
  have kept : last ∈ rows.filter (·.binding.executionID = executionID) := by
    rw [split]
    exact List.mem_append_right _ List.mem_cons_self
  rcases List.mem_append.mp mine with before | same'
  · have less := (List.pairwise_append.mp sorted).2.2 a before last List.mem_cons_self
    exact le_of_lt (less (same.trans (of_decide_eq_true (List.mem_filter.mp kept).2).symm))
  · rw [List.mem_singleton.mp same']

/-- An ordinal above the last one is above all of them. -/
theorem Ascending.above (ascending : Ascending rows) {number : Nat}
    (next : ∀ last, lastAttempt rows executionID = some last → last.binding.number < number)
    (member : a ∈ rows) (same : a.binding.executionID = executionID) :
    a.binding.number < number := by
  cases found : lastAttempt rows executionID with
  | none =>
    have none := List.filter_eq_nil_iff.mp (List.getLast?_eq_none_iff.mp found) a member
    exact (none (decide_eq_true same)).elim
  | some last => exact lt_of_le_of_lt (ascending.le_last found member same) (next last found)

/-- Updates that keep the binding and make no Attempt current keep the order. -/
theorem Ordered.updated (ordered : Ordered rows) (kept : ∀ a ∈ rows, selects a = true →
      (set a).binding = a.binding ∧ ((set a).current = true → a.current = true)) :
    Ordered (updated selects set rows) := by
  have binding : ∀ a ∈ rows, (if selects a then set a else a).binding = a.binding := by
    intro a member
    split
    next selected => exact (kept a member selected).1
    next => rfl
  refine ⟨?_, fun a ha current b hb same => ?_⟩
  · refine List.pairwise_map.mpr (ordered.ascending.imp_of_mem fun ha hb less => ?_)
    rw [binding _ ha, binding _ hb]
    exact less
  · obtain ⟨a', ha', rfl⟩ := List.mem_map.mp ha
    obtain ⟨b', hb', rfl⟩ := List.mem_map.mp hb
    rw [binding _ ha', binding _ hb'] at same ⊢
    refine ordered.leads a' ha' ?_ b' hb' same
    split at current
    next selected => exact (kept a' ha' selected).2 current
    next => exact current

/-- A current Attempt with a greater ordinal keeps the order. The Attempts before it
are no longer current, since the Execution has one current Attempt. -/
theorem Ordered.append (ordered : Ordered rows) (current : offered.current = true)
    (unique : UniqueOn (rows ++ [offered]) (·.current) (·.binding.executionID))
    (above : ∀ a ∈ rows, a.binding.executionID = offered.binding.executionID →
      a.binding.number < offered.binding.number) : Ordered (rows ++ [offered]) := by
  have new : offered ∈ rows ++ [offered] := List.mem_append_right _ List.mem_cons_self
  refine ⟨List.pairwise_append.mpr ⟨ordered.ascending, List.pairwise_singleton .., ?_⟩, ?_⟩
  · intro a ha b hb same
    rw [List.mem_singleton.mp hb] at same ⊢
    exact above a ha same
  · intro a ha leader b hb same
    rcases List.mem_append.mp ha with oldA | newA
    · rcases List.mem_append.mp hb with oldB | newB
      · exact ordered.leads a oldA leader b oldB same
      · rw [List.mem_singleton.mp newB] at same ⊢
        have one := unique.eq ha new leader current same.symm
        exact le_of_eq (by rw [one])
    · rw [List.mem_singleton.mp newA] at same ⊢
      rcases List.mem_append.mp hb with oldB | newB
      · exact le_of_lt (above b oldB same)
      · rw [List.mem_singleton.mp newB]

theorem handedOut_updated
    (kept : ∀ a ∈ rows, selects a = true → (set a).id = a.id ∧ (set a).binding = a.binding) :
    handedOut (updated selects set rows) = handedOut rows := by
  unfold handedOut Relational.updated
  rw [List.map_map]
  refine List.map_congr_left fun a member => ?_
  rw [Function.comp_apply]
  split
  next selected => rw [(kept a member selected).1, (kept a member selected).2]
  next => rfl

theorem mem_handedOut {other : List Attempt} (same : handedOut other = handedOut rows)
    (member : a ∈ other) : ∃ b ∈ rows, b.id = a.id ∧
      b.binding.executionID = a.binding.executionID ∧ b.binding.number = a.binding.number := by
  have listed : (a.id, a.binding.executionID, a.binding.number) ∈ handedOut rows :=
    same ▸ List.mem_map_of_mem member
  obtain ⟨b, present, equal⟩ := List.mem_map.mp listed
  simp only [Prod.mk.injEq] at equal
  exact ⟨b, present, equal⟩

theorem handedOut_append : handedOut rows <+: handedOut (rows ++ [offered]) := by
  unfold handedOut
  rw [List.map_append]
  exact List.prefix_append ..

end Rows

/-! ### One statement -/

/-- The statement deletes no Attempt. -/
def KeepsAttempts : Stmt → Prop
  | .delete t _ => t ≠ .attempts
  | _ => True

/-- What a transaction that starts from `db` keeps: a sound store with ordered
Attempts, in which those of `db` are still the first ones. -/
structure Numbered (db after : Db) : Prop where
  sound : Sound after
  ordered : Ordered (after .attempts)
  handedOut : handedOut (db .attempts) <+: handedOut (after .attempts)

section Statement
variable {now : Time} {c : Stmt} {initial : Db} {n : Nat}

/-- An update of Attempts keeps their identity and wakes no finished one. -/
theorem attempt_update_ok {old new : Attempt}
    (accepted : (rules now).updateTrigger .attempts db old new = .ok ()) :
    new.id = old.id ∧ new.binding = old.binding ∧ old.current = true := by
  obtain ⟨fence, identity⟩ := except_seq_ok.mp accepted
  have kept := refuse_ok.mp identity
  have fenced := not_not.mp (refuse_ok.mp fence)
  simp only [not_or, not_not] at kept
  exact ⟨kept.1, kept.2.1, fenced.2⟩

theorem attempt_insert_ok {row : Attempt} {prepared : Db}
    (accepted : (rules now).insertTrigger .attempts db row = .ok prepared) :
    row.current = true := by
  obtain ⟨fence, -⟩ := except_seq_ok.mp accepted
  exact (not_not.mp (refuse_ok.mp fence)).2

theorem numbered_step (keeps : KeepsAttempts c)
    (next : ∀ a, c = .insert .attempts a → OffersNext db a) (before : Numbered initial db)
    (accepted : (rules now).execute c db = .ok (n, after)) : Numbered initial after := by
  have sound := execute_sound accepted
  by_cases other : c.table = .attempts
  case neg =>
    have same : after .attempts = db .attempts :=
      execute_other accepted (fun same => other same.symm) fun touched => nomatch touched.2
    exact ⟨sound, by rw [same]; exact before.ordered, by rw [same]; exact before.handedOut⟩
  cases c with
  | insert t row =>
    obtain rfl : t = .attempts := other
    obtain ⟨_, trigger, -⟩ := Rules.execute_insert.mp accepted
    have rows := execute_insert_rows accepted
    have unique := sound.current_unique
    rw [rows] at unique
    refine ⟨sound, ?_, ?_⟩
    · rw [rows]
      exact before.ordered.append (attempt_insert_ok trigger) unique fun a member same =>
        before.ordered.ascending.above (next row rfl) member same
    · rw [rows]
      exact before.handedOut.trans handedOut_append
  | update t selects set =>
    obtain rfl : t = .attempts := other
    have trigger := (Rules.execute_update.mp accepted).1
    have rows := execute_update_rows accepted
    refine ⟨sound, ?_, ?_⟩
    · rw [rows]
      refine before.ordered.updated fun a member selected => ?_
      obtain ⟨-, binding, current⟩ := attempt_update_ok (trigger a member selected)
      exact ⟨binding, fun _ => current⟩
    · rw [rows, handedOut_updated fun a member selected => ?_]
      · exact before.handedOut
      · obtain ⟨id, binding, -⟩ := attempt_update_ok (trigger a member selected)
        exact ⟨id, binding⟩
  | delete t selects => exact (keeps other).elim

end Statement

/-! ### One transaction -/

section Replacement
variable {clock : Clock} {old next : Sandbox.Scope} {digest : Digest} {version : Nat}
  {rows : List Attempt}

/-- The Attempts of `rows` after a replacement. -/
def endedAttempts (clock : Clock) (old next : Sandbox.Scope) (digest : Digest) (version : Nat)
    (rows : List Attempt) : List Attempt :=
  updated (·.id = next.attemptID) (bindAttempt next.sandboxID (clock.reading 10))
    (updated (fun a => a.id = old.attemptID && a.stateVersion = version + 1)
      (replaceAttempt ⟨next.attemptID.text, digest⟩ (clock.reading 8) (clock.reading 9))
      (updated (fun a => a.id = old.attemptID && a.stateVersion = version)
        (interruptAttempt (clock.reading 7)) rows))

theorem replacedAttempts_eq : replacedAttempts clock old next digest version rows =
    endedAttempts clock old next digest version rows ++
      [bindAttempt next.sandboxID (clock.reading 10) (pendingAttempt next clock.transaction)] := by
  simp [replacedAttempts, endedAttempts, updated, pendingAttempt]

theorem handedOut_endedAttempts :
    handedOut (endedAttempts clock old next digest version rows) = handedOut rows := by
  unfold endedAttempts
  refine (handedOut_updated ?_).trans ((handedOut_updated ?_).trans (handedOut_updated ?_))
  all_goals exact fun _ _ _ => ⟨rfl, rfl⟩

theorem Ordered.ended (ordered : Ordered rows) :
    Ordered (endedAttempts clock old next digest version rows) := by
  unfold endedAttempts
  refine Ordered.updated (Ordered.updated (Ordered.updated ordered ?_) ?_) ?_
  · exact fun _ _ _ => ⟨rfl, fun current => current⟩
  · exact fun _ _ _ => ⟨rfl, fun current => absurd current (by simp [replaceAttempt])⟩
  · exact fun _ _ _ => ⟨rfl, fun current => current⟩

end Replacement

/-- The replacement of a deleted sandbox numbers its Attempt after the current one. -/
theorem numbered_replaced {clock : Clock} {lost : ID} {resources : Sandbox.ReplacementResources}
    {old : Sandbox.Binding} {s : SessionRow} {e : Execution} {b : SandboxBindingRow}
    {digest : Digest}
    (replaced : Replaced platform clock db after lost resources old s e a b digest)
    (before : Ordered (db .attempts)) (sound : Sound after) : Numbered db after := by
  obtain ⟨-, ⟨-, execution, -⟩, member, -, lineage⟩ := scopeRows_ok replaced.rows
  have safe := replaced.safe
  simp only [replacementSafe, Truth.holds_and, Truth.holds_of, and_assoc] at safe
  obtain ⟨-, -, -, -, -, -, -, -, -, current, -, number, -⟩ := safe
  have rows := replaced.attempts.trans replacedAttempts_eq
  have unique := sound.current_unique
  rw [rows] at unique
  refine ⟨sound, ?_, ?_⟩
  · rw [rows]
    refine before.ended.append rfl unique fun row present same => ?_
    obtain ⟨row', present', -, same', number'⟩ := mem_handedOut handedOut_endedAttempts present
    have own : row'.binding.executionID = a.binding.executionID := by
      rw [same', same, lineage, execution]
      rfl
    have bound := before.leads a member current row' present' own
    show row.binding.number < old.request.scope.attemptOrdinal + 1
    omega
  · rw [rows, ← handedOut_endedAttempts]
    exact handedOut_append

/-! ### Every run -/

/-- The transactions that may write Attempts: units of work over the repositories,
which delete no Attempt and whose inserted Attempts are `offered`, and ReplaceDeleted. -/
inductive AttemptWriter (platform : Platform) (offered : Db → Attempt → Prop) (db : Db) :
    {α : Type} → Time → Transaction α → Prop
  | unitOfWork {α : Type} (now : Time) (x : Transaction α) (keeps : x.Submits KeepsAttempts)
      (offers : ∀ event ∈ x.trace (rules now).execute db, ∀ a,
        event.statement = .insert .attempts a → offered event.pre a) :
      AttemptWriter platform offered db now x
  | replaceDeleted (clock : Clock) (policy : Sandbox.Binding → Sandbox.AcquireRequest → Bool)
      (events : ID × ID) (lost : ID) (resources : Sandbox.ReplacementResources) :
      AttemptWriter platform offered db clock.transaction
        (Postgres.replaceDeleted platform clock policy events lost resources)

/-- A committed transaction. -/
def AttemptStep (platform : Platform) (offered : Db → Attempt → Prop) (db after : Db) : Prop :=
  ∃ (α : Type) (now : Time) (x : Transaction α) (a : α),
    AttemptWriter platform offered db now x ∧
      (rules now).commit Fault.error x db = .ok (a, after)

theorem numbered_commit (sound : Sound db) (ordered : Ordered (db .attempts))
    (step : AttemptStep platform OffersNext db after) : Numbered db after := by
  obtain ⟨α, now, x, a, writer, committed⟩ := step
  have ran := (Rules.commit_ok.mp committed).1
  have initial : Numbered db db := ⟨sound, ordered, List.prefix_refl _⟩
  cases writer with
  | unitOfWork now x keeps offers =>
    refine Tx.run_keeps (fun event member n accepted before => ?_) initial ran
    obtain ⟨admitted, -⟩ := Tx.mem_trace (I := fun _ => True) (fun _ _ _ _ _ _ _ => trivial)
      keeps trivial member
    exact numbered_step admitted (offers event member) before accepted
  | replaceDeleted clock policy events lost resources =>
    rcases replaceDeleted_effects ran with
      ⟨-, -, rfl, -⟩ | ⟨-, old, s, e, a, b, digest, -, decided, -⟩
    · exact initial
    · exact numbered_replaced decided ordered (commit_sound sound committed)

theorem ordered_run {initial : Db} (sound : Sound initial) (none : initial .attempts = [])
    (run : Relation.ReflTransGen (AttemptStep platform OffersNext) initial db) :
    Sound db ∧ Ordered (db .attempts) := by
  induction run with
  | refl =>
    rw [none]
    exact ⟨sound, List.Pairwise.nil, fun _ member => nomatch member⟩
  | tail _ step ih =>
    have numbered := numbered_commit ih.1 ih.2 step
    exact ⟨numbered.sound, numbered.ordered⟩

/-- In every run in which Add is offered ordinals above the one recorded last, every
transaction leaves the Attempts it found, with their ordinals, in their places, and
whatever it records later has a greater ordinal than all earlier Attempts of its
Execution. -/
theorem attempt_ordinals_increase (platform : Platform) {initial db after : Db}
    (sound : Sound initial) (none : initial .attempts = [])
    (run : Relation.ReflTransGen (AttemptStep platform OffersNext) initial db)
    (step : AttemptStep platform OffersNext db after) :
    handedOut (db .attempts) <+: handedOut (after .attempts) ∧ Ascending (after .attempts) := by
  obtain ⟨soundDb, ordered⟩ := ordered_run sound none run
  have numbered := numbered_commit soundDb ordered step
  exact ⟨numbered.handedOut, numbered.ordered.ascending⟩

/-! ### An ordinal handed out late -/

/-- Add offers one Attempt, in the store it is called in. -/
theorem AttemptWriter.add {offered : Db → Attempt → Prop} {now : Time} {value : Attempt}
    (next : offered db
      { value with terminalAt := terminalColumn value.terminalResult value.terminalAt }) :
    AttemptWriter platform offered db now (add value) := by
  refine .unitOfWork now _ ?_ fun event member a inserts => ?_
  · exact lockParents_submits.bind fun _ => submits_execWrapped.mpr trivial
  · rcases Tx.mem_trace_bind.mp member with locking | ⟨_, _, locked, inserting⟩
    · exact (Tx.mem_trace (I := fun _ => True) (fun _ _ _ _ _ _ _ => trivial)
        (P := fun _ => False) lockParents_submits trivial locking).1.elim
    · cases Tx.run_unchanged lockParents_submits locked
      rcases Tx.mem_trace_bind.mp inserting with inserted | ⟨_, _, -, never⟩
      · obtain ⟨pre, statement⟩ := Tx.mem_trace_perform inserted
        rw [statement] at inserts
        cases inserts
        exact pre ▸ next
      · cases never

namespace Sample.Ordinals

/-- An ACTIVE Session whose Execution has no Attempt yet. -/
def unattempted : Db := fun
  | .attempts => []
  | t => Sandboxes.admitted t

/-- A new Attempt with the given ordinal. -/
def attempt (n : Nat) : Attempt :=
  { Sandboxes.attempt with
    id := ID.v7 (20 + n), binding := { Sandboxes.attempt.binding with number := n } }

def failure : Attempt.TerminalResult := ⟨"failure", Sandboxes.digest⟩

/-- The Attempt after it failed. -/
def failed (n : Nat) : Attempt :=
  { attempt n with
    state := .failed, stateVersion := 1, current := false, terminalResult := some failure
    updatedAt := 3, terminalAt := some 3 }

def holding (rows : List Attempt) : Db := fun
  | .attempts => rows
  | t => unattempted t

theorem sound_unattempted : Sound unattempted := by decide +kernel

/-- The Attempt `n` is recorded, fails, and the Attempt `next` is recorded. -/
def recorded (n : Nat) : Db := leaving 3 (add (attempt n)) unattempted (holding [attempt n])

def ended (n : Nat) : Db :=
  leaving 3 (update (failed n) 0) (recorded n) (holding [failed n])

def retried (n next : Nat) : Db :=
  leaving 3 (add (attempt next)) (ended n) (holding [failed n, attempt next])

/-- The three transactions commit, one after the other. -/
def Retries (n next : Nat) : Prop :=
  (rules 3).commit Fault.error (add (attempt n)) unattempted = .ok ((), recorded n) ∧
    (rules 3).commit Fault.error (update (failed n) 0) (recorded n) = .ok ((), ended n) ∧
    (rules 3).commit Fault.error (add (attempt next)) (ended n) =
      .ok ((), retried n next)

theorem retries {n next : Nat}
    (first : evaluatesTo 3 (add (attempt n)) unattempted (holding [attempt n]) = true)
    (fails : evaluatesTo 3 (update (failed n) 0) (recorded n) (holding [failed n]) = true)
    (second : evaluatesTo 3 (add (attempt next)) (ended n)
      (holding [failed n, attempt next]) = true) : Retries n next := by
  obtain ⟨_, c1⟩ := commits_of_evaluatesTo sound_unattempted first
  obtain ⟨_, c2⟩ := commits_of_evaluatesTo (commit_sound sound_unattempted c1) fails
  obtain ⟨_, c3⟩ := commits_of_evaluatesTo
    (commit_sound (commit_sound sound_unattempted c1) c2) second
  exact ⟨c1, c2, c3⟩

theorem retries_downwards : Retries 2 1 :=
  retries (by decide +kernel) (by decide +kernel) (by decide +kernel)

theorem retries_upwards : Retries 1 2 :=
  retries (by decide +kernel) (by decide +kernel) (by decide +kernel)

theorem offersNext_first : OffersNext unattempted (attempt 1) := fun _ found => nomatch found

theorem offersNext_second : OffersNext (ended 1) (attempt 2) := by
  intro last found
  obtain rfl : last = failed 1 := (Option.some.inj found).symm
  decide

theorem add_step {n : Nat} (next : OffersNext db (attempt n))
    (committed : (rules 3).commit Fault.error (add (attempt n)) db = .ok ((), after)) :
    AttemptStep Sandboxes.platform OffersNext db after := by
  have writer : AttemptWriter Sandboxes.platform OffersNext db 3 (add (attempt n)) :=
    .add next
  exact ⟨Unit, 3, _, (), writer, committed⟩

/-- The failing Attempt is updated in place. -/
theorem fail_step {n : Nat}
    (committed : (rules 3).commit Fault.error (update (failed n) 0) db =
      .ok ((), after)) : AttemptStep Sandboxes.platform OffersNext db after := by
  have updates : (update (failed n) 0).Submits fun c =>
      KeepsAttempts c ∧ ∀ a, c ≠ .insert .attempts a :=
    lockParents_submits.bind fun _ =>
      submits_affected.mpr ⟨trivial, fun _ same => nomatch same⟩
  refine ⟨Unit, 3, _, (), .unitOfWork 3 _ (updates.mono fun _ both => both.1) ?_, committed⟩
  intro event member a inserts
  obtain ⟨⟨-, never⟩, -⟩ := Tx.mem_trace (I := fun _ => True) (fun _ _ _ _ _ _ _ => trivial)
    updates trivial member
  exact (never a inserts).elim

end Sample.Ordinals

open Sample.Ordinals

/-- Both Attempts are the domain's own, and the schema takes the smaller ordinal after
the greater one. -/
theorem add_commits_smaller_ordinal :
    Attempt.create (ID.v7 22) (attempt 2).binding 2 =
        .ok (attempt 2) ∧
      (attempt 2).transition .failed 0 (some failure) 3 =
        .ok (failed 2) ∧
      Attempt.create (ID.v7 21) (attempt 1).binding 2 =
        .ok (attempt 1) ∧
      unattempted .attempts = [] ∧ Retries 2 1 ∧
      handedOut (retried 2 1 .attempts) =
        [(ID.v7 22, ID.v7 3, 2), (ID.v7 21, ID.v7 3, 1)] ∧
      ¬ Ascending (retried 2 1 .attempts) :=
  ⟨rfl, by decide +kernel, rfl, rfl, retries_downwards, rfl, by decide +kernel⟩

theorem attempt_ordinals_increase_upwards :
    ∃ db after, Relation.ReflTransGen (AttemptStep Sample.Sandboxes.platform OffersNext)
        unattempted db ∧
      AttemptStep Sample.Sandboxes.platform OffersNext db after ∧
      handedOut (after .attempts) = [(ID.v7 21, ID.v7 3, 1), (ID.v7 22, ID.v7 3, 2)] ∧
      handedOut (db .attempts) <+: handedOut (after .attempts) ∧ Ascending (after .attempts) := by
  obtain ⟨c1, c2, c3⟩ := retries_upwards
  have first := add_step offersNext_first c1
  have run := (Relation.ReflTransGen.single first).tail (fail_step c2)
  have second := add_step offersNext_second c3
  exact ⟨_, _, run, second, rfl, attempt_ordinals_increase _ sound_unattempted rfl
    run second⟩

end ThinkPixelAR.Guarantees
