import ThinkPixelAR.Adapters.AgentSandbox
import ThinkPixelAR.Guarantees.ComputeObservations
import ThinkPixelAR.Guarantees.LostCompute
import ThinkPixelAR.Postgres.ComputeRecording

/-!
One pass of reconciliation against its own writes. The provider writes to the binding
that the pass will record an observation for: an accepted acquisition binds the
reference and a first release begins the journal. `RecordCompute` rejects the
observation of such a pass, the next pass reads what was saved; every other pass
records what it observed.
-/
namespace ThinkPixelAR.Guarantees

open Relational Adapters
open AgentSandbox (provider acquire providerReference call Environment getBinding Object getOwned
  Service Blueprint)
open App.Compute (observation observe reported running release recovery)
open Calls (Runs runs_perform runs_bind runs_pure)
open Postgres hiding errNotFound errConflict
open Sandbox hiding State

variable {q : SandboxBindingRequestRow} {row : SandboxBindingRow} {intent : ComputeIntent}
  {current known : Bool}

/-! ### Transactions of others -/

/-- A committed transaction that leaves the sandbox, its Session, its Execution and
its Attempt alone. -/
structure Aside (scope : Scope) (db after : Db) : Prop where
  committed : ∃ (β : Type) (now : Time) (x : Transaction β) (b : β),
    (rules now).commit Fault.error x db = .ok (b, after)
  untouched : Untouched scope.sandboxID db after
  rows : scopeRows after scope = scopeRows db scope

/-- Any number of them, or own transactions that answered what was there. -/
structure Stays (scope : Scope) (db after : Db) : Prop where
  untouched : Untouched scope.sandboxID db after
  rows : scopeRows after scope = scopeRows db scope
  sound : Sound db → Sound after
  settled : Settled db → Settled after

section Stays
variable {scope : Scope} {db middle after : Db} {α : Type} {now : Time} {x : Transaction α} {a : α}

theorem Stays.refl (db : Db) : Stays scope db db := ⟨.refl db, rfl, id, id⟩

theorem Stays.trans (first : Stays scope db middle) (second : Stays scope middle after) :
    Stays scope db after :=
  ⟨first.untouched.trans second.untouched, second.rows.trans first.rows,
    second.sound ∘ first.sound, second.settled ∘ first.settled⟩

theorem stays_of_waiting (waits : Relation.ReflTransGen (Aside scope) db after) :
    Stays scope db after := by
  induction waits with
  | refl => exact .refl db
  | tail _ step ih =>
    obtain ⟨_, now, x, b, committed⟩ := step.committed
    exact ih.trans ⟨step.untouched, step.rows, fun sound => commit_sound sound committed,
      fun _ => deferred_ok.mp (Rules.commit_ok.mp committed).2⟩

/-- A service that is done waits. -/
theorem runs_done {β : Type} {answer b : β}
    (runs : Runs (Aside scope) (pure b : Service β) db after answer) :
    answer = b ∧ Stays scope db after :=
  (runs_pure.mp runs).imp_right stays_of_waiting

/-- A transaction that writes the work queue only. -/
theorem stays_of_quiet (committed : (rules now).commit Fault.error x db = .ok (a, after))
    (quiet : ∀ u, outside [.reconciliationWork] u = true → after u = db u) :
    Stays scope db after := by
  refine ⟨.of_eq fun t member => ?_, ?_, fun sound => commit_sound sound committed,
    fun _ => deferred_ok.mp (Rules.commit_ok.mp committed).2⟩
  · revert member
    cases t <;> first | exact fun _ => quiet _ rfl | exact fun member => absurd member (by decide)
  · simp only [scopeRows, quiet .sessions rfl, quiet .executions rfl, quiet .attempts rfl]

/-- One call of the store by a service. -/
theorem runs_call {answer : Except Error α}
    (runs : Runs (Aside scope) (call now x) db after answer) :
    ∃ m, Stays scope db m ∧
      ((∃ a m', answer = .ok a ∧ (rules now).commit Fault.error x m = .ok (a, m') ∧
          Stays scope m' after) ∨
        (∃ e, answer = .error e ∧ Stays scope m after)) := by
  obtain ⟨m, waits, ⟨a, m', rfl, accepted, later⟩ | ⟨e, rfl, -, later⟩⟩ :=
    runs_perform.mp runs
  · refine ⟨m, stays_of_waiting waits, .inl ⟨a, m', rfl, ?_, stays_of_waiting later⟩⟩
    unfold SandboxBindings.transaction at accepted
    cases ran : (rules now).commit Fault.error x m with
    | error e => simp [ran, Except.mapError] at accepted
    | ok result => simpa [ran, Except.mapError] using accepted
  · exact ⟨m, stays_of_waiting waits, .inr ⟨e, rfl, stays_of_waiting later⟩⟩

end Stays

/-! ### What the provider does to the store -/

section Provider
variable {platform : Platform} {env : Environment} {scope : Scope} {db after : Db}
  {id : ID}

theorem getBinding_stays {answer : Except Error Binding}
    (runs : Runs (Aside scope) (getBinding platform env id) db after answer) :
    Stays scope db after := by
  obtain ⟨m, before, ⟨a, m', -, committed, later⟩ | ⟨_, -, later⟩⟩ := runs_call runs
  · obtain ⟨ran, -⟩ := Rules.commit_ok.mp committed
    simp only [Tx.run_bind, Tx.run_pure] at ran
    obtain ⟨⟨b, revision⟩, _, read, -, rfl⟩ := ran
    obtain ⟨rfl, -⟩ := run_readSandboxBinding.mp read
    exact before.trans later
  · exact before.trans later

theorem getOwned_stays {answer : Except Error (Binding × Object)}
    (runs : Runs (Aside scope) (getOwned platform env id) db after answer) :
    Stays scope db after := by
  unfold getOwned at runs
  obtain ⟨binding, m, first, rest⟩ := runs_bind.mp runs
  refine (getBinding_stays first).trans ?_
  cases binding <;> exact (runs_done rest).2

theorem get_stays {answer : Except Error Status}
    (runs : Runs (Aside scope) (AgentSandbox.get platform env id) db after answer) :
    Stays scope db after := by
  unfold AgentSandbox.get at runs
  obtain ⟨owned, m, first, rest⟩ := runs_bind.mp runs
  refine (getOwned_stays first).trans ?_
  cases owned <;> exact (runs_done rest).2

/-- The provider's reference of the sandbox is bound. -/
def BoundIn (db : Db) (id : ID) : Prop :=
  ∃ b ∈ db .sandboxBindings, b.id = id ∧ b.providerReference ≠ none

/-- The journal of the sandbox has begun. -/
def BegunIn (db : Db) (id : ID) : Prop :=
  ∃ q ∈ db .sandboxBindingRequests, q.sandboxBindingID = id ∧ q.operationRevision ≠ 0

theorem mem_of_filter {α : Type} {old new : List α} {mine : α → Bool} {a : α}
    (same : new.filter mine = old.filter mine) (member : a ∈ old) (owned : mine a = true) :
    a ∈ new :=
  (List.mem_filter.mp (same ▸ List.mem_filter.mpr ⟨member, owned⟩)).1

theorem BoundIn.stays (bound : BoundIn db scope.sandboxID) (stays : Stays scope db after) :
    BoundIn after scope.sandboxID := by
  obtain ⟨b, member, key, reference⟩ := bound
  exact ⟨b, mem_of_filter stays.untouched.bindings member (decide_eq_true key), key, reference⟩

theorem BegunIn.stays (begun : BegunIn db scope.sandboxID) (stays : Stays scope db after) :
    BegunIn after scope.sandboxID := by
  obtain ⟨q, member, key, revision⟩ := begun
  exact ⟨q, mem_of_filter stays.untouched.requests member (decide_eq_true key), key, revision⟩

/-- An acquisition is accepted exactly when it bound the reference of its sandbox. -/
theorem acquire_runs {r : AcquireRequest} (stored : Stored platform db r.scope.sandboxID q row)
    (unbound : row.providerReference = none) {answer : Except Error Handle}
    (runs : Runs (Aside r.scope) (acquire platform env r) db after answer) :
    (Stays r.scope db after ∧ ∃ e, answer = .error e) ∨
      ((Sound db → Sound after) ∧ BoundIn after r.scope.sandboxID ∧
        ∃ handle, answer = .ok handle ∧ handle.sandboxID = r.scope.sandboxID ∧
          handle.providerReference ≠ none) := by
  unfold acquire at runs
  split at runs
  next e _ =>
    obtain ⟨rfl, waits⟩ := runs_done runs
    exact .inl ⟨waits, e, rfl⟩
  next blueprint _ =>
    obtain ⟨reservation, m, first, rest⟩ := runs_bind.mp runs
    obtain ⟨m1, before, ⟨b, m2, rfl, reserved, later⟩ | ⟨e, rfl, later⟩⟩ := runs_call first
    · -- The sandbox exists, so the reservation is answered.
      have replayed : Stays r.scope m1 m2 := by
        rcases reserve_effects (Rules.commit_ok.mp reserved).1 with ⟨-, quiet, -⟩ | ⟨missing, -⟩
        · exact stays_of_quiet reserved quiet
        · obtain ⟨⟨request, key⟩, binding, key'⟩ := (before.untouched.stored stored).mem
          have present : hasBinding m1 r.scope.sandboxID = true := by
            simp only [hasBinding, Bool.and_eq_true, List.any_eq_true, decide_eq_true_eq]
            exact ⟨⟨q, request, key⟩, row, binding, key'⟩
          cases present.symm.trans missing
      have stays : Stays r.scope db m := (before.trans replayed).trans later
      dsimp only at rest
      split at rest
      next e _ =>
        obtain ⟨rfl, waits⟩ := runs_done rest
        exact .inl ⟨stays.trans waits, e, rfl⟩
      next reference _ =>
        obtain ⟨done, m3, second, last⟩ := runs_bind.mp rest
        obtain ⟨m4, until_, ⟨_, m5, rfl, committed, since⟩ | ⟨e, rfl, since⟩⟩ := runs_call second
        · obtain ⟨rfl, waits⟩ := runs_done last
          have reached := stays.trans until_
          have end_ := since.trans waits
          obtain ⟨_, b', again, -, replayed | ⟨-, changed⟩⟩ :=
            bindReference_effects (Rules.commit_ok.mp committed).1
          · have same := (reached.untouched.stored stored).binding.symm.trans again.binding
            cases same
            cases unbound.symm.trans replayed.1
          · refine .inr ⟨fun sound => end_.sound (commit_sound (reached.sound sound) committed),
              BoundIn.stays ?_ end_, _, rfl, rfl, nofun⟩
            obtain ⟨-, member, key⟩ := again.mem
            refine ⟨bindTo reference env.bindAt b', ?_, key, nofun⟩
            rw [changed.bindings]
            exact mem_updated.mpr ⟨b', member, .inl ⟨decide_eq_true key, rfl⟩⟩
        · obtain ⟨rfl, waits⟩ := runs_done last
          exact .inl ⟨stays.trans (until_.trans (since.trans waits)), e, rfl⟩
    · obtain ⟨rfl, waits⟩ := runs_done rest
      exact .inl ⟨before.trans (later.trans waits), e, rfl⟩

/-- Beginning a release that is derived answers it, or begins the journal. -/
theorem beginOperation_release {now : Time} {revision : Nat}
    (stored : Stored platform db scope.sandboxID q row)
    (desires : Desires platform db scope.sandboxID q row current intent)
    (released : intent.desired = .released) (committed : (rules now).commit Fault.error
      (beginOperation platform now scope.sandboxID .release intent.operation) db =
        .ok (revision, after)) :
    Stays scope db after ∨ (intent.revision = 0 ∧ BegunIn after scope.sandboxID) := by
  obtain ⟨q', row', _, digest, stored', -, -, -, -, -, effect⟩ :=
    beginOperation_effects (Rules.commit_ok.mp committed).1
  cases stored.request.symm.trans stored'.request
  cases stored.binding.symm.trans stored'.binding
  rcases effect with ⟨_, -, -, -, -, -, -, quiet⟩ | ⟨-, -, appended, -⟩
  · exact .inl (stays_of_quiet committed quiet)
  · refine .inr ⟨?_, ?_⟩
    · cases desires with
      | running => cases released
      | cleanup unjournalled => exact unjournalled
      | journal journalled found release =>
        -- The journal does not end in a release when another entry is appended.
        rcases appended.last with first | ⟨before, last, kind⟩
        · exact absurd (Nat.succ.inj first) journalled
        · cases found.symm.trans last
          exact absurd release kind
    · obtain ⟨⟨member, key⟩, -⟩ := stored.mem
      refine ⟨{ q with operationRevision := q.operationRevision + 1 }, ?_, key, Nat.succ_ne_zero _⟩
      rw [appended.requests]
      exact mem_updated.mpr ⟨q, member, .inl ⟨decide_eq_true key, rfl⟩⟩

/-- A release leaves the sandbox as it is, or begins its journal. -/
theorem release_runs (stored : Stored platform db scope.sandboxID q row)
    (desires : Desires platform db scope.sandboxID q row current intent)
    (released : intent.desired = .released) {answer : Except Error Unit}
    (runs : Runs (Aside scope)
      (AgentSandbox.release platform env scope.sandboxID intent.operation) db after answer) :
    Stays scope db after ∨
      ((Sound db → Sound after) ∧ intent.revision = 0 ∧ BegunIn after scope.sandboxID) := by
  unfold AgentSandbox.release at runs
  obtain ⟨begun, m, first, rest⟩ := runs_bind.mp runs
  have finish : Stays scope m after := by
    cases begun with
    | error e => exact (runs_done rest).2
    | ok revision =>
      obtain ⟨owned, m', second, last⟩ := runs_bind.mp rest
      exact (getOwned_stays second).trans (runs_done last).2
  suffices Stays scope db m ∨
      ((Sound db → Sound m) ∧ intent.revision = 0 ∧ BegunIn m scope.sandboxID) by
    rcases this with stays | ⟨sound, unjournalled, journal⟩
    · exact .inl (stays.trans finish)
    · exact .inr ⟨finish.sound ∘ sound, unjournalled, journal.stays finish⟩
  unfold AgentSandbox.beginRelease at first
  split at first
  · exact .inl (runs_done first).2
  · obtain ⟨binding, m1, read, first⟩ := runs_bind.mp first
    have before := getBinding_stays read
    cases binding with
    | error e => exact .inl (before.trans (runs_done first).2)
    | ok b =>
      obtain ⟨answer', m2, call, last⟩ := runs_bind.mp first
      have waits : Stays scope m2 m := by
        split at last <;> exact (runs_done last).2
      obtain ⟨m3, until_, ⟨revision, m4, -, committed, since⟩ | ⟨e, -, since⟩⟩ := runs_call call
      · have reached := before.trans until_
        rcases beginOperation_release (reached.untouched.stored stored)
            (reached.untouched.desires desires) released committed with stays | ⟨first, journal⟩
        · exact .inl (reached.trans (stays.trans (since.trans waits)))
        · exact .inr ⟨fun sound => (since.trans waits).sound (commit_sound (reached.sound sound)
            committed), first, journal.stays (since.trans waits)⟩
      · exact .inl (before.trans (until_.trans (since.trans waits)))

end Provider

/-! ### What a pass observes -/

/-- An observation `RecordCompute` takes for the desired state. -/
def Acceptable (desired : DesiredCompute) (observed : ComputeObservation) : Prop :=
  validObservation observed = .ok () ∧ boundedString 255 observed.code = true ∧
    fitsDesired desired observed.state = true

instance (desired : DesiredCompute) (observed : ComputeObservation) :
    Decidable (Acceptable desired observed) := inferInstanceAs (Decidable (_ ∧ _ ∧ _))

/-- Only an accepted acquisition is observed as such. -/
theorem failure_plain (desired : DesiredCompute) (e : Error) :
    Acceptable desired (App.Compute.failure e) ∧
      (App.Compute.failure e).code ≠ "ACQUIRE_ACCEPTED" := by
  unfold App.Compute.failure
  cases desired <;> (repeat' split) <;> decide +kernel

theorem reported_plain (intent : ComputeIntent) (status : Status) :
    Acceptable .running (reported intent status) ∧
      (reported intent status).code ≠ "ACQUIRE_ACCEPTED" := by
  unfold reported
  dsimp only
  split
  · decide +kernel
  · cases status.state
    case ready =>
      dsimp only
      split
      next verified =>
        have code : observationCode "COMPUTE_READY" = true := by decide +kernel
        have bounded : boundedString 255 "COMPUTE_READY" = true := by decide +kernel
        refine ⟨⟨?_, bounded, rfl⟩, (by decide : "COMPUTE_READY" ≠ "ACQUIRE_ACCEPTED")⟩
        simp [validObservation, observation, observable, code, verified]
      next => decide +kernel
    all_goals
      dsimp only
      decide +kernel

theorem acquired_acceptable (r : AcquireRequest) (answer : Except Error Handle) :
    Acceptable .running (App.Compute.acquired r answer) := by
  unfold App.Compute.acquired
  split
  · exact (failure_plain _ _).1
  · split <;> decide +kernel

theorem accepted_plain (answer : Except Error Status) :
    Acceptable .released (App.Compute.accepted answer) ∧
      (App.Compute.accepted answer).code ≠ "ACQUIRE_ACCEPTED" := by
  unfold App.Compute.accepted
  split
  · decide +kernel
  · split
    · decide +kernel
    · exact failure_plain _ _

/-- The provider call of the pass wrote to its own sandbox: it bound the reference or
began the journal. -/
def Progressed (db : Db) (intent : ComputeIntent) : Prop :=
  (intent.desired = .running ∧ intent.binding.providerReference = none ∧
      BoundIn db intent.binding.request.scope.sandboxID) ∨
    (intent.desired = .released ∧ intent.revision = 0 ∧
      BegunIn db intent.binding.request.scope.sandboxID)

theorem Progressed.stays {db after : Db} (progressed : Progressed db intent)
    (stays : Stays intent.binding.request.scope db after) : Progressed after intent :=
  progressed.imp (fun ⟨desired, unbound, bound⟩ => ⟨desired, unbound, bound.stays stays⟩)
    fun ⟨desired, first, begun⟩ => ⟨desired, first, begun.stays stays⟩

/-- An authority that answers without writing. -/
def authority (verdict : Scope → Except Error Unit) : ComputeAuthority Service :=
  ⟨fun scope => pure (verdict scope)⟩

section Observed
variable {platform : Platform} {answers : AgentSandbox.Answers} {db after : Db}
  {observed : ComputeObservation}

/-- What the observation of a pass is for running compute. -/
theorem running_runs
    (stored : Stored platform db intent.binding.request.scope.sandboxID q row)
    (reference : row.providerReference = intent.binding.providerReference)
    (desired : intent.desired = .running)
    (runs : Runs (Aside intent.binding.request.scope)
      (running (provider platform answers) intent) db after observed) :
    Acceptable .running observed ∧
      ((Stays intent.binding.request.scope db after ∧ observed.code ≠ "ACQUIRE_ACCEPTED") ∨
        ((Sound db → Sound after) ∧ Progressed after intent)) := by
  unfold running at runs
  obtain ⟨status, m, first, rest⟩ := runs_bind.mp runs
  have before : Stays intent.binding.request.scope db m := get_stays first
  have quiet : ∀ {observed'}, Runs (Aside intent.binding.request.scope)
      (pure observed' : Service ComputeObservation) m after observed →
      Acceptable .running observed' ∧ observed'.code ≠ "ACQUIRE_ACCEPTED" →
      Acceptable .running observed ∧
        ((Stays intent.binding.request.scope db after ∧ observed.code ≠ "ACQUIRE_ACCEPTED") ∨
          ((Sound db → Sound after) ∧ Progressed after intent)) := by
    rintro observed' last ⟨acceptable, other⟩
    obtain ⟨rfl, waits⟩ := runs_done last
    exact ⟨acceptable, .inl ⟨before.trans waits, other⟩⟩
  cases status with
  | ok status => exact quiet rest (reported_plain _ _)
  | error e =>
    dsimp only at rest
    split at rest
    · exact quiet rest (failure_plain _ _)
    · split at rest
      · exact quiet rest (by decide +kernel)
      · split at rest
        · exact quiet rest (by decide +kernel)
        next bound _ =>
          obtain ⟨answer, m', call, last⟩ := runs_bind.mp rest
          obtain ⟨rfl, waits⟩ := runs_done last
          have unbound : intent.binding.providerReference = none := not_not.mp bound
          refine ⟨acquired_acceptable _ _, ?_⟩
          rcases acquire_runs (before.untouched.stored stored) (reference.trans unbound) call with
            ⟨stays, e, rfl⟩ | ⟨sound, saved, -⟩
          · exact .inl ⟨before.trans (stays.trans waits), (failure_plain .running e).2⟩
          · exact .inr ⟨waits.sound ∘ sound ∘ before.sound,
              .inl ⟨desired, unbound, saved.stays waits⟩⟩

/-- What the observation of a pass is for compute to be released. -/
theorem released_runs (stored : Stored platform db intent.binding.request.scope.sandboxID q row)
    (desires : Desires platform db intent.binding.request.scope.sandboxID q row current intent)
    (released : intent.desired = .released) (runs : Runs (Aside intent.binding.request.scope)
      (release (provider platform answers) intent) db after observed) :
    Acceptable .released observed ∧
      ((∃ answer, observed = App.Compute.accepted answer) ∨ ∃ e, observed = App.Compute.failure e) ∧
      (Stays intent.binding.request.scope db after ∨
        ((Sound db → Sound after) ∧ Progressed after intent)) := by
  unfold release at runs
  obtain ⟨answer, m, first, rest⟩ := runs_bind.mp runs
  have moved := release_runs stored desires released first
  suffices Acceptable .released observed ∧
      ((∃ answer, observed = App.Compute.accepted answer) ∨ ∃ e, observed = App.Compute.failure e) ∧
      Stays intent.binding.request.scope m after by
    obtain ⟨acceptable, shape, later⟩ := this
    refine ⟨acceptable, shape, ?_⟩
    rcases moved with stays | ⟨sound, first, begun⟩
    · exact .inl (stays.trans later)
    · exact .inr ⟨later.sound ∘ sound, .inr ⟨released, first, begun.stays later⟩⟩
  cases answer with
  | error e =>
    obtain ⟨rfl, waits⟩ := runs_done rest
    exact ⟨(failure_plain _ e).1, .inr ⟨e, rfl⟩, waits⟩
  | ok u =>
    obtain ⟨status, m', second, last⟩ := runs_bind.mp rest
    obtain ⟨rfl, waits⟩ := runs_done last
    exact ⟨(accepted_plain status).1, .inl ⟨status, rfl⟩,
      (get_stays second).trans waits⟩

end Observed

/-! ### The guarantee -/

/-- The deadline of the Execution the sandbox runs for has passed. -/
def Expired (db : Db) (intent : ComputeIntent) (now : Time) : Prop :=
  intent.desired = .running ∧ intent.current = true ∧
    ∃ e ∈ db .executions, e.id = intent.binding.request.scope.executionID ∧ e.deadline ≤ now

section Compared
variable {platform : Platform} {db later : Db} {now then_ : Time} {id : ID}

/-- A fence that was found is found again, lost only by the deadline. -/
theorem fenced_again {r : AcquireRequest} (fence : Fenced now db r known)
    (rows : scopeRows later r.scope = scopeRows db r.scope) (passed : now ≤ then_) :
    Fenced then_ later r known ∨ (known = true ∧ Fenced then_ later r false ∧
      ∃ e ∈ later .executions, e.id = r.scope.executionID ∧ e.deadline ≤ then_) := by
  obtain ⟨s, e, a, found, fence⟩ := fence
  have found' := rows.trans found
  by_cases due : then_ < e.deadline
  · have before : now < e.deadline := lt_of_le_of_lt passed due
    have same : sandboxFence then_ r s e a = sandboxFence now r s e a := by
      simp [sandboxFence, due, before]
    exact .inl ⟨s, e, a, found', same ▸ fence⟩
  · have fails : (sandboxFence then_ r s e a).Fails := by simp [sandboxFence, due]
    obtain ⟨-, ⟨execution, key, -⟩, -⟩ := scopeRows_ok found'
    cases known with
    | false => exact .inl ⟨s, e, a, found', .inr ⟨rfl, fails⟩⟩
    | true =>
      exact .inr ⟨rfl, ⟨s, e, a, found', .inr ⟨rfl, fails⟩⟩, e, execution, key,
        le_of_not_gt due⟩

/-- A derived intent with another answer of the fence. -/
theorem desires_fence (desires : Desires platform db id q row current intent) :
    Desires platform db id q row known { intent with current := known } := by
  cases desires with
  | running unjournalled clean => exact .running unjournalled clean
  | cleanup unjournalled found digest => exact .cleanup unjournalled found digest
  | journal journalled found release => exact .journal journalled found release

/-- An intent is found again by a sandbox that was left alone, up to its fence. -/
theorem loaded_again (loaded : ComputeLoaded platform now db id q row intent)
    (stays : Stays intent.binding.request.scope db later) (passed : now ≤ then_) :
    ∃ known, ComputeLoaded platform then_ later id q row { intent with current := known } ∧
      (intent.desired = .running → known ≠ intent.current → Expired later intent then_) := by
  have scope := loaded.scope
  have request : intent.binding.request = q.canonicalRequest := by rw [loaded.binding]
  have untouched : Untouched id db later := scope ▸ stays.untouched
  have found : ∀ known, Fenced then_ later q.canonicalRequest known →
      ComputeLoaded platform then_ later id q row { intent with current := known } :=
    fun known fence => ⟨untouched.stored loaded.stored, fence,
      desires_fence (untouched.desires loaded.desired)⟩
  have rows := stays.rows
  rw [request] at rows
  rcases fenced_again loaded.fence rows passed with fence | ⟨held, fence, expired⟩
  · exact ⟨intent.current, found _ fence, fun _ changed => absurd rfl changed⟩
  · exact ⟨false, found _ fence, fun running _ => ⟨running, held, request ▸ expired⟩⟩

end Compared

section Recorded
variable {platform : Platform} {db later : Db} {now : Time} {id : ID}
  {observed : ComputeObservation} {clock : Clock} {ids : RecoveryIDs}

/-- The observation a pass makes: it fits what is desired, a fenced pass observes the
fence, and a release is authorized. -/
structure Observed (intent : ComputeIntent) (observed : ComputeObservation) : Prop where
  acceptable : Acceptable intent.desired observed
  fenced : intent.desired = .running → intent.current = false →
    observed = recovery "FENCED_COMPUTE"
  authorized : intent.desired = .released → intent.releaseAuthorized = true

/-- The comparisons of `RecordCompute` succeed on an intent that is found again. -/
theorem comparisons_succeed (seen : Observed intent observed)
    (same : intent.desired = .running → known = intent.current) :
    sameIntent { intent with current := known } intent = true ∧
      mayRecord { intent with current := known } intent observed = true := by
  cases desired : intent.desired with
  | released =>
    refine ⟨by simp [sameIntent, desired], ?_⟩
    simp [mayRecord, seen.authorized desired]
  | running =>
    obtain rfl := same desired
    refine ⟨by simp [sameIntent, desired], ?_⟩
    cases current : intent.current with
    | true => simp [mayRecord, current]
    | false => simp [mayRecord, current, seen.fenced desired current, recovery,
        observation]

/-- A pass whose provider wrote to the sandbox is not recorded. -/
theorem Progressed.unrecorded (progressed : Progressed later intent) (sound : Sound later)
    {after : Db} : (rules clock.transaction).commit Fault.error
      (recordCompute platform clock ids intent observed) later ≠ .ok ((), after) := by
  intro committed
  obtain ⟨q, row, found, _, recorded⟩ := recordCompute_effects (Rules.commit_ok.mp committed).1
  obtain ⟨-, -, revision, -, -, -, reference⟩ := sameIntent_ok recorded.unchanged
  obtain ⟨⟨request, key⟩, binding, key'⟩ := recorded.loaded.stored.mem
  rcases progressed with ⟨-, unbound, b, member, owner, bound⟩ | ⟨-, first, p, member, owner, begun⟩
  · obtain rfl := sound.binding_eq member binding (owner.trans key'.symm)
    rw [recorded.loaded.binding, unbound] at reference
    exact bound reference
  · obtain rfl := sound.request_eq member request (owner.trans key.symm)
    rw [recorded.loaded.version.2, first] at revision
    exact begun revision

end Recorded

/-- A pass leaves its sandbox alone or its provider made progress, and its
observation is one `RecordCompute` takes. -/
theorem observe_runs {platform : Platform} {answers : AgentSandbox.Answers}
    {verdict : Scope → Except Error Unit} {db later : Db} {now : Time} {id : ID}
    {observed : ComputeObservation} (loaded : ComputeLoaded platform now db id q row intent)
    (runs : Runs (Aside intent.binding.request.scope) (observe
      (provider platform answers) (authority verdict) intent) db later (.ok observed)) :
    Observed intent observed ∧
      (observed.code = "ACQUIRE_ACCEPTED" → Progressed later intent) ∧
      (intent.desired = .released → (∃ answer, observed = App.Compute.accepted answer) ∨
        ∃ e, observed = App.Compute.failure e) ∧
      (Stays intent.binding.request.scope db later ∨
        ((Sound db → Sound later) ∧ Progressed later intent)) := by
  have scope := loaded.scope
  have stored := loaded.stored
  have desires := loaded.desired
  rw [← scope] at stored desires
  have reference : row.providerReference = intent.binding.providerReference := by
    rw [loaded.binding]
  unfold observe at runs
  split at runs
  next desired =>
    have unreleased : intent.desired ≠ .released := by
      rw [desired]
      decide
    split at runs
    next fenced =>
      obtain ⟨same, waits⟩ := runs_done runs
      cases same
      refine ⟨⟨?_, fun _ _ => rfl, fun released => (unreleased released).elim⟩, nofun,
        fun released => (unreleased released).elim, .inl waits⟩
      rw [desired]
      decide +kernel
    next held =>
      obtain ⟨answer, m, first, rest⟩ := runs_bind.mp runs
      have before := (runs_done first).2
      cases answer with
      | error e => cases (runs_done rest).1
      | ok u =>
        obtain ⟨seen, m', second, last⟩ := runs_bind.mp rest
        obtain ⟨same, ends⟩ := runs_done last
        cases same
        obtain ⟨acceptable, moved⟩ :=
          running_runs (before.untouched.stored stored) reference desired second
        refine ⟨⟨desired ▸ acceptable, fun _ fenced => (held fenced).elim,
          fun released => (unreleased released).elim⟩, ?_, fun released =>
          (unreleased released).elim, ?_⟩
        · intro accepted
          rcases moved with ⟨-, other⟩ | ⟨-, progressed⟩
          · exact absurd accepted other
          · exact progressed.stays ends
        · rcases moved with ⟨stays, -⟩ | ⟨sound, progressed⟩
          · exact .inl (before.trans (stays.trans ends))
          · exact .inr ⟨ends.sound ∘ sound ∘ before.sound, progressed.stays ends⟩
  next desired =>
    split at runs
    · cases (runs_done runs).1
    next authorized =>
      obtain ⟨seen, m, first, last⟩ := runs_bind.mp runs
      obtain ⟨same, ends⟩ := runs_done last
      cases same
      obtain ⟨acceptable, shape, moved⟩ := released_runs stored desires desired first
      have unaccepted : observed.code ≠ "ACQUIRE_ACCEPTED" := by
        rcases shape with ⟨answer, rfl⟩ | ⟨e, rfl⟩
        · exact (accepted_plain answer).2
        · exact (failure_plain .running e).2
      have unfenced : intent.desired ≠ .running := by
        rw [desired]
        decide
      refine ⟨⟨desired ▸ acceptable, fun running => (unfenced running).elim,
        fun _ => eq_true_of_ne_false authorized⟩, fun accepted => absurd accepted unaccepted,
        fun _ => shape, ?_⟩
      rcases moved with stays | ⟨sound, progressed⟩
      · exact .inl (stays.trans ends)
      · exact .inr ⟨ends.sound ∘ sound, progressed.stays ends⟩

/-- A constraint of the schema refused the observation. -/
def RefusedBySchema (platform : Platform) (clock : Clock) (ids : RecoveryIDs)
    (intent : ComputeIntent) (observed : ComputeObservation) (db : Db) : Prop :=
  ∃ e, (rules clock.transaction).commit Fault.error
    (recordCompute platform clock ids intent observed) db = .error e ∧ e.code ≠ none

theorem bindingError_conflict {e : Error} (translated : bindingError e = errConflict)
    (other : NotConflict e) : e.code ≠ none := by
  unfold bindingError at translated
  split at translated
  next stable found =>
    have raised := List.find?_some found
    rw [translated] at raised
    exact absurd (other.symm.trans raised) (by decide)
  next =>
    split at translated
    · exact absurd translated (by decide)
    · split at translated
      next code =>
        intro missing
        simp [missing] at code
      · exact absurd translated (by decide)

/-- Reconciliation conflicts with itself only by progress. In a pass during which only
its own provider writes to the sandbox, `RecordCompute` reports a conflict only if the
provider bound the reference or began the journal, the deadline of the Execution has
passed, or the schema refused the write. An accepted acquisition is such progress, and
no progress is recorded by the pass that made it. Every other observation that calls
for no recovery is recorded: an accepted release as RELEASING or RELEASED. -/
theorem reconciliation_conflicts_by_progress (platform : Platform) (answers : AgentSandbox.Answers)
    (verdict : Scope → Except Error Unit) {db later : Db} (sound : Sound db) {now : Time} {id : ID}
    {intent : ComputeIntent} (loads : LoadsCompute platform now db id intent)
    {observed : ComputeObservation}
    (runs : Runs (Aside intent.binding.request.scope) (observe
      (provider platform answers) (authority verdict) intent) db later (.ok observed))
    {clock : Clock} (passed : now ≤ clock.transaction) (ids : RecoveryIDs) :
    (SandboxBindings.transaction clock.transaction
        (recordCompute platform clock ids intent observed) later = .error errConflict →
      Progressed later intent ∨ Expired later intent clock.transaction ∨
        RefusedBySchema platform clock ids intent observed later) ∧
    (observed.code = "ACQUIRE_ACCEPTED" → Progressed later intent) ∧
    (Progressed later intent → ∀ after, (rules clock.transaction).commit Fault.error
      (recordCompute platform clock ids intent observed) later ≠ .ok ((), after)) ∧
    (¬ Progressed later intent → ¬ Expired later intent clock.transaction →
      observed.recoveryRequired = false → Recordable later id (clock.reading 0) →
      ∃ after, (rules clock.transaction).commit Fault.error
          (recordCompute platform clock ids intent observed) later = .ok ((), after) ∧
        ∃ b ∈ after .sandboxBindings, b.id = id ∧ b.state = observed.state) ∧
    (intent.desired = .released → observed.state = .releasing ∨ observed.state = .released ∨
      ∃ e, observed = App.Compute.failure e) := by
  obtain ⟨⟨q, row, loaded⟩, settled⟩ := loadsCompute_iff.mp loads
  have scope := loaded.scope
  obtain ⟨seen, accepted, shape, moved⟩ := observe_runs loaded runs
  refine ⟨fun conflict => ?_, accepted, fun progressed after => ?_, ?_, fun released => ?_⟩
  · rcases moved with stays | ⟨-, progressed⟩
    · obtain ⟨known, again, lost⟩ := loaded_again loaded stays passed
      by_cases same : intent.desired = .running → known = intent.current
      · obtain ⟨unchanged, permitted⟩ := comparisons_succeed seen same
        unfold SandboxBindings.transaction at conflict
        cases ran : (rules clock.transaction).commit Fault.error
            (recordCompute platform clock ids intent observed) later with
        | ok result => simp [ran, Except.mapError] at conflict
        | error e =>
          simp only [ran, Except.mapError, Except.error.injEq] at conflict
          have other := recordCompute_unconflicted (scope.symm ▸ again) unchanged permitted ran
          exact .inr (.inr ⟨e, ran, bindingError_conflict conflict other⟩)
      · obtain ⟨running, changed⟩ := Classical.not_imp.mp same
        exact .inr (.inl (lost running changed))
    · exact .inl progressed
  · have end_ : Sound later := by
      rcases moved with stays | ⟨kept, -⟩
      · exact stays.sound sound
      · exact kept sound
    exact progressed.unrecorded end_
  · intro idle due plain recordable
    rcases moved with stays | ⟨-, progressed⟩
    · obtain ⟨known, again, lost⟩ := loaded_again loaded stays passed
      have same : intent.desired = .running → known = intent.current := fun running =>
        Classical.byContradiction fun changed => due (lost running changed)
      obtain ⟨unchanged, permitted⟩ := comparisons_succeed seen same
      obtain ⟨valid, code, fits⟩ := seen.acceptable
      obtain ⟨after, committed, written⟩ := recordCompute_commits (stays.sound sound)
        (stays.settled settled) (scope.symm ▸ again) unchanged permitted valid code fits plain
        (scope.symm ▸ recordable)
      exact ⟨after, committed, _, written, again.stored.mem.2.2, rfl⟩
    · exact (idle progressed).elim
  · rcases shape released with ⟨answer, rfl⟩ | failed
    · unfold App.Compute.accepted
      split
      · exact .inl rfl
      · split
        · exact .inr (.inl rfl)
        · exact .inr (.inr ⟨_, rfl⟩)
    · exact .inr (.inr failed)

namespace Sample.Sandboxes

def blueprint : Blueprint :=
  { text := "blueprint", capabilityDigest := "capabilities", service := some false
    volumeClaimTemplates := 0, containers := 1, secure := true }

/-- The object the cluster creates for the reservation. -/
def object : Object :=
  { uid := "uid", acquireDigest := some digest, attempt := (ID.v7 4).text, operationRevision := none
    deleting := false, blueprint := "blueprint" }

def cluster : Environment :=
  { namespace_ := "sandboxes", capabilityDigest := "capabilities", network := none, now := 11
    reserveAt := 11
    reservation := { now := 11, handoffNow := 11, verifyLocalBinding := fun _ _ _ => none }
    getAt := 11, bindAt := 12, beginAt := 12, capabilities := .ok (), resolve := some blueprint
    get := .error .notFound, create := .ok object, getAgain := .error .other, delete := .ok ()
    inspect := fun _ _ => .error errUnavailable }

def answered : AgentSandbox.Answers := { acquire := cluster, get := cluster, release := cluster }

def reservedIntent : ComputeIntent := runningIntent (requestRow request) binding true

def reservedBinding : Binding := { request, providerReference := none }

/-- The reservation of the acquisition, which exists. -/
def replays : Transaction Binding := reserve platform 11 cluster.reservation request

def replayed : Db := leaving 11 replays reserved reservedRows

def saves : Transaction Unit :=
  bindReference platform 12 (ID.v7 5) (providerReference cluster (ID.v7 5) "uid")

def savedRows : Db := fun
  | .sandboxBindings =>
    [bindTo (providerReference cluster (ID.v7 5) "uid") 12 binding]
  | t => reservedRows t

def saved : Db := leaving 12 saves replayed savedRows

def readBinding : Transaction Binding := do
  let (b, _) ← readSandboxBinding platform (ID.v7 5)
  return b

def readBindingAnswered : Answered 11 readBinding reserved where
  store := reservedRows
  answer := reservedBinding
  answers := by decide +kernel

theorem readBinding_commits :
    (rules 11).commit Fault.error readBinding reserved =
      .ok (reservedBinding, leaving 11 readBinding reserved reservedRows) :=
  commits_of_answers (reaches_reserved .closed).sound readBindingAnswered.answers

def replaysAnswered : Answered 11 replays reserved where
  store := reservedRows
  answer := reservedBinding
  answers := by decide +kernel

theorem replays_commits :
    (rules 11).commit Fault.error replays reserved = .ok (reservedBinding, replayed) :=
  commits_of_answers (reaches_reserved .closed).sound replaysAnswered.answers

def savesAnswered : Answered 12 saves replayed where
  store := savedRows
  answer := ()
  answers := by decide +kernel

theorem saves_commits : (rules 12).commit Fault.error saves replayed = .ok ((), saved) :=
  commits_of_answers (commit_sound (reaches_reserved .closed).sound replays_commits)
    savesAnswered.answers

theorem reads_reserved {scope : Scope} : Runs (Aside scope)
    (getBinding platform cluster (ID.v7 5)) reserved reserved (.ok reservedBinding) := by
  have unchanged : leaving 11 readBinding reserved reservedRows = reserved := by
    obtain ⟨ran, -⟩ := Rules.commit_ok.mp readBinding_commits
    simp only [readBinding, Tx.run_bind, Tx.run_pure] at ran
    obtain ⟨⟨b, revision⟩, _, read, -, same⟩ := ran
    obtain ⟨rfl, -⟩ := run_readSandboxBinding.mp read
    exact same
  have committed := readBinding_commits
  rw [unchanged] at committed
  refine runs_perform.mpr ⟨reserved, .refl, .inl ⟨reservedBinding, reserved, rfl, ?_, .refl⟩⟩
  unfold SandboxBindings.transaction
  exact congrArg (Except.mapError bindingError) committed

theorem acquisition : ∃ handle, Runs (Aside request.scope)
    (acquire platform cluster request) reserved saved (.ok handle) ∧
      handle.sandboxID = request.scope.sandboxID ∧ handle.providerReference ≠ none := by
  have checked : AgentSandbox.checkAcquire platform cluster request = .ok blueprint := by
    decide +kernel
  have created : AgentSandbox.checkExisting cluster blueprint request reservedBinding =
      .ok (providerReference cluster (ID.v7 5) "uid") := by decide +kernel
  have first : Runs (Aside request.scope) (call 11 replays) reserved replayed
      (.ok reservedBinding) :=
    runs_perform.mpr ⟨reserved, .refl, .inl ⟨_, _, rfl,
      congrArg (Except.mapError bindingError) replays_commits, .refl⟩⟩
  have second : Runs (Aside request.scope) (call 12 saves) replayed saved
      (.ok ()) :=
    runs_perform.mpr ⟨replayed, .refl, .inl ⟨_, _, rfl,
      congrArg (Except.mapError bindingError) saves_commits, .refl⟩⟩
  refine ⟨{ sandboxID := ID.v7 5, providerKind := "kubernetes-agent-sandbox"
            providerReference := some (providerReference cluster (ID.v7 5) "uid")
            state := .provisioning, observedAt := 11 }, ?_, rfl, nofun⟩
  unfold acquire
  rw [checked]
  refine runs_bind.mpr ⟨_, _, first, ?_⟩
  dsimp only
  rw [created]
  exact runs_bind.mpr ⟨_, _, second, runs_pure.mpr ⟨rfl, .refl⟩⟩

/-- The pass over the reservation: the cluster knows no object, and one is created. -/
theorem acquires : Runs (Aside request.scope) (observe
    (provider platform answered) (authority fun _ => .ok ()) reservedIntent) reserved
    saved (.ok (observation .provisioning "ACQUIRE_ACCEPTED" false)) := by
  have missing : Runs (Aside request.scope) (AgentSandbox.get platform cluster (ID.v7 5))
      reserved reserved (.error errNotFound) := by
    refine runs_bind.mpr ⟨.error errNotFound, reserved, ?_, runs_pure.mpr ⟨rfl, .refl⟩⟩
    exact runs_bind.mpr ⟨_, reserved, reads_reserved,
      runs_pure.mpr ⟨by decide +kernel, .refl⟩⟩
  obtain ⟨handle, acquired, key, reference⟩ := acquisition
  refine runs_bind.mpr ⟨.ok (), reserved, runs_pure.mpr ⟨rfl, .refl⟩, ?_⟩
  refine runs_bind.mpr ⟨App.Compute.acquired request (.ok handle), saved, ?_, ?_⟩
  · refine runs_bind.mpr ⟨.error errNotFound, reserved, missing, ?_⟩
    exact runs_bind.mpr ⟨.ok handle, saved, acquired, runs_pure.mpr ⟨rfl, .refl⟩⟩
  · have accepted : App.Compute.acquired request (.ok handle) =
        observation .provisioning "ACQUIRE_ACCEPTED" false := by
      simp [App.Compute.acquired, key, reference]
    rw [accepted]
    exact runs_pure.mpr ⟨rfl, .refl⟩

end Sample.Sandboxes

section Conflict
open Sample.Sandboxes

theorem saved_conflicts : SandboxBindings.transaction 13
    (recordCompute platform (at_ 13) recoveryIDs reservedIntent
      (observation .provisioning "ACQUIRE_ACCEPTED" false)) saved =
      .error errConflict :=
  eq_error_of_failsWith (by decide +kernel)

/-- The observation of an accepted acquisition is rejected as a conflict. -/
theorem accepted_acquisition_conflicts :
    ¬ ∀ (answers : AgentSandbox.Answers) (verdict : Scope → Except Error Unit) (db later : Db)
      (now : Time) (id : ID) (intent : ComputeIntent) (observed : ComputeObservation)
      (clock : Clock) (ids : RecoveryIDs),
      Relation.ReflTransGen (LifecycleStep platform .closed) admitted db →
      LoadsCompute platform now db id intent →
      Runs (Aside intent.binding.request.scope) (observe
        (provider platform answers) (authority verdict) intent) db later
        (.ok observed) →
      now ≤ clock.transaction →
      SandboxBindings.transaction clock.transaction
        (recordCompute platform clock ids intent observed) later ≠ .error errConflict := by
  intro never
  have loads : LoadsCompute platform 11 reserved (ID.v7 5) reservedIntent :=
    loadsCompute_of_evaluates (reaches_reserved .closed).settled (by decide +kernel)
  exact never answered (fun _ => .ok ()) reserved saved 11 (ID.v7 5) reservedIntent _ (at_ 13)
    recoveryIDs (reaches_reserved .closed).run loads acquires (by decide) saved_conflicts

theorem reconciliation_conflicts_by_progress_after_acquisition :
    Progressed saved reservedIntent ∧ ∀ after, (rules 13).commit Fault.error
      (recordCompute platform (at_ 13) recoveryIDs reservedIntent
        (observation .provisioning "ACQUIRE_ACCEPTED" false)) saved ≠ .ok ((), after) := by
  have loads : LoadsCompute platform 11 reserved (ID.v7 5) reservedIntent :=
    loadsCompute_of_evaluates (reaches_reserved .closed).settled (by decide +kernel)
  obtain ⟨-, accepted, unrecorded, -, -⟩ := reconciliation_conflicts_by_progress platform answered
    (fun _ => .ok ()) (reaches_reserved .closed).sound loads acquires
    (by decide : 11 ≤ (at_ 13).transaction) recoveryIDs
  exact ⟨accepted rfl, unrecorded (accepted rfl)⟩

end Conflict

end ThinkPixelAR.Guarantees
