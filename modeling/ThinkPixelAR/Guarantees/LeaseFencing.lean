import ThinkPixelAR.Postgres.Keys
import ThinkPixelAR.Postgres.Store

/-!
Lease fencing of idempotency records. Any number of holders load a record, call
`TakeOwnership`, `Renew`, `Succeed` and `Fail` on the copy in their memory, with whatever
clocks they have, and pass the copy to `Update` with the fence they loaded. Nothing orders
these actions.

Three guards meet in the row: the domain methods decide on the copy, the `UPDATE` selects
the row only at the loaded fence and while it is IN_PROGRESS, and the trigger judges the
change against the clock of the database.
-/
namespace ThinkPixelAR.Postgres.IdempotencyRecords

open Relational
open Idempotency.Record.Call (method takeOwnership attempt)
open Idempotency (Record Scope errOwnership)

variable {now : Time} {old : Record} {id : ID}

/-! ### Holders -/

/-- A record in the memory of one holder: what was loaded and what was called since. -/
structure Holder where
  loaded : Record
  calls : List Idempotency.Record.Call

/-- The copy as the calls left it, refused ones included. -/
def Holder.copy (h : Holder) : Record :=
  Method.history method h.loaded h.calls

/-- The store and the copies its holders have. -/
structure Holders where
  db : Db
  copies : Nat → Option Holder

open Holders

inductive Action where
  | load (holder : Nat) (now : Time) (scope : Scope)
  | call (holder : Nat) (c : Idempotency.Record.Call)
  | update (holder : Nat) (now : Time)

def Action.method : Action → Method Holders Error Unit
  | .load holder now scope => do
    let s ← MonadState.get
    match withinTransaction now (IdempotencyRecords.get scope) s.db with
    | .ok (record, _) =>
      modify fun s => { s with copies := Function.update s.copies holder (some ⟨record, []⟩) }
    | .error e => throw e
  | .call holder c => do
    let s ← MonadState.get
    match s.copies holder with
    | some h =>
      modify fun s =>
        { s with
          copies := Function.update s.copies holder (some { h with calls := h.calls ++ [c] }) }
      match (c.method.call h.copy).1 with
      | .ok () => pure ()
      | .error e => throw e
    | none => throw errOwnership
  | .update holder now => do
    let s ← MonadState.get
    match s.copies holder with
    | some h =>
      match withinTransaction now (IdempotencyRecords.update h.copy h.loaded.ownerFence) s.db with
      | .ok ((), db) => modify fun s => { s with db := db }
      | .error e => throw e
    | none => throw (.new "idempotency record is required")

namespace Holders

/-- The stored record of an identifier. -/
def row (s : Holders) (id : ID) : Option Record :=
  (s.db .idempotencyRecords).find? (·.id = id)

def after (s : Holders) (actions : List Action) : Holders := Method.history Action.method s actions

theorem after_append (s : Holders) (first later : List Action) :
    s.after (first ++ later) = (s.after first).after later :=
  Method.history_append s first later

end Holders

/-! ### What an update writes -/

/-- One action on the row of a record: nothing, or an accepted `UPDATE` of the copy a
holder passed with the fence it had loaded. -/
inductive Moved (s : Holders) (a : Action) (old : Record) : Record → Prop
  | kept : Moved s a old old
  | written (holder : Nat) (now : Time) (h : Holder) (acts : a = .update holder now)
      (holds : s.copies holder = some h) (fence : old.ownerFence = h.loaded.ownerFence)
      (unfinished : old.state = .inProgress)
      (range : inRange .idempotencyRecords (assign (micros h.copy) old) = true)
      (accepted : enforceIdempotencyRecordMutation now old (assign (micros h.copy) old) = .ok ()) :
      Moved s a old (assign (micros h.copy) old)

/-- A committed update leaves every other record alone, and in the record it names it
assigns its columns under the three guards. -/
theorem update_commits {db after : Db} {value : Record} {fence : Nat}
    (committed : withinTransaction now (update value fence) db = .ok ((), after))
    (member : old ∈ db .idempotencyRecords) :
    old ∈ after .idempotencyRecords ∨
      (old.ownerFence = fence ∧ old.state = .inProgress ∧
        inRange .idempotencyRecords (assign (micros value) old) = true ∧
        enforceIdempotencyRecordMutation now old (assign (micros value) old) = .ok () ∧
        assign (micros value) old ∈ after .idempotencyRecords) := by
  have ran := withinTransaction_run committed
  have executed := run_affected.mp ran
  have rows := execute_update_rows executed
  have trigger := (Rules.execute_update.mp executed).1
  by_cases selected : (old.id = value.id ∧ old.ownerFence = fence) ∧ old.state = .inProgress
  · right
    have chosen : (decide (old.id = value.id) && decide (old.ownerFence = fence) &&
        decide (old.state = .inProgress)) = true := by simp [selected]
    have stored : assign (micros value) old ∈ after .idempotencyRecords := by
      rw [rows]
      exact mem_updated.mpr ⟨old, member, .inl ⟨chosen, rfl⟩⟩
    exact ⟨selected.1.2, selected.2, (execute_sound executed).range _ _ stored,
      trigger old member chosen, stored⟩
  · left
    rw [rows]
    refine mem_updated.mpr ⟨old, member, .inr ⟨?_, rfl⟩⟩
    simpa [and_assoc] using selected

variable {s : Holders} {new : Record}

/-- A row found by its key is a member of the table and has the key. -/
theorem Holders.row_member (stored : s.row id = some old) :
    old ∈ s.db .idempotencyRecords ∧ old.id = id := by
  have found := List.find?_some stored
  exact ⟨List.mem_of_find?_eq_some stored, of_decide_eq_true found⟩

theorem Holders.row_of_member (sound : Sound s.db) (member : old ∈ s.db .idempotencyRecords)
    (named : old.id = id) : s.row id = some old := by
  subst named
  exact find?_eq_of_only member (decide_eq_true rfl) fun _ other same =>
    sound.record_unique.eq other member rfl rfl (of_decide_eq_true same)

/-! ### One action -/

/-- The store after an action: as it was, or as a committed update left it. -/
theorem Action.store (a : Action) (s : Holders) :
    (a.method.after s).db = s.db ∨
      ∃ holder now h, a = .update holder now ∧ s.copies holder = some h ∧
        withinTransaction now (IdempotencyRecords.update h.copy h.loaded.ownerFence) s.db =
          .ok ((), (a.method.after s).db) := by
  cases a with
  | load holder now scope =>
    left
    simp only [Method.after, method, Method.call_get_bind]
    split <;> rfl
  | call holder c =>
    left
    simp only [Method.after, method, Method.call_get_bind]
    split
    · simp only [Method.call_modify_bind]
      split <;> rfl
    · rfl
  | update holder now =>
    simp only [Method.after, method, Method.call_get_bind]
    split
    · rename_i h held
      split
      · rename_i db committed
        exact .inr ⟨holder, now, h, rfl, held, committed⟩
      · exact .inl rfl
    · exact .inl rfl

theorem Action.keeps_sound (a : Action) (sound : Sound s.db) : Sound (a.method.after s).db := by
  rcases a.store s with same | ⟨_, _, _, _, _, committed⟩
  · rw [same]
    exact sound
  · exact run_sound sound (withinTransaction_run committed)

theorem Action.moves (a : Action) (sound : Sound s.db) (stored : s.row id = some old) :
    ∃ new, (a.method.after s).row id = some new ∧ Moved s a old new := by
  obtain ⟨member, named⟩ := row_member stored
  have still := a.keeps_sound sound
  rcases a.store s with same | ⟨holder, now, h, acts, holds, committed⟩
  · refine ⟨old, ?_, .kept⟩
    rw [row, same]
    exact stored
  · rcases update_commits committed member with kept | ⟨fence, unfinished, range, accepted, written⟩
    · exact ⟨old, row_of_member still kept named, .kept⟩
    · exact ⟨_, row_of_member still written named,
        .written holder now h acts holds fence unfinished range accepted⟩

/-- The row of a stored record over a whole run. -/
theorem Holders.row_after (sound : Sound s.db) (stored : s.row id = some old)
    (actions : List Action) :
    Sound (s.after actions).db ∧ ∃ new, (s.after actions).row id = some new := by
  have step : ∀ (t : Holders) (a : Action), (Sound t.db ∧ ∃ new, t.row id = some new) → True →
      Sound (a.method.after t).db ∧ ∃ new, (a.method.after t).row id = some new := by
    intro t a before _
    obtain ⟨still, found, present⟩ := before
    obtain ⟨new, after, -⟩ := a.moves still present
    exact ⟨a.keeps_sound still, new, after⟩
  exact (Method.along_true s actions).invariant step ⟨sound, old, stored⟩

/-- Run rule for one row: a relation that every `Moved` step respects holds between the
row at the start and the row at the end. -/
theorem Holders.row_relates {R : Record → Record → Prop} (refl : ∀ r, R r r)
    (trans : ∀ {a b c}, R a b → R b c → R a c)
    (step : ∀ {s a old new}, Moved s a old new → R old new) (sound : Sound s.db)
    (stored : s.row id = some old) (actions : List Action)
    (later : (s.after actions).row id = some new) : R old new := by
  induction actions generalizing s old with
  | nil =>
    have same : s.row id = some new := later
    rw [stored] at same
    cases same
    exact refl new
  | cons a rest ih =>
    obtain ⟨middle, present, moved⟩ := a.moves sound stored
    exact trans (step moved) (ih (a.keeps_sound sound) present later)

/-! ### Takeovers -/

/-- `TakeOwnership` succeeded on the copy since it was loaded. -/
def Holder.TookOver (h : Holder) : Prop :=
  ∃ before ownerID expectedFence leaseExpiresAt now later,
    h.calls = before ++
      takeOwnership ownerID expectedFence leaseExpiresAt now :: later ∧
    ((takeOwnership ownerID expectedFence leaseExpiresAt now).method.call
      (Method.history method h.loaded before)).1 = .ok ()

/-- Only an accepted takeover touches the fence of a copy. -/
theorem call_fence (c : Idempotency.Record.Call) (r : Record) :
    (c.method.after r).ownerFence = r.ownerFence ∨
      ∃ ownerID expectedFence leaseExpiresAt now,
        c = .takeOwnership ownerID expectedFence leaseExpiresAt now ∧
          (c.method.call r).1 = .ok () := by
  unfold Method.after
  rw [c.method_call]
  cases decided : c.attempt r with
  | error e => exact .inl rfl
  | ok t =>
    cases c with
    | takeOwnership ownerID expectedFence leaseExpiresAt now =>
      exact .inr ⟨ownerID, expectedFence, leaseExpiresAt, now, rfl, rfl⟩
    | renew ownerID fence leaseExpiresAt now =>
      simp only [attempt, Idempotency.Record.renew] at decided
      split at decided <;> cases decided
      exact .inl rfl
    | succeed response ownerID fence now =>
      simp only [attempt, Idempotency.Record.succeed] at decided
      obtain ⟨-, decided⟩ := unless_ok.mp decided
      split at decided <;> cases decided
      exact .inl rfl
    | fail failure ownerID fence now =>
      simp only [attempt, Idempotency.Record.fail] at decided
      obtain ⟨-, decided⟩ := unless_ok.mp decided
      split at decided <;> cases decided
      exact .inl rfl

/-- A copy whose fence differs from the loaded one was taken over. -/
theorem Holder.tookOver_of_fence {h : Holder} (differs : h.copy.ownerFence ≠ h.loaded.ownerFence) :
    h.TookOver := by
  obtain ⟨loaded, calls⟩ := h
  induction calls using List.reverseRecOn with
  | nil => exact absurd rfl differs
  | append_singleton before c ih =>
    simp only [copy, Method.history_append, Method.history_cons, Method.history_nil] at differs
    rcases call_fence c (Method.history method loaded before) with same | taken
    · rw [same] at differs
      obtain ⟨first, ownerID, fence, lease, now, rest, split, accepted⟩ := ih differs
      refine ⟨first, ownerID, fence, lease, now, rest ++ [c], ?_, accepted⟩
      simp only at split
      simp [split]
    · obtain ⟨ownerID, fence, lease, now, rfl, accepted⟩ := taken
      exact ⟨before, ownerID, fence, lease, now, [], rfl, accepted⟩

/-- The action commits a takeover of `old`: the copy was taken over at the fence of the
row, and by the clock of the database the lease of the row has expired. -/
def Takeover (s : Holders) (a : Action) (old new : Record) : Prop :=
  ∃ holder now h lease, a = .update holder now ∧ s.copies holder = some h ∧
    h.loaded.ownerFence = old.ownerFence ∧ h.TookOver ∧
    new.ownerFence = old.ownerFence + 1 ∧ old.leaseExpiresAt = some lease ∧ lease ≤ now

/-- What the trigger lets through. -/
theorem mutation_ok (accepted : enforceIdempotencyRecordMutation now old new = .ok ()) :
    (new.ownerFence = old.ownerFence ∨ new.ownerFence = old.ownerFence + 1) ∧
      (new.ownerFence = old.ownerFence + 1 → ∃ lease, old.leaseExpiresAt = some lease ∧
        lease ≤ now) := by
  simp only [enforceIdempotencyRecordMutation, except_seq_ok, refuse_ok] at accepted
  obtain ⟨-, -, near, -, expired⟩ := accepted
  refine ⟨by omega, fun raised => ?_⟩
  cases lease : old.leaseExpiresAt with
  | none => exact absurd ⟨raised, by simp [lease]⟩ expired
  | some l =>
    refine ⟨l, rfl, ?_⟩
    by_contra early
    exact expired ⟨raised, by simpa [lease] using early⟩

section Step
variable {s : Holders} {a : Action} {old new : Record}

theorem Moved.fence (moved : Moved s a old new) :
    new.ownerFence = old.ownerFence ∨ Takeover s a old new := by
  cases moved with
  | kept => exact .inl rfl
  | written holder now h acts holds fence _ _ accepted =>
    obtain ⟨near, expired⟩ := mutation_ok accepted
    refine near.imp_right fun raised => ?_
    obtain ⟨lease, leased, past⟩ := expired raised
    have copied : h.copy.ownerFence = old.ownerFence + 1 := raised
    exact ⟨holder, now, h, lease, acts, holds, fence.symm,
      Holder.tookOver_of_fence (by omega), raised, leased, past⟩

theorem Moved.fence_le (moved : Moved s a old new) : old.ownerFence ≤ new.ownerFence := by
  rcases moved.fence with same | ⟨_, _, _, _, _, _, _, _, raised, _⟩
  · exact same.ge
  · omega

/-- An update with any other fence than the row's leaves the row alone. -/
theorem Moved.stale (moved : Moved s a old new) {holder : Nat} {h : Holder}
    (acts : a = .update holder now) (holds : s.copies holder = some h)
    (older : h.loaded.ownerFence < old.ownerFence) : new = old := by
  cases moved with
  | kept => rfl
  | written other at_ h' acts' holds' fence =>
    rw [acts] at acts'
    cases acts'
    rw [holds] at holds'
    cases holds'
    omega

theorem Moved.final (moved : Moved s a old new) (finished : old.state ≠ .inProgress) :
    new = old := by
  cases moved with
  | kept => rfl
  | written _ _ _ _ _ _ unfinished => exact absurd unfinished finished

/-- The logical operation of a record: scope, digest, operation and resource. -/
def SameOperation (old new : Record) : Prop :=
  new.scope = old.scope ∧ new.requestDigest = old.requestDigest ∧
    new.operationID = old.operationID ∧ new.resourceID = old.resourceID

theorem Moved.same (moved : Moved s a old new) : SameOperation old new := by
  cases moved <;> exact ⟨rfl, rfl, rfl, rfl⟩

end Step

/-! ### Whole runs -/

/-- The step stores a completion of the record. -/
def completes (id : ID) (s t : Holders) : Bool :=
  (s.row id).any (·.state = .inProgress) && (t.row id).any (·.state ≠ .inProgress)

/-- What no interleaving of holders breaks, for the record stored under `id` as `row`. -/
structure Fenced (s : Holders) (id : ID) (row : Record) : Prop where
  /-- The record stays and remains the record of one logical operation. -/
  identity : ∀ actions, ∃ new, (s.after actions).row id = some new ∧ SameOperation row new
  /-- The fence grows by one, in a takeover after the lease, and never otherwise. -/
  fence : ∀ actions a old new, (s.after actions).row id = some old →
    (s.after (actions ++ [a])).row id = some new →
    new.ownerFence = old.ownerFence ∨ Takeover (s.after actions) a old new
  /-- After a takeover has committed, updates with an older fence write nothing. -/
  stale : ∀ actions a later holder now old taken h, (s.after actions).row id = some old →
    (s.after (actions ++ [a])).row id = some taken → Takeover (s.after actions) a old taken →
    (s.after (actions ++ a :: later)).copies holder = some h →
    h.loaded.ownerFence < taken.ownerFence →
    (s.after (actions ++ a :: later ++ [.update holder now])).row id =
      (s.after (actions ++ a :: later)).row id
  /-- A completed record never changes. -/
  final : ∀ actions later old, (s.after actions).row id = some old → old.state ≠ .inProgress →
    (s.after (actions ++ later)).row id = some old
  once : ∀ actions, Method.tally Action.method (completes id) s actions ≤ 1

section Runs
variable {s : Holders} {id : ID} {row : Record}

theorem Holders.after_singleton (s : Holders) (a : Action) : s.after [a] = a.method.after s := rfl

/-- Runs from a completed record leave it as it is. -/
theorem Holders.finished (sound : Sound s.db) (stored : s.row id = some old)
    (finished : old.state ≠ .inProgress) (later : List Action) :
    (s.after later).row id = some old := by
  obtain ⟨-, new, present⟩ := row_after sound stored later
  have same : old.state ≠ .inProgress → new = old :=
    row_relates (R := fun old new => old.state ≠ .inProgress → new = old)
      (fun _ _ => rfl)
      (fun first second open_ => by
        have same := first open_
        subst same
        exact second open_)
      (fun moved => moved.final) sound stored later present
  rw [present, same finished]

theorem completes_once (sound : Sound s.db) (stored : s.row id = some row)
    (actions : List Action) : Method.tally Action.method (completes id) s actions ≤ 1 := by
  refine Method.tally_le_one
    (P := fun t => Sound t.db ∧ ∃ r, t.row id = some r)
    (Q := fun t => Sound t.db ∧ ∃ r, t.row id = some r ∧ r.state ≠ .inProgress)
    ?_ ?_ ?_ ?_ ⟨sound, row, stored⟩ actions
  · rintro t a ⟨still, r, present⟩
    obtain ⟨new, after, -⟩ := a.moves still present
    exact ⟨a.keeps_sound still, new, after⟩
  · rintro t a ⟨still, r, present, finished⟩
    exact ⟨a.keeps_sound still, r, Holders.finished still present finished [a], finished⟩
  · rintro t a ⟨still, r, present⟩ completing
    obtain ⟨new, after, -⟩ := a.moves still present
    simp only [completes, after, Option.any_some, Bool.and_eq_true, decide_eq_true_eq] at completing
    exact ⟨a.keeps_sound still, new, after, completing.2⟩
  · rintro t a ⟨still, r, present, finished⟩
    simp [completes, present, finished]

/-- However holders load their copies of a record, call its methods and write the copies back,
and whatever clocks they read, the fence orders them: a holder that was superseded writes
nothing, and the record is completed at most once. -/
theorem lease_fencing (sound : Sound s.db) (stored : s.row id = some row) : Fenced s id row where
  identity actions := by
    obtain ⟨-, new, present⟩ := row_after sound stored actions
    refine ⟨new, present, ?_⟩
    exact row_relates (R := SameOperation) (fun _ => ⟨rfl, rfl, rfl, rfl⟩)
      (fun first second => ⟨second.1.trans first.1, second.2.1.trans first.2.1,
        second.2.2.1.trans first.2.2.1, second.2.2.2.trans first.2.2.2⟩)
      Moved.same sound stored actions present
  fence actions a old new before after := by
    obtain ⟨still, -⟩ := row_after sound stored actions
    obtain ⟨found, present, moved⟩ := a.moves still before
    rw [after_append, after_singleton, present] at after
    cases after
    exact moved.fence
  stale actions a later holder now old taken h _ after _ holds older := by
    have split : actions ++ a :: later = (actions ++ [a]) ++ later := by simp
    rw [split] at holds ⊢
    obtain ⟨still, -⟩ := row_after sound stored (actions ++ [a])
    obtain ⟨sound', current, present⟩ := row_after still after later
    -- the fence has not gone back since the takeover
    have grown : taken.ownerFence ≤ current.ownerFence :=
      row_relates (R := fun old new => old.ownerFence ≤ new.ownerFence)
        (fun _ => Nat.le_refl _) Nat.le_trans Moved.fence_le still after later present
    rw [← after_append] at sound' present
    obtain ⟨new, written, moved⟩ := (Action.update holder now).moves sound' present
    have same := moved.stale rfl holds (Nat.lt_of_lt_of_le older grown)
    rw [after_append _ _ [_], after_singleton, written, present, same]
  final actions later old before finished := by
    obtain ⟨still, -⟩ := row_after sound stored actions
    rw [after_append]
    exact Holders.finished still before finished later
  once actions := completes_once sound stored actions

end Runs

namespace Sample

def leased : Record where
  id := ID.v7 5
  operationID := ID.v7 6
  resourceID := none
  ownerID := ID.v7 1
  auditCorrelationID := ID.v7 8
  scope := ⟨⟨7⟩, "sessions.signal.v1", ⟨3⟩⟩
  normalizationVersion := "v1"
  requestDigest := ⟨6⟩
  state := .inProgress
  ownerFence := 1
  leaseExpiresAt := some 2000
  completedAt := none
  response := none
  failure := none
  createdAt := 1000
  updatedAt := 1000
  expiresAt := 9000

def holding : Holders where
  db
    | .idempotencyRecords => [leased]
    | _ => []
  copies _ := none

/-- Holder 1 takes the record over; holder 0, which loaded it before, completes too late. -/
def schedule : List Action :=
  [.load 0 1500 leased.scope, .load 1 1500 leased.scope,
    .call 1 (.takeOwnership (ID.v7 2) 1 4000 2000), .update 1 2000,
    .call 0 (.succeed ⟨200, [], "r"⟩ (ID.v7 1) 1 1900), .update 0 2100]

end Sample

theorem lease_fencing_sample :
    Sound Sample.holding.db ∧ Sample.holding.row (ID.v7 5) = some Sample.leased ∧
      Fenced Sample.holding (ID.v7 5) Sample.leased :=
  have sound : Sound Sample.holding.db := by decide +kernel
  ⟨sound, rfl, lease_fencing sound rfl⟩

/-- In this schedule the takeover commits and the late completion is refused. -/
example : ((Sample.holding.after Sample.schedule).row (ID.v7 5)).map
    (fun r => (r.ownerFence, r.state, r.leaseExpiresAt)) = some (2, .inProgress, some 4000) := by
  decide +kernel

end ThinkPixelAR.Postgres.IdempotencyRecords
