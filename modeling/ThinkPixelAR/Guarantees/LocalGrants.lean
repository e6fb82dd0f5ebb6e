import ThinkPixelAR.Adapters.LocalGrantLifecycle
import ThinkPixelAR.Guarantees.Attenuation
import ThinkPixelAR.Postgres.Evaluation
import ThinkPixelAR.Postgres.Keys

/-!
The life of local grants over any interleaving of admissions, status calls and the
deletion of expired replay records.

A stored grant leaves ACTIVE once; the trigger of its table sees to that for every
transaction. An admission either replays the record of its key or reserves the key and
stores a grant, and the record outlives the grant by a day. Deleting a record therefore
frees a key for another grant only when the first has expired, as long as all clocks agree.
-/
namespace ThinkPixelAR.Guarantees

open Authority LocalAuthority Relational Postgres
open Idempotency (Scope Record)
open IdempotencyRecords (deleteExpired reserve update assign micros)
open LocalAuthority (Authority admitGrant status)

variable {now : Time} {db after : Db} {g : App.Grant} {scope : Scope}

/-! ### Stored grants -/

/-- What a grant row may become: the snapshot stays, and a terminal row stays whole. -/
structure GrantKept (old new : LocalGrantRow) : Prop where
  id : new.id = old.id
  sessionID : new.sessionID = old.sessionID
  snapshot : new.snapshot = old.snapshot
  state : new.state = old.state ∨ new.state = .cancelled ∨ new.state = .expired
  terminal : old.state ≠ .active → new = old

theorem GrantKept.refl (row : LocalGrantRow) : GrantKept row row :=
  ⟨rfl, rfl, rfl, .inl rfl, fun _ => rfl⟩

theorem GrantKept.trans {a b c : LocalGrantRow} (first : GrantKept a b) (second : GrantKept b c) :
    GrantKept a c where
  id := second.id.trans first.id
  sessionID := second.sessionID.trans first.sessionID
  snapshot := second.snapshot.trans first.snapshot
  state := second.state.elim (fun same => same ▸ first.state) .inr
  terminal := fun ended => by
    obtain rfl := first.terminal ended
    exact second.terminal ended

/-- Every stored grant is still stored, as `GrantKept` allows. -/
def GrantsKept (db after : Db) : Prop :=
  Keeps GrantKept (db .localAuthorityGrants) (after .localAuthorityGrants)

theorem GrantsKept.refl (db : Db) : GrantsKept db db := Keeps.refl GrantKept.refl

theorem GrantsKept.trans {a b c : Db} (first : GrantsKept a b) (second : GrantsKept b c) :
    GrantsKept a c :=
  Keeps.trans (fun before later => GrantKept.trans before later) first second

section Admission
variable {json : GrantJson} {call : AdmitCall}

/-- The identity a call is replayed under. -/
def scopeOf (call : AdmitCall) : Option Scope :=
  call.caller.principalDigest.bind fun principal =>
    call.request.keyDigest.map fun key => admissionScope principal key

/-- A reserved record: in progress, and outliving the longest grant by a day. -/
structure Candidate (call : AdmitCall) (record : Record) : Prop where
  scope : scopeOf call = some record.scope
  state : record.state = .inProgress
  expires : record.expiresAt =
    call.now + (call.authority.config.maximumDuration + day)
  plain : record.leaseExpiresAt.isSome ∧ record.completedAt = none ∧ record.response = none ∧
    record.failure = none

variable {record : Record}

theorem candidate_ok (prepared : call.candidate json = .ok record) : Candidate call record := by
  unfold AdmitCall.candidate at prepared
  split at prepared
  · cases prepared
  · split at prepared
    · cases prepared
    · split at prepared
      · cases prepared
      · cases prepared
      · rename_i digest id principal key _ _ principalIs keyIs
        split at prepared
        · cases prepared
        · rename_i created
          obtain rfl := Except.ok.inj prepared
          unfold Record.create at created
          split at created
          · cases created
          · obtain rfl := Except.ok.inj created
            exact ⟨by simp [scopeOf, principalIs, keyIs], rfl, rfl, rfl, rfl, rfl, rfl⟩
      · cases prepared

theorem record_restore {restored : Record}
    (restores : record.restore = .ok restored) : restored = record := by
  unfold Record.restore at restores
  split at restores
  · exact (Except.ok.inj restores).symm
  · cases restores

/-- `Reserve` finds the record of the scope, or inserts one. -/
theorem reservation_effects {value : Record} {created : Bool}
    (plain : value.leaseExpiresAt.isSome ∧ value.completedAt = none ∧ value.response = none ∧
      value.failure = none)
    (success : (reserve value).run (rules now).execute db =
      .ok ((record, created), after)) :
    (created = false ∧ record ∈ db .idempotencyRecords ∧ record.scope = value.scope ∧
        after = db) ∨
      (created = true ∧ record = value ∧
        (∀ r ∈ db .idempotencyRecords, r.scope ≠ value.scope) ∧
        ∃ n, (rules now).execute (.insert .idempotencyRecords (micros value)) db =
          .ok (n, after)) := by
  simp only [reserve, Tx.run_bind, Tx.run_get] at success
  obtain ⟨_, _, ⟨rfl, rfl⟩, success⟩ := success
  split at success
  · simp only [IdempotencyRecords.get, Tx.run_bind, Tx.run_get, Tx.run_expect, Tx.run_lift,
      Tx.run_require, Tx.run_pure, Prod.mk.injEq] at success
    obtain ⟨existing, _, ⟨_, _, ⟨rfl, rfl⟩, row, _, ⟨found, rfl⟩, restores, rfl⟩, _, _, ⟨-, rfl⟩,
      ⟨rfl, rfl⟩, rfl⟩ := success
    obtain rfl := record_restore restores
    exact .inl ⟨rfl, List.mem_of_find?_eq_some found,
      by simpa using List.find?_some found, rfl⟩
  · rename_i absent
    simp only [Tx.run_bind, run_execWrapped, Tx.run_pure, Prod.mk.injEq] at success
    obtain ⟨_, _, ⟨n, inserted⟩, ⟨same, rfl⟩, rfl⟩ := success
    subst same
    have same : ({ record with
        leaseExpiresAt := some (record.leaseExpiresAt.getD 0)
        completedAt := none
        response := none
        failure := none } : Record) = record := by
      obtain ⟨lease, completed, response, failure⟩ := plain
      obtain ⟨at_, leaseIs⟩ := Option.isSome_iff_exists.mp lease
      cases record
      simp_all
    rw [same] at inserted
    refine .inr ⟨rfl, rfl, fun r member taken => absent ?_, n, inserted⟩
    exact List.any_eq_true.mpr ⟨r, member, decide_eq_true taken⟩

/-- A grant that `evaluate` returns is issued now and ends within the longest duration. -/
theorem evaluate_ok {encoding : Encoding} {a : Authority} {c : Caller}
    {r : Request} {s : Option Presented} {id : ID} {memory : Memory} {g : Grant}
    (evaluated : (evaluate encoding a c r s id now memory).1 = .ok g) :
    g.issuedAt = now ∧ now < g.expiresAt ∧
      (g.expiresAt : Int) ≤ now + a.config.maximumDuration := by
  unfold evaluate at evaluated
  split at evaluated
  · cases evaluated
  · split at evaluated
    · cases evaluated
    · split at evaluated
      · cases evaluated
      · obtain ⟨-, issued, -, -, -, expires⟩ := (issue_narrows rfl).2 g evaluated
        exact ⟨issued, (expiry_some expires).1, (expiry_some expires).2.1⟩

/-- The row that an admission adds for a grant. -/
def issuedRow (json : GrantJson) (g : App.Grant) : LocalGrantRow where
  id := g.id
  sessionID := g.sessionID
  snapshot := g
  snapshotDigest := json.digest g
  state := .active
  stateVersion := 0
  terminalAt := none

/-- What an issuance leaves: one more grant, and the record of its key, which replays it
and outlives it. -/
structure Issued (json : GrantJson) (call : AdmitCall) (g : App.Grant)
    (record : Record) (db after : Db) : Prop where
  scope : scopeOf call = some record.scope
  records : after .idempotencyRecords = db .idempotencyRecords ++ [record]
  grants : after .localAuthorityGrants = db .localAuthorityGrants ++ [issuedRow json g]
  replays : replayed json record = some g
  issued : g.issuedAt = call.now
  lasts : g.issuedAt < g.expiresAt
  outlives : g.expiresAt < record.expiresAt

/-- The record of a key once its grant is stored, with its encoding. -/
def completedRecord (candidate : Record) (payload : List UInt8) (id : ID) (at_ : Time) : Record :=
  { candidate with
    state := .succeeded
    response := some { httpStatus := 201, payload, reference := id.text }
    leaseExpiresAt := none
    updatedAt := at_
    completedAt := some at_ }

/-- An update that selects the last row by its key. -/
theorem update_last {α κ : Type} {rows : List α} {selects : α → Bool} {set : α → α} {a : α}
    {key : α → κ} (unique : UniqueOn (rows ++ [a]) (fun _ => true) key)
    (selected : selects a = true) (only : ∀ b, selects b = true → key b = key a) :
    updated selects set (rows ++ [a]) = rows ++ [set a] := by
  have others : updated selects set rows = rows := updated_eq_self fun b member => by
    cases chosen : selects b with
    | false => rfl
    | true => exact (unique.inserted member (only b chosen)).elim
  unfold updated at others ⊢
  rw [List.map_append, others]
  simp [selected]

theorem succeed_ok {done : Record} {payload : List UInt8} {id owner : ID} {fence : Nat}
    {at_ : Time} (succeeded : record.succeed
      { httpStatus := 201, payload, reference := id.text } owner fence at_ = .ok done) :
    done = completedRecord record payload id at_ := by
  obtain ⟨-, succeeded⟩ := unless_ok.mp succeeded
  split at succeeded
  · cases succeeded
  · exact (Except.ok.inj succeeded).symm

theorem issue_effects {mid : Db} {candidate : Record}
    (reserved : Candidate call candidate)
    (records : mid .idempotencyRecords = db .idempotencyRecords ++ [micros candidate])
    (grants : mid .localAuthorityGrants = db .localAuthorityGrants)
    (success : (call.issue json candidate).run (rules now).execute mid = .ok (g, after)) :
    ∃ record, Issued json call g record db after := by
  simp only [AdmitCall.issue, LocalGrants.add, update, Tx.run_bind, Tx.run_get,
    Tx.run_expect, Tx.run_lift, run_execWrapped, run_affected, Tx.run_pure] at success
  obtain ⟨_, _, ⟨rfl, rfl⟩, row, _, ⟨-, rfl⟩, session, _, ⟨-, rfl⟩, g, _, ⟨evaluated, rfl⟩,
    payload, _, ⟨encoded, rfl⟩, _, _, ⟨n, added⟩, done, stored, ⟨succeeded, rfl⟩, _, _, written,
    rfl, rfl⟩ := success
  obtain rfl := succeed_ok succeeded
  obtain ⟨issued, lasts, bounded⟩ := evaluate_ok evaluated
  have sameRecords : stored .idempotencyRecords =
      db .idempotencyRecords ++ [micros candidate] := by
    rw [execute_outside added rfl, records]
  have unique := (execute_sound added).record_unique
  rw [sameRecords] at unique
  have final := execute_update_rows written
  rw [sameRecords, update_last unique (by simp [completedRecord, micros, reserved.state])
    (fun b chosen => by simp only [Bool.and_eq_true, decide_eq_true_eq] at chosen
                        exact chosen.1.1)] at final
  refine ⟨micros (completedRecord candidate payload g.id call.now), reserved.scope, final, ?_, ?_,
    issued, (show g.issuedAt < g.expiresAt from issued ▸ lasts), ?_⟩
  · rw [execute_outside written rfl, execute_insert_rows added, grants]
    rfl
  · exact json.unmarshal_marshal (Option.filter_eq_some_iff.mp encoded).1
  · show g.expiresAt < timestamptz candidate.expiresAt
    rw [reserved.expires]
    calc g.expiresAt ≤ call.now + call.authority.config.maximumDuration := bounded
      _ < timestamptz (call.now + (call.authority.config.maximumDuration + day)) := by
        refine lt_timestamptz ?_
        rw [← Int.add_assoc]
        exact Int.add_le_add_left (by decide) _

/-- An admission replays the record of its key, or issues a grant under a free key. -/
inductive Admitted (json : GrantJson) (call : AdmitCall) (g : App.Grant) (db after : Db) : Prop
  | replay (record : Record) (member : record ∈ db .idempotencyRecords)
      (scope : scopeOf call = some record.scope) (holds : replayed json record = some g)
      (same : after = db)
  | issue (record : Record)
      (free : ∀ r ∈ db .idempotencyRecords, r.scope ≠ record.scope)
      (issued : Issued json call g record db after)

theorem transaction_admits
    (success : (call.transaction json).run (rules now).execute db = .ok (g, after)) :
    Admitted json call g db after := by
  simp only [AdmitCall.transaction, Tx.run_bind, Tx.run_lift, Tx.run_require] at success
  obtain ⟨candidate, _, ⟨prepared, rfl⟩, ⟨record, created⟩, mid, reserves, _, _, ⟨-, rfl⟩,
    success⟩ := success
  have reserved := candidate_ok prepared
  rcases reservation_effects reserved.plain reserves with
    ⟨rfl, member, scope, rfl⟩ | ⟨rfl, rfl, free, n, inserted⟩
  · simp only [Bool.false_eq_true, if_false, Tx.run_expect] at success
    exact .replay record member (scope ▸ reserved.scope) success.1 success.2
  · simp only [if_true] at success
    obtain ⟨final, issued⟩ := issue_effects reserved
      (execute_insert_rows inserted) (execute_outside inserted rfl) success
    refine .issue final (fun r member => ?_) issued
    have same : final.scope = record.scope :=
      Option.some.inj (issued.scope.symm.trans reserved.scope)
    exact same ▸ free r member

end Admission

/-! ### Status calls -/

section Status
variable {json : GrantJson} {c : Caller} {g : Grant} {cancel : Bool} {clock : Time}
  {answer : Status}

/-- What a status call relies on and reports: the snapshot is the presented grant, the
clock is not before its issuance, and the state is that of the row unless the row is
active and has expired or is being cancelled. -/
structure Reported (json : GrantJson) (g : Grant) (cancel : Bool) (now : Time) (db after : Db)
    (answer : Status) (row : LocalGrantRow) : Prop where
  member : row ∈ db .localAuthorityGrants
  id : row.id = g.id
  snapshot : row.snapshot = json.snapshot g
  issued : g.issuedAt ≤ now
  active : answer.state = .active → row.state = .active ∧ now < g.expiresAt ∧ cancel = false
  terminal : row.state ≠ .active → answer.state = row.state
  ended : answer.state ≠ .active →
    ∃ final ∈ after .localAuthorityGrants, final.id = g.id ∧ final.state = answer.state
  records : after .idempotencyRecords = db .idempotencyRecords
  grants : (after .localAuthorityGrants).map (fun r => (r.id, r.snapshot)) =
    (db .localAuthorityGrants).map (fun r => (r.id, r.snapshot))

theorem status_reports
    (success : (statusTransaction json c g cancel now).run (rules clock).execute db =
      .ok (answer, after)) : ∃ row, Reported json g cancel now db after answer row := by
  simp only [statusTransaction, Tx.run_bind, Tx.run_require, Tx.run_get, Tx.run_expect] at success
  obtain ⟨_, _, ⟨-, rfl⟩, _, _, ⟨-, rfl⟩, _, _, ⟨-, rfl⟩, _, _, ⟨rfl, rfl⟩, row, _, ⟨found, rfl⟩,
    _, _, ⟨⟨id, -, -, snapshot⟩, rfl⟩, _, _, ⟨-, rfl⟩, _, _, ⟨⟨issued, -⟩, rfl⟩, success⟩ := success
  have member := List.mem_of_find?_eq_some found
  refine ⟨row, ?_⟩
  split at success
  · rename_i active
    simp only [Tx.run_bind, Tx.run_require, Tx.run_onlyIf, Tx.run_pure, LocalGrants.transition,
      run_affected] at success
    obtain ⟨_, _, ⟨-, rfl⟩, _, _, outcome, rfl, rfl⟩ := success
    rcases outcome with ⟨ending, written⟩ | ⟨remains, rfl⟩
    · -- The row is expired or cancelled by this call.
      have rows := execute_update_rows written
      refine ⟨member, id, snapshot.symm, issued, fun same => (ending same).elim,
        fun ended => (ended active).elim, fun _ => ?_, execute_outside written rfl, ?_⟩
      · rw [rows]
        refine ⟨_, mem_updated.mpr ⟨row, member, .inl ⟨?_, rfl⟩⟩, id, rfl⟩
        simp [id, active]
      · rw [rows, updated, List.map_map]
        refine List.map_congr_left fun r _ => ?_
        simp only [Function.comp]
        split <;> rfl
    · -- The row stays active.
      rw [not_not] at remains
      refine ⟨member, id, snapshot.symm, issued, fun _ => ⟨active, ?_⟩,
        fun ended => (ended active).elim, fun ended => (ended remains).elim, rfl, rfl⟩
      split at remains
      · cases remains
      · rename_i unexpired
        split at remains
        · cases remains
        · rename_i uncancelled
          exact ⟨lt_of_not_ge unexpired, by simpa using uncancelled⟩
  · rename_i ended
    simp only [Tx.run_bind, Tx.run_require, Tx.run_pure] at success
    obtain ⟨_, _, ⟨-, rfl⟩, rfl, rfl⟩ := success
    exact ⟨member, id, snapshot.symm, issued, fun same => (ended same).elim, fun _ => rfl,
      fun _ => ⟨row, member, id, rfl⟩, rfl, rfl⟩

end Status

/-! ### Expired records -/

/-- `DeleteExpired` deletes records that have expired by its argument, and nothing else. -/
theorem deleteExpired_effects {before : Time} {limit n : Nat} {skip : ID → Bool} (sound : Sound db)
    (success : (deleteExpired before limit skip).run (rules now).execute db =
      .ok (n, after)) :
    (∀ r ∈ after .idempotencyRecords, r ∈ db .idempotencyRecords) ∧
      (∀ r ∈ db .idempotencyRecords, before < r.expiresAt → r ∈ after .idempotencyRecords) ∧
      after .localAuthorityGrants = db .localAuthorityGrants := by
  simp only [deleteExpired, Tx.run_bind, Tx.run_require, Tx.run_get,
    Tx.run_perform] at success
  obtain ⟨_, _, ⟨-, rfl⟩, _, _, ⟨rfl, rfl⟩, deleted⟩ := success
  have grants := execute_outside deleted (u := .localAuthorityGrants) rfl
  obtain ⟨-, rows, -, -⟩ := Rules.execute_delete.mp deleted
  refine ⟨fun r member => ?_, fun r member later => ?_, grants⟩
  · rw [rows, Function.update_self] at member
    exact (List.mem_filter.mp member).1
  rw [rows, Function.update_self]
  refine List.mem_filter.mpr ⟨member, ?_⟩
  rw [Bool.not_eq_true', List.contains_eq_mem, decide_eq_false_iff_not]
  intro chosen
  obtain ⟨other, expired, same⟩ := List.mem_map.mp chosen
  have listed := (List.mem_insertionSort _).mp (List.mem_of_mem_take expired)
  obtain ⟨present, condition⟩ := List.mem_filter.mp listed
  obtain rfl := sound.record_unique.eq present member rfl rfl same
  simp only [Bool.and_eq_true, decide_eq_true_eq] at condition
  exact absurd (condition.1.2.trans (timestamptz_le before)) (not_le.mpr later)

/-! ### Interleavings -/

/-- The store together with the grants issued so far, each with the key it was issued for. -/
structure Ledger where
  db : Db
  issued : List (Scope × App.Grant)

/-- A committed call; `other` is a transaction of the rest of the system. -/
inductive GrantCall where
  | admission (call : AdmitCall) (clock : Time)
  | status (caller : Caller) (grant : Grant) (cancel : Bool) (now clock : Time)
  | deleteExpired (before : Time) (limit : Nat) (skip : ID → Bool) (clock : Time)
  | other

/-- The reading of the application's clock that a call uses. -/
def GrantCall.instant : GrantCall → Option Time
  | .admission call _ => some call.now
  | .status _ _ _ now _ => some now
  | .deleteExpired before _ _ _ => some before
  | .other => none

/-- The records of admissions. -/
def admissionRecords (db : Db) : List Record :=
  (db .idempotencyRecords).filter fun r => r.scope.action = admitAction

/-- The grant that a call added to the store, if it added one. -/
def newlyIssued (db after : Db) (scope : Scope) (g : App.Grant) :
    List (Scope × App.Grant) :=
  if after .localAuthorityGrants = db .localAuthorityGrants then [] else [(scope, g)]

inductive GrantStep (json : GrantJson) : GrantCall → Ledger → Ledger → Prop
  | admission {s : Ledger} {call : AdmitCall} {clock : Time} {g : App.Grant} {after : Db}
      {scope : Scope} (named : scopeOf call = some scope)
      (committed : admitGrant json call clock s.db = .ok (g, after)) :
      GrantStep json (.admission call clock) s ⟨after, s.issued ++ newlyIssued s.db after scope g⟩
  | status {s : Ledger} {c : Caller} {g : Grant} {cancel : Bool} {now clock : Time}
      {answer : Status} {after : Db}
      (committed : status json c g cancel now clock s.db = .ok (answer, after)) :
      GrantStep json (.status c g cancel now clock) s ⟨after, s.issued⟩
  | deleteExpired {s : Ledger} {before clock : Time} {limit n : Nat} {skip : ID → Bool} {after : Db}
      (committed : withinTransaction clock (deleteExpired before limit skip)
        s.db = .ok (n, after)) :
      GrantStep json (.deleteExpired before limit skip clock) s ⟨after, s.issued⟩
  | other {s : Ledger} {after : Db} (sound : Sound after)
      (grants : after .localAuthorityGrants = s.db .localAuthorityGrants)
      (records : admissionRecords after = admissionRecords s.db) :
      GrantStep json .other s ⟨after, s.issued⟩

/-- Any interleaving of committed calls. -/
inductive GrantRun (json : GrantJson) (start : Ledger) : List GrantCall → Ledger → Prop
  | start : GrantRun json start [] start
  | next {calls : List GrantCall} {call : GrantCall} {s t : Ledger}
      (run : GrantRun json start calls s) (step : GrantStep json call s t) :
      GrantRun json start (calls ++ [call]) t

/-- A store without grants and without records of admissions. -/
structure NoGrants (s : Ledger) : Prop where
  sound : Sound s.db
  grants : s.db .localAuthorityGrants = []
  records : admissionRecords s.db = []
  issued : s.issued = []

theorem mapError_ok {α ε ε' : Type} {x : Except ε α} {f : ε → ε'} {a : α} :
    x.mapError f = .ok a ↔ x = .ok a := by
  cases x <;> simp [Except.mapError]

section Steps
variable {json : GrantJson} {call : GrantCall} {s t : Ledger}

theorem admit_admits {call : AdmitCall} {clock : Time}
    (committed : admitGrant json call clock db = .ok (g, after)) :
    Admitted json call g db after :=
  transaction_admits (withinTransaction_run (mapError_ok.mp committed))

variable {calls : List GrantCall}

theorem GrantStep.sound (before : Sound s.db) (step : GrantStep json call s t) : Sound t.db := by
  cases step with
  | admission _ committed | status committed =>
    exact run_sound before (withinTransaction_run (mapError_ok.mp committed))
  | deleteExpired committed => exact run_sound before (withinTransaction_run committed)
  | other sound _ _ => exact sound

theorem scopeOf_action {call : AdmitCall} (named : scopeOf call = some scope) :
    scope.action = admitAction := by
  simp only [scopeOf, Option.bind_eq_some_iff, Option.map_eq_some_iff] at named
  obtain ⟨principal, -, key, -, rfl⟩ := named
  rfl

theorem mem_admissionRecords {r : Record} :
    r ∈ admissionRecords db ↔ r ∈ db .idempotencyRecords ∧ r.scope.action = admitAction := by
  simp [admissionRecords]

theorem Reported.admissionRecords {g : Grant} {cancel : Bool} {answer : Status}
    {row : LocalGrantRow} (reported : Reported json g cancel now db after answer row) :
    admissionRecords after = admissionRecords db := by
  unfold Guarantees.admissionRecords
  rw [reported.records]

/-- Every stored grant was issued, and every record of an admission replays an issued grant
that it outlives. -/
structure GrantsRecorded (json : GrantJson) (s : Ledger) : Prop where
  sound : Sound s.db
  ledger : (s.db .localAuthorityGrants).map (fun r => (r.id, r.snapshot)) =
    s.issued.map (fun e => (e.2.id, e.2))
  records : ∀ r ∈ admissionRecords s.db,
    ∃ g, replayed json r = some g ∧ (r.scope, g) ∈ s.issued ∧ g.expiresAt < r.expiresAt

theorem newlyIssued_same :
    newlyIssued db db scope g = [] := if_pos rfl

theorem Issued.newly {call : AdmitCall} {record : Record}
    (issued : Issued json call g record db after) : newlyIssued db after scope g = [(scope, g)] :=
  if_neg fun same => by simp [issued.grants] at same

theorem Issued.mem_admissionRecords {call : AdmitCall} {record r : Record}
    (issued : Issued json call g record db after) :
    r ∈ admissionRecords after ↔ r ∈ admissionRecords db ∨ r = record := by
  have action := scopeOf_action issued.scope
  simp [admissionRecords, issued.records, List.filter_append, action]

/-- What a call does: it issues a grant, or at most deletes records that expired by its clock. -/
inductive GrantEffect (json : GrantJson) (call : GrantCall) (s t : Ledger) : Prop
  | fewer (issued : t.issued = s.issued)
      (grants : (t.db .localAuthorityGrants).map (fun r => (r.id, r.snapshot)) =
        (s.db .localAuthorityGrants).map (fun r => (r.id, r.snapshot)))
      (records : ∀ r ∈ admissionRecords t.db, r ∈ admissionRecords s.db)
      (kept : ∀ r ∈ admissionRecords s.db, (∀ at_, call.instant = some at_ → at_ < r.expiresAt) →
        r ∈ admissionRecords t.db)
  | issue {admission : AdmitCall} {g : App.Grant} {record : Record}
      (made : Issued json admission g record s.db t.db)
      (issued : t.issued = s.issued ++ [(record.scope, g)])

theorem GrantStep.effect (sound : Sound s.db) (step : GrantStep json call s t) :
    GrantEffect json call s t := by
  cases step with
  | admission named committed =>
    cases admit_admits committed with
    | replay record member scope holds same =>
      subst same
      refine .fewer ?_ rfl (fun _ member => member) fun _ member _ => member
      rw [newlyIssued_same, List.append_nil]
    | issue record free made =>
      obtain rfl := Option.some.inj (named.symm.trans made.scope)
      exact .issue made (by rw [made.newly])
  | status committed =>
    obtain ⟨row, reported⟩ := status_reports (withinTransaction_run (mapError_ok.mp committed))
    have same := reported.admissionRecords
    exact .fewer rfl reported.grants (fun _ member => same ▸ member) fun _ member _ => same ▸ member
  | deleteExpired committed =>
    obtain ⟨fewer, kept, grants⟩ := deleteExpired_effects sound (withinTransaction_run committed)
    refine .fewer rfl (congrArg _ grants) (fun r member => ?_) fun r member later => ?_
    all_goals obtain ⟨present, action⟩ := mem_admissionRecords.mp member
    · exact mem_admissionRecords.mpr ⟨fewer r present, action⟩
    · exact mem_admissionRecords.mpr ⟨kept r present (later _ rfl), action⟩
  | other _ grants same =>
    exact .fewer rfl (congrArg _ grants) (fun _ member => same ▸ member)
      fun _ member _ => same ▸ member

theorem GrantStep.recorded (recorded : GrantsRecorded json s) (step : GrantStep json call s t) :
    GrantsRecorded json t := by
  have sound := step.sound recorded.sound
  cases step.effect recorded.sound with
  | fewer issued grants records =>
    exact ⟨sound, issued ▸ grants.trans recorded.ledger,
      fun r member => issued ▸ recorded.records r (records r member)⟩
  | issue made issued =>
    refine ⟨sound, ?_, fun r member => ?_⟩
    · rw [made.grants, issued, List.map_append, List.map_append, recorded.ledger]
      rfl
    · rw [issued]
      rcases made.mem_admissionRecords.mp member with old | rfl
      · obtain ⟨g, holds, listed, outlives⟩ := recorded.records r old
        exact ⟨g, holds, List.mem_append_left _ listed, outlives⟩
      · exact ⟨_, made.replays, List.mem_append_right _ (by simp), made.outlives⟩

theorem NoGrants.recorded (none : NoGrants s) : GrantsRecorded json s :=
  ⟨none.sound, by rw [none.grants, none.issued]; rfl, by simp [none.records]⟩

theorem GrantRun.recorded (recorded : GrantsRecorded json s) (run : GrantRun json s calls t) :
    GrantsRecorded json t := by
  induction run with
  | start => exact recorded
  | next _ step before => exact step.recorded before

/-! ### One live grant for a key -/

/-- A grant that is live at `now` is still replayed by the record of its key. -/
def LiveHeld (json : GrantJson) (now : Time) (s : Ledger) : Prop :=
  ∀ e ∈ s.issued, now < e.2.expiresAt →
    ∃ r ∈ admissionRecords s.db, r.scope = e.1 ∧ replayed json r = some e.2

theorem GrantsRecorded.issued_nodup (recorded : GrantsRecorded json s) : s.issued.Nodup := by
  have unique : ((s.db .localAuthorityGrants).map (·.id)).Nodup := by
    simpa [UniqueOn] using recorded.sound.grant_unique
  have ids : (s.db .localAuthorityGrants).map (·.id) = s.issued.map (·.2.id) := by
    have first := congrArg (List.map Prod.fst) recorded.ledger
    simpa [List.map_map, Function.comp_def] using first
  rw [ids] at unique
  exact unique.of_map _

/-- At most one live grant was issued for a scope. -/
theorem LiveHeld.one (recorded : GrantsRecorded json s) (held : LiveHeld json now s)
    (scope : Scope) :
    (s.issued.filter fun e => e.1 = scope && now < e.2.expiresAt).length ≤ 1 := by
  have nodup := recorded.issued_nodup.filter fun e => e.1 = scope && decide (now < e.2.expiresAt)
  have same : ∀ a ∈ s.issued.filter (fun e => e.1 = scope && decide (now < e.2.expiresAt)),
      ∀ b ∈ s.issued.filter (fun e => e.1 = scope && decide (now < e.2.expiresAt)), a = b := by
    intro a inA b inB
    simp only [List.mem_filter, Bool.and_eq_true, decide_eq_true_eq] at inA inB
    obtain ⟨r, memberR, scopeR, holdsR⟩ := held a inA.1 inA.2.2
    obtain ⟨q, memberQ, scopeQ, holdsQ⟩ := held b inB.1 inB.2.2
    obtain rfl : r = q := recorded.sound.record_eq (mem_admissionRecords.mp memberR).1
      (mem_admissionRecords.mp memberQ).1 (by rw [scopeR, scopeQ, inA.2.1, inB.2.1])
    exact Prod.ext (inA.2.1.trans inB.2.1.symm) (Option.some.inj (holdsR.symm.trans holdsQ))
  generalize s.issued.filter (fun e => e.1 = scope && decide (now < e.2.expiresAt)) = live
    at nodup same
  rcases live with _ | ⟨a, _ | ⟨b, rest⟩⟩
  · exact Nat.zero_le _
  · exact Nat.le_refl _
  · exact absurd (same a (by simp) b (by simp)) fun equal => by simp [equal] at nodup

/-! ### Replays -/

/-- The record of a scope is there and replays `g`. -/
def Replays (json : GrantJson) (scope : Scope) (g : App.Grant) (s : Ledger) : Prop :=
  ∃ r ∈ admissionRecords s.db, r.scope = scope ∧ replayed json r = some g

/-- The calls after which the scope still has a record. -/
def KeepsRecord (json : GrantJson) (scope : Scope) (s t : Ledger) : Prop :=
  (∃ call, GrantStep json call s t) ∧ ∃ r ∈ t.db .idempotencyRecords, r.scope = scope

/-- After an admission the record of its key replays the grant it returned. -/
theorem Admitted.replays {call : AdmitCall} {issued : List (Scope × App.Grant)}
    (admitted : Admitted json call g db after) (named : scopeOf call = some scope) :
    Replays json scope g ⟨after, issued⟩ := by
  cases admitted with
  | replay record member scopeIs holds same =>
    obtain rfl := Option.some.inj (named.symm.trans scopeIs)
    subst same
    exact ⟨record, mem_admissionRecords.mpr ⟨member, scopeOf_action named⟩, rfl, holds⟩
  | issue record free stored =>
    obtain rfl := Option.some.inj (named.symm.trans stored.scope)
    exact ⟨record, stored.mem_admissionRecords.mpr (.inr rfl), rfl, stored.replays⟩

/-- Where a scope keeps a record, it keeps the same one. -/
theorem KeepsRecord.replays (recorded : GrantsRecorded json s) (step : KeepsRecord json scope s t)
    (before : Replays json scope g s) : Replays json scope g t := by
  obtain ⟨⟨call, step⟩, held, present, same⟩ := step
  obtain ⟨r, member, rfl, holds⟩ := before
  refine ⟨r, ?_, rfl, holds⟩
  cases step.effect recorded.sound with
  | fewer _ _ records =>
    have kept := mem_admissionRecords.mpr ⟨present, same ▸ (mem_admissionRecords.mp member).2⟩
    obtain rfl := recorded.sound.record_eq (mem_admissionRecords.mp (records held kept)).1
      (mem_admissionRecords.mp member).1 same
    exact kept
  | issue made => exact made.mem_admissionRecords.mpr (.inl member)

/-- A replayed grant is stored. -/
theorem Replays.stored (recorded : GrantsRecorded json s) (replays : Replays json scope g s) :
    ∃ row ∈ s.db .localAuthorityGrants, row.id = g.id ∧ row.snapshot = g := by
  obtain ⟨r, member, -, holds⟩ := replays
  obtain ⟨h, same, listed, -⟩ := recorded.records r member
  obtain rfl : g = h := Option.some.inj (holds.symm.trans same)
  have entry : (g.id, g) ∈ (s.db .localAuthorityGrants).map fun r => (r.id, r.snapshot) := by
    rw [recorded.ledger]
    exact List.mem_map.mpr ⟨_, listed, rfl⟩
  obtain ⟨row, present, equal⟩ := List.mem_map.mp entry
  obtain ⟨id, snapshot⟩ := Prod.mk.inj equal
  exact ⟨row, present, id, snapshot⟩

/-- An admission under a key that has a record returns what the record replays. -/
theorem Replays.admitted {h : App.Grant} {call : AdmitCall} (recorded : GrantsRecorded json s)
    (replays : Replays json scope g s) (named : scopeOf call = some scope)
    (admitted : Admitted json call h s.db after) : h = g := by
  obtain ⟨r, member, scopeIs, holds⟩ := replays
  have present := (mem_admissionRecords.mp member).1
  cases admitted with
  | replay record found named' again same =>
    obtain rfl := recorded.sound.record_eq found present
      (Option.some.inj (named'.symm.trans named) |>.trans scopeIs.symm)
    exact Option.some.inj (again.symm.trans holds)
  | issue record free issued =>
    have named' := Option.some.inj (issued.scope.symm.trans named)
    exact (free r present (scopeIs.trans named'.symm)).elim

end Steps

/-! ### The lifecycle -/

end ThinkPixelAR.Guarantees
