import ThinkPixelAR.Postgres.SandboxLifecycle

/-!
What the calls of the sandbox lifecycle can do to the sandbox tables. A call is a
chain of changes; what every change keeps is kept by every run, and each guarantee
about bindings, their journal or their cleanup intents looks at the changes only.
-/
namespace ThinkPixelAR.Postgres

open Relational
open Sandbox

variable {platform : Platform} {db after : Db} {α : Type} {clock : Clock} {now : Time}
  {id operationID : ID} {u : Unit} {b : Binding} {c : CleanupIntentRow}
  {q : SandboxBindingRequestRow} {row : SandboxBindingRow}
  {set : SandboxBindingRow → SandboxBindingRow} {intent : ComputeIntent}

/-! ### Changes -/

/-- Conditions under which the calls of a run are made: on the state observed of
compute that is being released, on the intents that are quarantined, on the releases
that callers begin, and on the intents that other callers write. -/
structure Discipline where
  observes : Db → ID → State → Prop
  quarantines : Db → CleanupIntentRow → Prop
  releases : Db → ID → RecordedOperation → Prop
  cleans : Db → Cleanup.Intent → Prop

/-- No condition. -/
def Discipline.free : Discipline :=
  { observes := fun _ _ _ => True, quarantines := fun _ _ => True
    releases := fun _ _ _ => True, cleans := fun _ _ => True }

/-- Cleanup intents are written by the lifecycle itself only. -/
def Discipline.closed : Discipline := { Discipline.free with cleans := fun _ _ => False }

/-- The identifier does not name an acquisition. -/
def Unused (db : Db) (operationID : ID) : Prop :=
  ∀ q ∈ db .sandboxBindingRequests, q.acquireOperationID ≠ operationID

/-- The intent is about rows of the store. -/
structure Owned (db : Db) (intent : ComputeIntent) : Prop where
  request : ∃ q ∈ db .sandboxBindingRequests,
    q.sandboxBindingID = intent.binding.request.scope.sandboxID ∧
      q.canonicalRequest = intent.binding.request
  binding : ∃ row ∈ db .sandboxBindings, row.id = intent.binding.request.scope.sandboxID ∧
    row.providerReference = intent.binding.providerReference

/-- Only what is observed of the compute is written, at the next version. -/
def Observes (set : SandboxBindingRow → SandboxBindingRow) : Prop :=
  ∀ b, set b = { b with
    state := (set b).state
    reason := (set b).reason
    effectiveFactsDigest := (set b).effectiveFactsDigest
    observedAt := (set b).observedAt
    updatedAt := (set b).updatedAt
    stateVersion := b.stateVersion + 1 }

/-- An observation of compute that is being released is written on its binding. -/
structure ReleaseObserved (platform : Platform) (db after : Db) (id : ID)
    (q : SandboxBindingRequestRow) (row : SandboxBindingRow) (current : ComputeIntent)
    (observed : ComputeObservation) : Prop where
  loaded : ∃ now, ComputeLoaded platform now db id q row current
  desired : current.desired = .released
  authorized : current.releaseAuthorized = true
  bindings : ∃ now, after .sandboxBindings =
    updated (·.id = id) (observeOn platform observed now) (db .sandboxBindings)
  requests : after .sandboxBindingRequests = db .sandboxBindingRequests
  operations : after .sandboxOperations = db .sandboxOperations

/-- The tables that hold bindings and their journal are as they were. -/
def SameJournal (db after : Db) : Prop :=
  after .sandboxBindings = db .sandboxBindings ∧
    after .sandboxBindingRequests = db .sandboxBindingRequests ∧
    after .sandboxOperations = db .sandboxOperations

/-- One change of the sandbox tables. -/
inductive Change (platform : Platform) (rule : Discipline) (db after : Db) : Prop
  | quiet (same : ∀ t ∈ sandboxTables, after t = db t)
  | reserved {r : AcquireRequest} {b : SandboxBindingRow}
      (unused : ∀ o ∈ db .sandboxOperations, o.operationID ≠ r.operation.id)
      (key : b.id = r.scope.sandboxID) (state : b.state = .requested)
      (unreleased : b.releaseOperation = none) (kind : b.providerKind = r.profile.providerKind)
      (digest : r.operation.digest = some b.acquireRequestDigest)
      (bindings : after .sandboxBindings = db .sandboxBindings ++ [b])
      (requests : after .sandboxBindingRequests = db .sandboxBindingRequests ++ [requestRow r])
      (operations : after .sandboxOperations = db .sandboxOperations)
      (cleanup : after .cleanupIntents = db .cleanupIntents)
  | bound {id : ID} {reference : String} {now : Time} {q : SandboxBindingRequestRow}
      {row : SandboxBindingRow} (stored : Stored platform db id q row)
      (unbound : row.providerReference = none)
      (changed : BindingChanged db after id (bindTo reference now))
  | observed {id : ID} {now : Time} {q : SandboxBindingRequestRow} {row : SandboxBindingRow}
      {current : ComputeIntent} {set : SandboxBindingRow → SandboxBindingRow}
      (loaded : ComputeLoaded platform now db id q row current)
      (running : current.desired = .running) (observes : Observes set)
      (present : ∀ b, (set b).state ≠ .released)
      (changed : BindingChanged db after id set)
  | releasing {id : ID} {q : SandboxBindingRequestRow} {row : SandboxBindingRow}
      {current : ComputeIntent} {observed : ComputeObservation}
      (release : ReleaseObserved platform db after id q row current observed)
      (allowed : rule.observes db id observed.state)
      (present : observed.state = .releasing ∨ observed.state = .unknown)
      (cleanup : after .cleanupIntents = db .cleanupIntents)
  | confirmed {id : ID} {q : SandboxBindingRequestRow} {row : SandboxBindingRow}
      {current : ComputeIntent} {observed : ComputeObservation}
      (release : ReleaseObserved platform db after id q row current observed)
      (absent : observed.state = .released)
      (cleanup : ∃ now, after .cleanupIntents =
        updated (fun c => c.cleanupOperationID = current.operation.id &&
          c.ownerType = "sandbox-binding" && c.ownerID = id && c.state = .pending)
          (confirmCleanup now) (db .cleanupIntents))
  | quarantined {id : ID} {q : SandboxBindingRequestRow} {row : SandboxBindingRow}
      {current : ComputeIntent} {observed : ComputeObservation}
      (release : ReleaseObserved platform db after id q row current observed)
      (allowed : rule.observes db id observed.state) (uncertain : observed.state = .unknown)
      (permitted : ∀ c ∈ db .cleanupIntents, c.cleanupOperationID = current.operation.id →
        rule.quarantines db c)
      (cleanup : ∃ now, after .cleanupIntents =
        updated (fun c => c.cleanupOperationID = current.operation.id && c.state = .pending)
          (quarantineCleanup now) (db .cleanupIntents))
  | appended {id : ID} {kind : OperationKind} {op : RecordedOperation} {now : Time}
      {q : SandboxBindingRequestRow} {row : SandboxBindingRow}
      (stored : Stored platform db id q row) (unused : Unused db op.id)
      (allowed : kind = .release → rule.releases db id op)
      (appended : Appended db after (operationRow id kind op (q.operationRevision + 1) now)
        (beginOn kind op now))
      (cleanup : after .cleanupIntents = db .cleanupIntents)
  | journalled {intent : ComputeIntent} {operationID : ID} (owned : Owned db intent)
      (bound : intent.binding.providerReference ≠ none) (unused : Unused db operationID)
      (release : Journalled platform db after intent operationID)
  | added {value : Cleanup.Intent} (allowed : rule.cleans db value) (same : SameJournal db after)
      (cleanup : after .cleanupIntents = db .cleanupIntents ++
        [{ value with lastErrorCode := none, confirmedAt := none, quarantinedAt := none }])
  | cleaned {value : Cleanup.Intent} {selects : CleanupIntentRow → Bool}
      (allowed : rule.cleans db value) (same : SameJournal db after)
      (pending : ∀ c, selects c = true → c.id = value.id ∧ c.state = .pending)
      (permitted : value.state = .quarantined → ∀ c ∈ db .cleanupIntents, selects c = true →
        rule.quarantines db c)
      (cleanup : after .cleanupIntents =
        updated selects (CleanupIntents.assign value) (db .cleanupIntents))

/-- A chain of changes through sound stores. -/
def Moves (platform : Platform) (rule : Discipline) : Db → Db → Prop :=
  Relation.ReflTransGen fun db after => Change platform rule db after ∧ Sound after

/-! ### What every change keeps -/

/-- A later version of a binding: a bound reference stays. -/
structure Advanced (old new : SandboxBindingRow) : Prop where
  key : new.id = old.id
  version : old.stateVersion ≤ new.stateVersion
  reference : old.providerReference ≠ none → new.providerReference = old.providerReference

/-- The same request, at a later revision of its journal. -/
structure Continued (old new : SandboxBindingRequestRow) : Prop where
  key : new.sandboxBindingID = old.sandboxBindingID
  acquire : new.acquireOperationID = old.acquireOperationID
  request : new.canonicalRequest = old.canonicalRequest
  revision : old.operationRevision ≤ new.operationRevision

/-- The columns of an intent that never change. -/
def cleanupIdentity (c : CleanupIntentRow) : CleanupIntentRow :=
  { c with
    state := .pending, stateVersion := 0, attempts := 0, nextAttemptAt := 0, lastErrorCode := none
    updatedAt := 0, confirmedAt := none, quarantinedAt := none }

/-- The intent is to remove the resource of the sandbox, whatever its state. -/
def isTarget (b : Binding) (id : ID) (c : CleanupIntentRow) : Bool :=
  c.ownerType = "sandbox-binding" && c.ownerID = id && c.targetType = "sandbox" &&
    c.providerKind = b.request.profile.providerKind &&
    c.externalReference = b.providerReference.getD "" &&
    some c.ownershipProofDigest = b.request.operation.digest

theorem isRelease_iff :
    isRelease b id c = true ↔
      isTarget b id c = true ∧ (c.state = .pending ∨ c.state = .confirmed) := by
  simp only [isRelease, isTarget, Bool.and_eq_true, Bool.or_eq_true, decide_eq_true_eq]

theorem isTarget_congr {d : CleanupIntentRow} (same : cleanupIdentity d = cleanupIdentity c) :
    isTarget b id d = isTarget b id c := by
  have reads : ∀ c, isTarget b id c = isTarget b id (cleanupIdentity c) := fun _ => rfl
  rw [reads d, reads c, same]

/-- The same intent; a terminal one is as it was. -/
structure Tracked (old new : CleanupIntentRow) : Prop where
  identity : cleanupIdentity new = cleanupIdentity old
  terminal : old.state ≠ .pending → new = old

theorem Advanced.refl (b : SandboxBindingRow) : Advanced b b := ⟨rfl, Nat.le_refl _, fun _ => rfl⟩

theorem Advanced.trans {a b c : SandboxBindingRow} (first : Advanced a b) (second : Advanced b c) :
    Advanced a c where
  key := second.key.trans first.key
  version := Nat.le_trans first.version second.version
  reference bound := by
    have kept := first.reference bound
    rw [second.reference (kept ▸ bound), kept]

theorem Continued.refl (q : SandboxBindingRequestRow) : Continued q q :=
  ⟨rfl, rfl, rfl, Nat.le_refl _⟩

theorem Continued.trans {a b c : SandboxBindingRequestRow} (first : Continued a b)
    (second : Continued b c) : Continued a c :=
  ⟨second.key.trans first.key, second.acquire.trans first.acquire,
    second.request.trans first.request, Nat.le_trans first.revision second.revision⟩

theorem Tracked.refl (c : CleanupIntentRow) : Tracked c c := ⟨rfl, fun _ => rfl⟩

theorem Tracked.trans {a b : CleanupIntentRow} (first : Tracked a b) (second : Tracked b c) :
    Tracked a c where
  identity := second.identity.trans first.identity
  terminal settled := by
    have kept := first.terminal settled
    rw [second.terminal (kept ▸ settled), kept]

/-- What a run of the lifecycle keeps of its sandboxes. -/
structure Persists (db after : Db) : Prop where
  bindings : Keeps Advanced (db .sandboxBindings) (after .sandboxBindings)
  requests : Keeps Continued (db .sandboxBindingRequests) (after .sandboxBindingRequests)
  operations : db .sandboxOperations <+: after .sandboxOperations
  cleanup : Keeps Tracked (db .cleanupIntents) (after .cleanupIntents)

theorem Persists.refl (db : Db) : Persists db db :=
  ⟨.refl Advanced.refl, .refl Continued.refl, List.prefix_refl _, .refl Tracked.refl⟩

theorem Persists.trans {a b c : Db} (first : Persists a b) (second : Persists b c) :
    Persists a c :=
  ⟨first.bindings.trans Advanced.trans second.bindings,
    first.requests.trans Continued.trans second.requests,
    first.operations.trans second.operations, first.cleanup.trans Tracked.trans second.cleanup⟩

section Persists
variable {rule : Discipline}

theorem keeps_of_eq {rel : α → α → Prop} (reflexive : ∀ a, rel a a) {old new : List α}
    (same : new = old) : Keeps rel old new := same ▸ .refl reflexive

theorem Observes.advanced (observes : Observes set) (b : SandboxBindingRow) :
    Advanced b (set b) := by
  rw [observes b]
  exact ⟨rfl, Nat.le_succ _, fun _ => rfl⟩

theorem beginOn_advanced (kind : OperationKind) (op : RecordedOperation) (now : Time)
    (b : SandboxBindingRow) : Advanced b (beginOn kind op now b) := by
  cases kind <;> exact ⟨rfl, Nat.le_succ _, fun _ => rfl⟩

theorem releaseOn_advanced (op : RecordedOperation) (now : Time) (b : SandboxBindingRow) :
    Advanced b (releaseOn op now b) := ⟨rfl, Nat.le_succ _, fun _ => rfl⟩

theorem observeOn_observes (observed : ComputeObservation) (now : Time) :
    Observes (observeOn platform observed now) := fun _ => rfl

theorem expireOn_observes (now : Time) : Observes (expireOn now) := fun _ => rfl

theorem BindingChanged.persists (changed : BindingChanged db after id set)
    (moved : ∀ b ∈ db .sandboxBindings, b.id = id → Advanced b (set b)) : Persists db after := by
  refine ⟨?_, keeps_of_eq Continued.refl (changed.others _ rfl), ?_,
    keeps_of_eq Tracked.refl (changed.others _ rfl)⟩
  · rw [changed.bindings]
    exact .updated Advanced.refl fun b member selected => moved b member (by simpa using selected)
  · rw [changed.others _ rfl]

/-- What an append keeps of bindings, requests and the journal. -/
theorem Appended.keeps {o : SandboxOperationRow} (appended : Appended db after o set)
    (moved : ∀ b, Advanced b (set b)) :
    Keeps Advanced (db .sandboxBindings) (after .sandboxBindings) ∧
      Keeps Continued (db .sandboxBindingRequests) (after .sandboxBindingRequests) ∧
      db .sandboxOperations <+: after .sandboxOperations := by
  refine ⟨?_, ?_, ?_⟩
  · rw [appended.bindings]
    exact .updated Advanced.refl fun b _ _ => moved b
  · rw [appended.requests]
    refine .updated Continued.refl fun q member selected => ⟨rfl, rfl, rfl, ?_⟩
    have next := appended.advances q member (by simpa using selected)
    exact Nat.le_of_lt (by rw [next]; exact Nat.lt_succ_self _)
  · rw [appended.operations]
    exact List.prefix_append _ _

theorem ReleaseObserved.persists {current : ComputeIntent}
    {observed : ComputeObservation}
    (release : ReleaseObserved platform db after id q row current observed)
    (cleanup : Keeps Tracked (db .cleanupIntents) (after .cleanupIntents)) : Persists db after := by
  obtain ⟨now, bindings⟩ := release.bindings
  refine ⟨?_, keeps_of_eq Continued.refl release.requests, ?_, cleanup⟩
  · rw [bindings]
    exact .updated Advanced.refl fun b _ _ => (observeOn_observes observed now).advanced b
  · rw [release.operations]

variable {selects : CleanupIntentRow → Bool} {set : CleanupIntentRow → CleanupIntentRow}

theorem Journalled.persists (release : Journalled platform db after intent operationID) :
    Persists db after := by
  obtain ⟨txNow, now, entry⟩ := release.entry
  obtain ⟨_, _, _, _, cleanup⟩ := release.cleanup
  obtain ⟨bindings, requests, operations⟩ := entry.keeps (releaseOn_advanced _ _)
  refine ⟨bindings, requests, operations, ?_⟩
  rw [cleanup]
  exact .append Tracked.refl

/-- An intent is quarantined only where that is permitted. -/
def Retained (rule : Discipline) (db : Db) (old new : CleanupIntentRow) : Prop :=
  Tracked old new ∧
    (old.state ≠ .quarantined → new.state = .quarantined → rule.quarantines db old)

theorem Retained.refl (c : CleanupIntentRow) : Retained rule db c c :=
  ⟨.refl c, fun active quarantined => (active quarantined).elim⟩

theorem retained_updated
    (cleanup : after .cleanupIntents = updated selects set (db .cleanupIntents))
    (pending : ∀ c, selects c = true → c.state = .pending)
    (identity : ∀ c, cleanupIdentity (set c) = cleanupIdentity c)
    (permitted : ∀ c ∈ db .cleanupIntents, selects c = true → (set c).state = .quarantined →
      rule.quarantines db c) :
    Keeps (Retained rule db) (db .cleanupIntents) (after .cleanupIntents) := by
  rw [cleanup]
  refine .updated Retained.refl fun c member selected => ⟨⟨identity c, fun settled => ?_⟩, ?_⟩
  · exact (settled (pending c selected)).elim
  · exact fun _ => permitted c member selected

theorem Change.retains (change : Change platform rule db after) :
    Keeps (Retained rule db) (db .cleanupIntents) (after .cleanupIntents) := by
  cases change with
  | quiet same => exact keeps_of_eq Retained.refl (same _ (by decide))
  | reserved _ _ _ _ _ _ _ _ _ cleanup | releasing _ _ _ cleanup
  | appended _ _ _ _ cleanup => exact keeps_of_eq Retained.refl cleanup
  | bound _ _ changed | observed _ _ _ _ changed =>
    exact keeps_of_eq Retained.refl (changed.others _ rfl)
  | confirmed _ _ cleanup =>
    obtain ⟨now, cleanup⟩ := cleanup
    refine retained_updated cleanup (fun c selected => ?_) (fun _ => rfl)
      fun c _ _ quarantined => ?_
    · simp at selected
      exact selected.2
    · cases quarantined
  | quarantined _ _ _ permitted cleanup =>
    obtain ⟨now, cleanup⟩ := cleanup
    refine retained_updated cleanup (fun c selected => ?_) (fun _ => rfl)
      fun c member selected _ => permitted c member ?_
    · simp at selected
      exact selected.2
    · simp at selected
      exact selected.1
  | journalled _ _ _ release =>
    obtain ⟨_, _, _, _, cleanup⟩ := release.cleanup
    rw [cleanup]
    exact .append Retained.refl
  | added _ _ cleanup =>
    rw [cleanup]
    exact .append Retained.refl
  | cleaned _ _ pending permitted cleanup =>
    exact retained_updated cleanup (fun c selected => (pending c selected).2) (fun _ => rfl)
      fun c member selected quarantined => permitted quarantined c member selected

theorem SameJournal.persists (same : SameJournal db after)
    (cleanup : Keeps Tracked (db .cleanupIntents) (after .cleanupIntents)) : Persists db after := by
  refine ⟨keeps_of_eq Advanced.refl same.1, keeps_of_eq Continued.refl same.2.1, ?_, cleanup⟩
  rw [same.2.2]

theorem Change.persists (sound : Sound db) (change : Change platform rule db after) :
    Persists db after := by
  have cleanup : Keeps Tracked (db .cleanupIntents) (after .cleanupIntents) := by
    intro c member
    obtain ⟨d, present, retained⟩ := change.retains c member
    exact ⟨d, present, retained.1⟩
  cases change with
  | quiet same =>
    exact SameJournal.persists ⟨same _ (by decide), same _ (by decide), same _ (by decide)⟩ cleanup
  | reserved _ _ _ _ _ _ bindings requests operations =>
    refine ⟨?_, ?_, ?_, cleanup⟩
    · rw [bindings]
      exact .append Advanced.refl
    · rw [requests]
      exact .append Continued.refl
    · rw [operations]
  | bound stored unbound changed =>
    refine changed.persists fun b member same => ⟨rfl, Nat.le_succ _, fun bound => ?_⟩
    rw [sound.binding_eq member stored.mem.2.1 (same.trans stored.mem.2.2.symm)] at bound
    exact (bound unbound).elim
  | observed _ _ observes _ changed => exact changed.persists fun b _ _ => observes.advanced b
  | releasing release | confirmed release | quarantined release => exact release.persists cleanup
  | appended _ _ _ appended =>
    obtain ⟨bindings, requests, operations⟩ := appended.keeps (beginOn_advanced _ _ _)
    exact ⟨bindings, requests, operations, cleanup⟩
  | journalled _ _ _ release => exact release.persists
  | added _ same | cleaned _ same => exact same.persists cleanup

theorem Moves.keeps (sound : Sound db) (moves : Moves platform rule db after) :
    Sound after ∧ Persists db after := by
  induction moves with
  | refl => exact ⟨sound, .refl db⟩
  | tail _ step ih => exact ⟨step.2, ih.2.trans (step.1.persists ih.1)⟩

/-- A stored sandbox is still stored. -/
theorem Stored.persists (stored : Stored platform db id q row) (settled : Sound after)
    (persists : Persists db after) :
    ∃ q' row', Stored platform after id q' row' ∧ Continued q q' ∧ Advanced row row' := by
  obtain ⟨⟨request, key⟩, binding, key'⟩ := stored.mem
  obtain ⟨q', request', continued⟩ := persists.requests q request
  obtain ⟨row', binding', advanced⟩ := persists.bindings row binding
  refine ⟨q', row', ⟨?_, ?_, ?_, ?_⟩, continued, advanced⟩
  · refine find?_eq_of_only request' (decide_eq_true (continued.key.trans key))
      fun other member same => ?_
    exact settled.request_eq member request'
      ((of_decide_eq_true same).trans (continued.key.trans key).symm)
  · refine find?_eq_of_only binding' (decide_eq_true (advanced.key.trans key'))
      fun other member same => ?_
    exact settled.binding_eq member binding'
      ((of_decide_eq_true same).trans (advanced.key.trans key').symm)
  · rw [continued.request]
    exact stored.scope
  · rw [continued.request]
    exact stored.digest

end Persists

/-! ### What happens to the state of a binding -/

/-- Nothing was observed. -/
structure ObservationKept (old new : SandboxBindingRow) : Prop where
  key : new.id = old.id
  state : new.state = old.state
  reason : new.reason = old.reason
  facts : new.effectiveFactsDigest = old.effectiveFactsDigest
  time : new.observedAt = old.observedAt

/-- Where the state of a binding comes from. -/
inductive Restated (platform : Platform) (rule : Discipline) (db after : Db)
    (new : SandboxBindingRow) : Prop
  | kept {old : SandboxBindingRow} (present : old ∈ db .sandboxBindings)
      (kept : ObservationKept old new)
  | requested (unknown : ∀ old ∈ db .sandboxBindings, old.id ≠ new.id)
      (state : new.state = .requested)
  | running {now : Time} {q : SandboxBindingRequestRow} {row : SandboxBindingRow}
      {current : ComputeIntent} (loaded : ComputeLoaded platform now db new.id q row current)
      (running : current.desired = .running) (present : new.state ≠ .released)
  | releasing {now : Time} {q : SandboxBindingRequestRow} {row : SandboxBindingRow}
      {current : ComputeIntent} (loaded : ComputeLoaded platform now db new.id q row current)
      (allowed : rule.observes db new.id new.state)
      (present : new.state = .releasing ∨ new.state = .unknown)
  | confirmed {q : SandboxBindingRequestRow} {row : SandboxBindingRow}
      {current : ComputeIntent} {observed : ComputeObservation}
      (release : ReleaseObserved platform db after new.id q row current observed)
      (absent : new.state = .released)
      (cleanup : ∃ now, after .cleanupIntents =
        updated (fun c => c.cleanupOperationID = current.operation.id &&
          c.ownerType = "sandbox-binding" && c.ownerID = new.id && c.state = .pending)
          (confirmCleanup now) (db .cleanupIntents))

section Restated
variable {rule : Discipline} {new : SandboxBindingRow}

theorem ObservationKept.refl (b : SandboxBindingRow) : ObservationKept b b :=
  ⟨rfl, rfl, rfl, rfl, rfl⟩

theorem restated_of_eq (same : after .sandboxBindings = db .sandboxBindings)
    (member : new ∈ after .sandboxBindings) : Restated platform rule db after new :=
  .kept (same ▸ member) (.refl new)

/-- A row of an updated table was written, or is as it was. -/
theorem restated_of_updated
    (bindings : after .sandboxBindings = updated (·.id = id) set (db .sandboxBindings))
    (member : new ∈ after .sandboxBindings)
    (written : ∀ old ∈ db .sandboxBindings, old.id = id → new = set old →
      Restated platform rule db after new) : Restated platform rule db after new := by
  rw [bindings] at member
  obtain ⟨old, present, ⟨selected, rfl⟩ | ⟨-, rfl⟩⟩ := mem_updated.mp member
  · exact written old present (by simpa using selected) rfl
  · exact .kept present (.refl _)

theorem Change.restates (settled : Sound after) (change : Change platform rule db after)
    (member : new ∈ after .sandboxBindings) : Restated platform rule db after new := by
  cases change with
  | quiet same => exact restated_of_eq (same _ (by decide)) member
  | reserved unused key state unreleased kind digest bindings =>
    have unique := settled.binding_unique
    rw [bindings] at unique member
    rcases List.mem_append.mp member with old | new
    · exact .kept old (.refl _)
    · obtain rfl := List.mem_singleton.mp new
      exact .requested (fun old present => unique.inserted present) state
  | bound stored unbound changed =>
    refine restated_of_updated changed.bindings member fun old present _ written => ?_
    exact .kept present (written ▸ ⟨rfl, rfl, rfl, rfl, rfl⟩)
  | observed loaded running observes present changed =>
    refine restated_of_updated changed.bindings member fun old _ key written => ?_
    have same : new.id = old.id := written ▸ (observes.advanced old).key
    rw [← key, ← same] at loaded
    exact .running loaded running (written ▸ present old)
  | releasing release allowed present =>
    obtain ⟨_, bindings⟩ := release.bindings
    obtain ⟨_, loaded⟩ := release.loaded
    refine restated_of_updated bindings member fun old _ key written => ?_
    have same : new.id = old.id := written ▸ rfl
    rw [← key, ← same] at loaded allowed
    have state : new.state = _ := congrArg (·.state) written
    exact .releasing loaded (state ▸ allowed) (state ▸ present)
  | confirmed release absent cleanup =>
    obtain ⟨_, bindings⟩ := release.bindings
    refine restated_of_updated bindings member fun old _ key written => ?_
    have same : new.id = old.id := written ▸ rfl
    rw [← key, ← same] at release cleanup
    have state : new.state = _ := congrArg (·.state) written
    exact .confirmed release (state.trans absent) cleanup
  | quarantined release allowed uncertain =>
    obtain ⟨_, bindings⟩ := release.bindings
    obtain ⟨_, loaded⟩ := release.loaded
    refine restated_of_updated bindings member fun old _ key written => ?_
    have same : new.id = old.id := written ▸ rfl
    rw [← key, ← same] at loaded allowed
    have state : new.state = _ := congrArg (·.state) written
    exact .releasing loaded (state ▸ allowed) (.inr (state.trans uncertain))
  | @appended _ kind _ _ _ _ _ _ _ appended _ =>
    refine restated_of_updated appended.bindings member fun old present _ written => ?_
    exact .kept present (written ▸ by cases kind <;> exact ⟨rfl, rfl, rfl, rfl, rfl⟩)
  | journalled _ _ _ release =>
    obtain ⟨_, _, entry⟩ := release.entry
    refine restated_of_updated entry.bindings member fun old present _ written => ?_
    exact .kept present (written ▸ ⟨rfl, rfl, rfl, rfl, rfl⟩)
  | added _ same | cleaned _ same => exact restated_of_eq same.1 member

end Restated

/-! ### Calls -/

section Calls
variable {rule : Discipline} {t : Time}

/-- Everything but the tables of the sandboxes may have changed. -/
theorem moves_of_outside {tables : List Table} (sound : Sound after)
    (others : ∀ u, outside tables u = true → after u = db u)
    (apart : sandboxTables.all (outside tables) = true) : Moves platform rule db after :=
  .single ⟨.quiet fun u member => others u (List.all_eq_true.mp apart u member), sound⟩

theorem ComputeLoaded.owned (loaded : ComputeLoaded platform now db id q row intent) :
    Owned db intent := by
  obtain ⟨⟨request, key⟩, binding, key'⟩ := loaded.stored.mem
  have scope := loaded.scope
  refine ⟨⟨q, request, key.trans scope.symm, ?_⟩, row, binding, key'.trans scope.symm, ?_⟩
  · rw [loaded.binding]
  · rw [loaded.binding]

/-- Compute that is observed stays owned. -/
theorem Owned.observed (owned : Owned db intent) (observes : Observes set)
    (changed : BindingChanged db after id set) : Owned after intent := by
  obtain ⟨request, row, binding, key, reference⟩ := owned
  refine ⟨by rwa [changed.others _ rfl], ?_⟩
  rw [changed.bindings]
  cases selected : decide (row.id = id) with
  | true =>
    refine ⟨set row, mem_updated.mpr ⟨row, binding, .inl ⟨selected, rfl⟩⟩, ?_, ?_⟩
    · rw [observes row]
      exact key
    · rw [observes row]
      exact reference
  | false => exact ⟨row, mem_updated.mpr ⟨row, binding, .inr ⟨selected, rfl⟩⟩, key, reference⟩

/-- Bound compute stays owned. -/
theorem Owned.persists (owned : Owned db intent) (bound : intent.binding.providerReference ≠ none)
    (persists : Persists db after) : Owned after intent := by
  obtain ⟨q, request, key, canonical⟩ := owned.request
  obtain ⟨row, binding, key', reference⟩ := owned.binding
  obtain ⟨q', request', continued⟩ := persists.requests q request
  obtain ⟨row', binding', advanced⟩ := persists.bindings row binding
  refine ⟨⟨q', request', continued.key.trans key, continued.request.trans canonical⟩, row',
    binding',
    advanced.key.trans key', ?_⟩
  rw [advanced.reference (by rw [reference]; exact bound), reference]

/-- A release that is journalled names no acquisition. -/
theorem Journalled.unused {other : ID} (release : Journalled platform db after intent operationID)
    (unused : Unused db other) : Unused after other := by
  obtain ⟨_, _, entry⟩ := release.entry
  intro q member
  rw [entry.requests] at member
  obtain ⟨old, present, ⟨-, rfl⟩ | ⟨-, rfl⟩⟩ := mem_updated.mp member
  · exact unused old present
  · exact unused _ present

theorem Recovered.moves (sound : Sound after) (running : intent.desired = .running)
    (owned : Owned db intent) (unused : Unused db operationID)
    (recovered : Recovered platform operationID intent db after) :
    Moves platform rule db after := by
  cases recovered with
  | quarantined desired => rw [running] at desired; cases desired
  | known _ _ same => exact same ▸ .refl
  | unbound _ _ _ _ others => exact moves_of_outside sound others (by decide)
  | released _ _ bound _ middle settled quiet release =>
    have first : Moves platform rule db middle := moves_of_outside settled quiet (by decide)
    have same : ∀ t ∈ sandboxTables, middle t = db t := fun t member =>
      quiet t (List.all_eq_true.mp (by decide) t member)
    refine first.tail ⟨.journalled ?_ bound ?_ release, sound⟩
    · constructor
      · rw [same .sandboxBindingRequests (by decide)]
        exact owned.request
      · rw [same .sandboxBindings (by decide)]
        exact owned.binding
    · rw [Unused, same .sandboxBindingRequests (by decide)]
      exact unused

theorem reserve_moves (sound : Sound after) {env : ReserveEnvironment} {r : AcquireRequest}
    (success : (reserve platform now env r).run (rules t).execute db = .ok (b, after)) :
    Moves platform rule db after := by
  rcases reserve_effects success with ⟨-, others, -⟩ | ⟨-, reserved, -⟩
  · exact moves_of_outside sound others (by decide)
  · obtain ⟨digest, profileDigest, stamped, bindings⟩ := reserved.bindings
    exact .single ⟨.reserved reserved.unused rfl rfl rfl rfl stamped bindings reserved.requests
      (reserved.others _ rfl) (reserved.others _ rfl), sound⟩

theorem bindReference_moves (sound : Sound after) {reference : String}
    (success : (bindReference platform now id reference).run (rules t).execute db =
      .ok (u, after)) : Moves platform rule db after := by
  obtain ⟨q, row, stored, -, ⟨-, rfl⟩ | ⟨unbound, changed⟩⟩ := bindReference_effects success
  · exact .refl
  · exact .single ⟨.bound stored unbound changed, sound⟩

theorem beginOperation_moves (sound : Sound after) {kind : OperationKind} {op : Operation}
    {result : Nat} (allowed : kind = .release → ∀ digest, op.digest = some digest →
      rule.releases db id ⟨op.id, digest⟩)
    (success : (beginOperation platform now id kind op).run (rules t).execute db =
      .ok (result, after)) : Moves platform rule db after := by
  obtain ⟨q, row, current, digest, stored, -, -, stamped, unused, -, answered | appended⟩ :=
    beginOperation_effects success
  · obtain ⟨_, _, _, _, _, _, _, others⟩ := answered
    exact moves_of_outside sound others (by decide)
  · obtain ⟨-, -, appended, others⟩ := appended
    have fresh : Unused db (RecordedOperation.mk op.id digest).id := unused
    exact .single ⟨.appended stored fresh (fun release => allowed release digest stamped) appended
      (others _ rfl), sound⟩

theorem replaceDeleted_moves (sound : Sound after)
    {policy : Binding → AcquireRequest → Bool} {events : ID × ID} {lost : ID}
    {resources : ReplacementResources} {result : Binding}
    (success : (replaceDeleted platform clock policy events lost resources).run
      (rules t).execute db = .ok (result, after)) : Moves platform rule db after := by
  rcases replaceDeleted_effects success with
    ⟨_, _, rfl, _⟩ | ⟨_, old, _, _, _, _, digest, _, replaced, _⟩
  · exact .refl
  · obtain ⟨profileDigest, bindings⟩ := replaced.bindings
    have requests : after .sandboxBindingRequests = db .sandboxBindingRequests ++
        [requestRow (replacementRequest old.request resources digest)] := replaced.requests
    exact .single ⟨.reserved replaced.unused rfl rfl rfl rfl rfl bindings requests
      replaced.journal.1 replaced.journal.2, sound⟩

variable {expected : ComputeIntent} {observed : ComputeObservation}
  {ids : RecoveryIDs} {intents : List ComputeIntent} {env : SuspendEnvironment}
  {r : App.SuspendRequest} {releases : ID → ID}

theorem sameIntent_ok {current : ComputeIntent}
    (unchanged : sameIntent current expected = true) :
    (current.desired = .running → current.current = expected.current) ∧
      current.version = expected.version ∧ current.revision = expected.revision ∧
      current.operation = expected.operation ∧ current.desired = expected.desired ∧
      current.binding.request.operation = expected.binding.request.operation ∧
      current.binding.providerReference = expected.binding.providerReference := by
  simp only [sameIntent, Bool.and_eq_true, Bool.or_eq_true, decide_eq_true_eq] at unchanged
  obtain ⟨⟨⟨⟨⟨⟨fence, version⟩, revision⟩, operation⟩, desired⟩, request⟩, reference⟩ := unchanged
  exact ⟨fun running => fence.resolve_left fun other => other running, version, revision, operation,
    desired, request, reference⟩

/-- Recovery is required of unknown compute only. -/
theorem validObservation_recovery (valid : validObservation observed = .ok ())
    (required : observed.recoveryRequired = true) : observed.state = .unknown := by
  obtain ⟨-, valid⟩ := unless_ok.mp valid
  split at valid
  · cases valid
  · next _ consistent =>
    simp only [Bool.or_eq_true, Bool.and_eq_true, decide_eq_true_eq, not_or, not_and] at consistent
    exact not_not.mp (consistent.2 required)

theorem recordCompute_moves (sound : Sound after) (unused : Unused db ids.operation)
    (observes : rule.observes db expected.binding.request.scope.sandboxID observed.state)
    (quarantines : observed.recoveryRequired = true → expected.desired = .released →
      ∀ c ∈ db .cleanupIntents, c.cleanupOperationID = expected.operation.id →
        rule.quarantines db c)
    (success : (recordCompute platform clock ids expected observed).run (rules t).execute db =
      .ok (u, after)) : Moves platform rule db after := by
  obtain ⟨q, row, current, middle, recorded⟩ := recordCompute_effects success
  obtain ⟨-, -, -, operation, desired, -, -⟩ := sameIntent_ok recorded.unchanged
  have fits := recorded.fits
  cases wanted : current.desired with
  | running =>
    simp only [fitsDesired, wanted, Bool.and_eq_true, decide_eq_true_eq] at fits
    have first : Moves platform rule db middle := .single ⟨.observed recorded.loaded wanted
      (observeOn_observes observed _) (fun _ => fits.1) recorded.observes, recorded.sound⟩
    cases recorded.follows with
    | recovery required recovered =>
      have owned : Owned middle current :=
        recorded.loaded.owned.observed (observeOn_observes observed _) recorded.observes
      refine first.trans (recovered.moves sound wanted owned ?_)
      rw [Unused, recorded.observes.others _ rfl]
      exact unused
    | confirmed absent => exact (fits.1 absent).elim
    | plain _ _ same => exact same ▸ first
  | released =>
    have permitted := recorded.permitted
    simp only [mayRecord, wanted] at permitted
    have release : ∀ {later : Db},
        (∀ u, outside (.cleanupIntents :: recoveryTables) u = true → later u = middle u) →
        ReleaseObserved platform db later expected.binding.request.scope.sandboxID q row current
          observed := by
      intro later others
      refine ⟨⟨_, recorded.loaded⟩, wanted, permitted, ⟨clock.reading 0, ?_⟩, ?_, ?_⟩
      · rw [others _ rfl, recorded.observes.bindings]
      · rw [others _ rfl, recorded.observes.others _ rfl]
      · rw [others _ rfl, recorded.observes.others _ rfl]
    cases recorded.follows with
    | recovery required recovered =>
      have uncertain := validObservation_recovery recorded.valid required
      cases recovered with
      | quarantined _ cleanup others =>
        rw [recorded.observes.others _ rfl] at cleanup
        refine .single ⟨.quarantined (release others) observes uncertain ?_ cleanup, sound⟩
        rw [operation]
        exact quarantines required (desired ▸ wanted)
      | known running | unbound running | released running => rw [wanted] at running; cases running
    | confirmed absent cleanup others =>
      rw [recorded.observes.others _ rfl, recorded.loaded.scope] at cleanup
      refine .single ⟨.confirmed (release fun u other => others u ?_) absent cleanup, sound⟩
      exact (outside_cons.mp other).1
    | plain required present same =>
      have kept : after .cleanupIntents = db .cleanupIntents := by
        rw [same, recorded.observes.others _ rfl]
      have seen : observed.state = .releasing ∨ observed.state = .unknown := by
        simp only [fitsDesired, wanted, Bool.or_eq_true, decide_eq_true_eq] at fits
        rcases fits with (absent | releasing) | unknown
        · exact (present absent).elim
        · exact .inl releasing
        · exact .inr unknown
      exact .single ⟨.releasing (release fun u _ => congrFun same u) observes seen kept, sound⟩

theorem recoverExpiredAgentd_moves (sound : Sound after) (unused : Unused db ids.operation)
    (success : (recoverExpiredAgentd platform clock ids id).run (rules t).execute db =
      .ok (u, after)) : Moves platform rule db after := by
  obtain ⟨q, row, current, loaded, ⟨rfl, -⟩ | ⟨running, -, middle, changed, settled, recovered⟩⟩ :=
    recoverExpiredAgentd_effects success
  · exact .refl
  · have first : Moves platform rule db middle := .single ⟨.observed loaded running
      (expireOn_observes _) (fun _ => by simp [expireOn]) changed, settled⟩
    have owned : Owned middle current := loaded.owned.observed (expireOn_observes _) changed
    refine first.trans (recovered.moves sound running owned ?_)
    rw [Unused, changed.others _ rfl]
    exact unused

/-! ### Suspension -/

/-- Compute that a suspension may release: bound, and with an empty journal if it
should be running. -/
structure Releasable (db : Db) (intent : ComputeIntent) : Prop where
  owned : Owned db intent
  bound : intent.binding.providerReference ≠ none
  first : intent.desired = .running → intent.revision = 0

theorem loadRetained_ok {ids : List ID}
    (success : (loadRetained platform now ids).run (rules t).execute db = .ok (intents, after)) :
    after = db ∧ ∀ intent ∈ intents, Releasable db intent := by
  induction ids generalizing intents after with
  | nil =>
    obtain ⟨rfl, rfl⟩ := Tx.run_pure.mp success
    simp
  | cons id rest ih =>
    simp only [loadRetained, Tx.run_bind, Tx.run_require, Tx.run_pure] at success
    obtain ⟨intent, _, load, _, _, ⟨⟨-, bound, -⟩, rfl⟩, others, _, loads, rfl, rfl⟩ := success
    obtain ⟨rfl, q, row, loaded⟩ := run_loadCompute.mp load
    obtain ⟨rfl, all⟩ := ih loads
    refine ⟨rfl, fun one member => ?_⟩
    rcases List.mem_cons.mp member with rfl | later
    · exact ⟨loaded.owned, Option.isSome_iff_ne_none.mp bound, loaded.first⟩
    · exact all one later

theorem suspendBoundary_ok {s : SessionRow} {boundary : SuspendBoundary}
    (success : (suspendBoundary platform clock env r s).run (rules t).execute db =
      .ok (boundary, after)) :
    after = db ∧ ∀ intent ∈ boundary.sandboxes, Releasable db intent := by
  refine ⟨Tx.run_unchanged suspendBoundary_submits success, ?_⟩
  simp only [suspendBoundary, Tx.run_bind, Tx.run_get, Tx.run_expect, Tx.run_require,
    Tx.run_pure] at success
  obtain ⟨_, _, validated, _, d0, ⟨rfl, rfl⟩, ⟨w, o⟩, _, ⟨-, rfl⟩, _, _, ⟨-, rfl⟩, _, _, ⟨-, rfl⟩,
    sandboxes, _, loads, _, _, -, rfl, -⟩ := success
  cases Tx.run_unchanged validateCheckpoint_submits validated
  exact (loadRetained_ok loads).2

/-- One release of a suspension; the chain of releases keeps what the next one needs. -/
theorem suspendRelease_moves {txNow : Time} (sound : Sound db) (releasable : Releasable db intent)
    (unused : ∀ id, Unused db (releases id))
    (success : (suspendRelease platform txNow now releases intent).run (rules t).execute db =
      .ok (u, after)) : Moves platform rule db after ∧ ∀ id, Unused after (releases id) := by
  simp only [suspendRelease, Tx.run_bind, Tx.run_onlyIf] at success
  obtain ⟨_, middle, released, queued⟩ := success
  have quiet := queueCompute_quiet queued
  have later : ∀ id, Unused middle (releases id) → Unused after (releases id) := by
    intro id fresh
    rw [Unused, quiet _ rfl]
    exact fresh
  rcases released with ⟨wanted, journalled⟩ | ⟨-, rfl⟩
  · have running : intent.desired = .running := by
      cases h : intent.desired with
      | running => rfl
      | released => exact (wanted h).elim
    have release := journalRelease_effects (releasable.first running) journalled
    have settled : Sound middle := run_sound sound journalled
    have first : Moves platform rule db middle :=
      .single ⟨.journalled releasable.owned releasable.bound (unused _) release, settled⟩
    exact ⟨first.trans (moves_of_outside (run_sound settled queued) quiet (by decide)),
      fun id => later id (release.unused (unused id))⟩
  · exact ⟨moves_of_outside (run_sound sound queued) quiet (by decide),
      fun id => later id (unused id)⟩

theorem suspendReleases_moves {n : Nat} (sound : Sound db)
    (releasable : ∀ intent ∈ intents, Releasable db intent) (unused : ∀ id, Unused db (releases id))
    (success : (suspendReleases platform clock releases n intents).run (rules t).execute db =
      .ok (u, after)) : Moves platform rule db after := by
  induction intents generalizing db n with
  | nil =>
    obtain ⟨-, rfl⟩ := Tx.run_pure.mp success
    exact .refl
  | cons intent rest ih =>
    simp only [suspendReleases, Tx.run_bind] at success
    obtain ⟨_, middle, released, success⟩ := success
    have step : Moves platform rule db middle ∧ ∀ id, Unused middle (releases id) :=
      suspendRelease_moves sound (releasable intent (List.mem_cons_self ..)) unused released
    obtain ⟨first, fresh⟩ := step
    have persists := (first.keeps sound).2
    refine first.trans (ih (first.keeps sound).1 (fun other member => ?_) fresh success)
    have before := releasable other (List.mem_cons_of_mem _ member)
    exact ⟨before.owned.persists before.bound persists, before.bound, before.first⟩

theorem suspend_moves (sound : Sound db) {result : App.SuspendResult}
    (unused : ∀ id, Unused db (env.releases id))
    (success : (suspend platform clock env r).run (rules t).execute db = .ok (result, after)) :
    Moves platform rule db after := by
  have settled : Sound after := run_sound sound success
  simp only [suspend, Tx.run_bind, Tx.run_lift, Tx.run_require, Tx.run_get,
    run_queryRow] at success
  obtain ⟨_, _, ⟨-, rfl⟩, _, _, ⟨-, rfl⟩, _, _, ⟨rfl, rfl⟩, s, _, ⟨-, rfl⟩, success⟩ := success
  split at success
  next saved _ =>
    simp only [Tx.run_bind, Tx.run_require, Tx.run_pure] at success
    obtain ⟨_, _, ⟨-, rfl⟩, -, rfl⟩ := success
    exact .refl
  next missing =>
    simp only [Tx.run_bind, Tx.run_require] at success
    obtain ⟨_, _, ⟨-, rfl⟩, boundary, _, checked, committed⟩ := success
    obtain ⟨rfl, releasable⟩ := suspendBoundary_ok checked
    simp only [commitSuspend, Tx.run_bind, Tx.run_get, run_exec, Tx.run_pure] at committed
    obtain ⟨_, _, released, _, d1, ⟨rfl, rfl⟩, _, d2, ⟨_, cleared⟩, _, d3, ⟨_, requested⟩, _, d4,
      ⟨_, moved⟩, _, d5, ⟨_, journalled⟩, _, d6, event, -, rfl⟩ := committed
    have first : Moves platform rule _ d1 :=
      suspendReleases_moves sound releasable unused released
    refine first.trans (.single ⟨.quiet fun u member => ?_, settled⟩)
    -- The rest writes connections, deliveries, the Session, its journal and events.
    have apart : sandboxTables.all (fun u => outside eventTables u &&
        outside [.sessionSuspendOperations] u && outside [.sessions] u &&
        outside [.agentdBootstrapDelivery] u && outside [.agentdCredentialState] u) = true := by
      decide
    have other := List.all_eq_true.mp apart u member
    simp only [Bool.and_eq_true] at other
    rw [run_outside (insertWithPayload_submits.mono fun _ h => h.on) event other.1.1.1.1,
      execute_outside journalled other.1.1.1.2, execute_outside moved other.1.1.2,
      execute_outside requested other.1.2, execute_outside cleared other.2]

end Calls

/-! ### Runs -/

/-- Statements that leave the sandbox tables alone. -/
def Elsewhere (c : Stmt) : Prop := c.table ∉ sandboxTables

/-- The calls of the lifecycle, made in store `db` under the conditions of `rule`;
`RecordCompute`, `RecoverExpiredAgentd` and `Suspend` draw fresh operation IDs. Any
other transaction may commit in between as long as it leaves the sandbox tables
alone. -/
inductive Call (platform : Platform) (rule : Discipline) (db : Db) :
    {α : Type} → Time → Transaction α → Prop
  | reserve (now : Time) (env : ReserveEnvironment) (r : AcquireRequest) :
      Call platform rule db now (reserve platform now env r)
  | bindReference (now : Time) (id : ID) (reference : String) :
      Call platform rule db now (bindReference platform now id reference)
  | beginOperation (now : Time) (id : ID) (kind : OperationKind) (op : Operation)
      (allowed : kind = .release → ∀ digest, op.digest = some digest →
        rule.releases db id ⟨op.id, digest⟩) :
      Call platform rule db now (beginOperation platform now id kind op)
  | recordCompute (clock : Clock) (ids : RecoveryIDs) (expected : ComputeIntent)
      (observed : ComputeObservation) (unused : Unused db ids.operation)
      (observes : rule.observes db expected.binding.request.scope.sandboxID observed.state)
      (quarantines : observed.recoveryRequired = true → expected.desired = .released →
        ∀ c ∈ db .cleanupIntents, c.cleanupOperationID = expected.operation.id →
          rule.quarantines db c) :
      Call platform rule db clock.transaction (recordCompute platform clock ids expected observed)
  | recoverExpiredAgentd (clock : Clock) (ids : RecoveryIDs) (id : ID)
      (unused : Unused db ids.operation) :
      Call platform rule db clock.transaction (recoverExpiredAgentd platform clock ids id)
  | replaceDeleted (clock : Clock) (policy : Binding → AcquireRequest → Bool)
      (events : ID × ID) (lost : ID) (resources : ReplacementResources) :
      Call platform rule db clock.transaction
        (replaceDeleted platform clock policy events lost resources)
  | suspend (clock : Clock) (env : SuspendEnvironment) (r : App.SuspendRequest)
      (unused : ∀ id, Unused db (env.releases id)) :
      Call platform rule db clock.transaction (suspend platform clock env r)
  | prepareResume (clock : Clock) (env : ResumeEnvironment) (now : Time) (ids : ResumeIDs)
      (eventID : ID) (r : App.ResumeRequest) :
      Call platform rule db clock.transaction
        (prepareResume platform clock env now ids eventID r)
  | addCleanup (now : Time) (value : Cleanup.Intent) (allowed : rule.cleans db value) :
      Call platform rule db now (CleanupIntents.add value)
  | updateCleanup (now : Time) (value : Cleanup.Intent) (expected : Nat)
      (allowed : rule.cleans db value)
      (permitted : value.state = .quarantined → ∀ c ∈ db .cleanupIntents, c.id = value.id →
        rule.quarantines db c) :
      Call platform rule db now (CleanupIntents.update value expected)
  | other {α : Type} (now : Time) (x : Transaction α) (elsewhere : x.Submits Elsewhere) :
      Call platform rule db now x

variable {result : α} {rule : Discipline} {x : Transaction α}

theorem moves_of_elsewhere {t : Time} (sound : Sound after) (elsewhere : x.Submits Elsewhere)
    (success : x.run (rules t).execute db = .ok (result, after)) :
    Moves platform rule db after := by
  refine .single ⟨.quiet fun u member => ?_, sound⟩
  refine Rules.run_frame (rules_confined t) (elsewhere.mono fun c apart => ?_) success
  exact ⟨fun same => apart (same ▸ member), fun touched => by
    rw [touched.2] at member
    exact absurd member (by decide)⟩

theorem elsewhere_of_onTables {tables : List Table} (apart : ∀ u ∈ sandboxTables, u ∉ tables)
    (c : Stmt) (on : OnTables tables c) : Elsewhere c := fun member => apart _ member on

/-- A call is a chain of changes. -/
theorem Call.moves (sound : Sound db) (call : Call platform rule db now x)
    (success : x.run (rules now).execute db = .ok (result, after)) :
    Moves platform rule db after := by
  have settled : Sound after := run_sound sound success
  cases call with
  | reserve now env r => exact reserve_moves settled success
  | bindReference now id reference => exact bindReference_moves settled success
  | beginOperation now id kind op allowed => exact beginOperation_moves settled allowed success
  | recordCompute clock ids expected observed unused observes quarantines =>
    exact recordCompute_moves settled unused observes quarantines success
  | recoverExpiredAgentd clock ids id unused =>
    exact recoverExpiredAgentd_moves settled unused success
  | replaceDeleted clock policy events lost resources => exact replaceDeleted_moves settled success
  | suspend clock env r unused => exact suspend_moves sound unused success
  | prepareResume clock env now ids eventID r =>
    exact moves_of_elsewhere settled (prepareResume_submits (elsewhere_of_onTables (by decide))
      fun _ => by simp [Elsewhere, Statement.table, sandboxTables]) success
  | addCleanup now value allowed =>
    obtain ⟨_, inserted⟩ := run_execWrapped.mp success
    exact .single ⟨.added allowed ⟨execute_outside inserted rfl, execute_outside inserted rfl,
      execute_outside inserted rfl⟩ (execute_insert_rows inserted), settled⟩
  | updateCleanup now value expected allowed permitted =>
    have written := run_affected.mp success
    have pending : ∀ c : CleanupIntentRow,
        (decide (c.id = value.id) && decide (c.state = .pending) &&
          decide (c.stateVersion = expected)) = true → c.id = value.id ∧ c.state = .pending := by
      intro c selected
      simp only [Bool.and_eq_true, decide_eq_true_eq] at selected
      exact selected.1
    exact .single ⟨.cleaned allowed ⟨execute_outside written rfl, execute_outside written rfl,
      execute_outside written rfl⟩ pending (fun quarantined c member selected =>
        permitted quarantined c member (pending c selected).1) (execute_update_rows written),
        settled⟩
  | other now x elsewhere => exact moves_of_elsewhere settled elsewhere success

/-- One committed call. -/
def LifecycleStep (platform : Platform) (rule : Discipline) (db after : Db) : Prop :=
  ∃ (α : Type) (now : Time) (x : Transaction α) (result : α), Call platform rule db now x ∧
    (rules now).commit Fault.error x db = .ok (result, after)

theorem LifecycleStep.moves (sound : Sound db) (step : LifecycleStep platform rule db after) :
    Moves platform rule db after := by
  obtain ⟨α, now, x, result, call, committed⟩ := step
  exact call.moves sound (Rules.commit_ok.mp committed).1

/-- A run of calls is a chain of changes. -/
theorem moves_of_run (sound : Sound db)
    (run : Relation.ReflTransGen (LifecycleStep platform rule) db after) :
    Moves platform rule db after := by
  induction run with
  | refl => exact .refl
  | tail _ step ih => exact ih.trans (step.moves (ih.keeps sound).1)

/-- Deferred constraints hold after every commit. -/
theorem settled_of_run (settled : Settled db)
    (run : Relation.ReflTransGen (LifecycleStep platform rule) db after) : Settled after := by
  cases run with
  | refl => exact settled
  | tail _ step =>
    obtain ⟨_, _, _, _, _, committed⟩ := step
    exact deferred_ok.mp (Rules.commit_ok.mp committed).2

/-- A property that every change keeps holds after every run. -/
theorem Moves.invariant {I : Db → Prop}
    (keep : ∀ {d e}, Sound d → Sound e → I d → Change platform rule d e → I e) (sound : Sound db)
    (before : I db) (moves : Moves platform rule db after) : I after := by
  induction moves with
  | refl => exact before
  | tail earlier step ih =>
    have chain : Moves platform rule db _ := earlier
    exact keep (chain.keeps sound).1 step.2 ih step.1

/-- A sound store without sandboxes. -/
structure Pristine (db : Db) : Prop where
  sound : Sound db
  empty : ∀ t ∈ sandboxTables, db t = []

end ThinkPixelAR.Postgres
