import ThinkPixelAR.Postgres.Evaluation
import ThinkPixelAR.Postgres.SandboxChanges

/-!
The lifecycle journal of sandboxes. Four code paths append to it with revisions that
they compute outside the insert; the revision trigger and the unique indexes make
the journal of every binding contiguous, and a release its last entry. A binding
that is RELEASED keeps the confirmed intent of exactly that release.
-/
namespace ThinkPixelAR.Guarantees

open Relational Postgres

variable {set : SandboxBindingRow → SandboxBindingRow} {q : SandboxBindingRequestRow}
  {row : SandboxBindingRow} {o : SandboxOperationRow} {rule : Discipline}

/-! ### What a change writes -/

/-- Neither the identity of a binding nor its recorded operations changed. -/
structure Redescribed (old new : SandboxBindingRow) : Prop where
  key : new.id = old.id
  kind : new.providerKind = old.providerKind
  digest : new.acquireRequestDigest = old.acquireRequestDigest
  release : new.releaseOperation = old.releaseOperation

/-- The operation is recorded on its binding; the first release stays. -/
structure Records (o : SandboxOperationRow) (set : SandboxBindingRow → SandboxBindingRow) :
    Prop where
  key : ∀ b, (set b).id = b.id
  kind : ∀ b, (set b).providerKind = b.providerKind
  digest : ∀ b, (set b).acquireRequestDigest = b.acquireRequestDigest
  other : o.kind ≠ .release → ∀ b, (set b).releaseOperation = b.releaseOperation
  release : o.kind = .release → ∀ b, b.releaseOperation = none →
    (set b).releaseOperation = some ⟨o.operationID, o.requestDigest⟩

/-- What a change does to bindings, requests and the journal. -/
inductive Written (db after : Db) : Prop
  | kept (requests : after .sandboxBindingRequests = db .sandboxBindingRequests)
      (operations : after .sandboxOperations = db .sandboxOperations)
      (bindings : ∀ new ∈ after .sandboxBindings, ∃ old ∈ db .sandboxBindings, Redescribed old new)
  | reserved {r : Sandbox.AcquireRequest} {b : SandboxBindingRow}
      (unused : ∀ o ∈ db .sandboxOperations, o.operationID ≠ r.operation.id)
      (key : b.id = r.scope.sandboxID) (unreleased : b.releaseOperation = none)
      (kind : b.providerKind = r.profile.providerKind)
      (digest : r.operation.digest = some b.acquireRequestDigest)
      (bindings : after .sandboxBindings = db .sandboxBindings ++ [b])
      (requests : after .sandboxBindingRequests = db .sandboxBindingRequests ++ [requestRow r])
      (operations : after .sandboxOperations = db .sandboxOperations)
  | appended {o : SandboxOperationRow} {set : SandboxBindingRow → SandboxBindingRow}
      (unused : Unused db o.operationID) (records : Records o set)
      (appended : Appended db after o set)

section Written
variable {platform : Platform} {db after : Db}

theorem redescribed_of_updated {rows : List SandboxBindingRow} {id : ID}
    (redescribes : ∀ b, Redescribed b (set b)) :
    ∀ new ∈ updated (·.id = id) set rows, ∃ old ∈ rows, Redescribed old new := by
  intro new member
  obtain ⟨old, present, ⟨-, rfl⟩ | ⟨-, rfl⟩⟩ := mem_updated.mp member
  · exact ⟨old, present, redescribes old⟩
  · exact ⟨_, present, rfl, rfl, rfl, rfl⟩

theorem observes_redescribes (observes : Observes set) (b : SandboxBindingRow) :
    Redescribed b (set b) := by
  rw [observes b]
  exact ⟨rfl, rfl, rfl, rfl⟩

theorem bindingChanged_written {id : ID} (changed : BindingChanged db after id set)
    (redescribes : ∀ b, Redescribed b (set b)) : Written db after := by
  refine .kept (changed.others _ rfl) (changed.others _ rfl) ?_
  rw [changed.bindings]
  exact redescribed_of_updated redescribes

theorem releaseObserved_written {id : ID} {current : Sandbox.ComputeIntent}
    {observed : Sandbox.ComputeObservation}
    (release : ReleaseObserved platform db after id q row current observed) : Written db after := by
  obtain ⟨now, bindings⟩ := release.bindings
  refine .kept release.requests release.operations ?_
  rw [bindings]
  exact redescribed_of_updated fun _ => ⟨rfl, rfl, rfl, rfl⟩

theorem beginOn_records (id : ID) (kind : OperationKind) (op : RecordedOperation) (revision : Nat)
    (now : Time) : Records (operationRow id kind op revision now) (beginOn kind op now) := by
  cases kind with
  | suspend | resume => exact ⟨fun _ => rfl, fun _ => rfl, fun _ => rfl, fun _ _ => rfl, nofun⟩
  | release =>
    refine ⟨fun _ => rfl, fun _ => rfl, fun _ => rfl, fun other => (other rfl).elim, ?_⟩
    intro _ b unreleased
    simp [beginOn, unreleased, operationRow]

theorem same_written (bindings : after .sandboxBindings = db .sandboxBindings)
    (requests : after .sandboxBindingRequests = db .sandboxBindingRequests)
    (operations : after .sandboxOperations = db .sandboxOperations) : Written db after := by
  refine .kept requests operations fun new member => ⟨new, ?_, rfl, rfl, rfl, rfl⟩
  rwa [← bindings]

theorem change_written (change : Change platform rule db after) : Written db after := by
  cases change with
  | quiet same => exact same_written (same _ (by decide)) (same _ (by decide)) (same _ (by decide))
  | reserved unused key _ unreleased kind digest bindings requests operations _ =>
    exact .reserved unused key unreleased kind digest bindings requests operations
  | bound _ _ changed => exact bindingChanged_written changed fun _ => ⟨rfl, rfl, rfl, rfl⟩
  | observed _ _ observes _ changed =>
    exact bindingChanged_written changed (observes_redescribes observes)
  | releasing release | confirmed release | quarantined release =>
    exact releaseObserved_written release
  | appended _ unused _ appended => exact .appended unused (beginOn_records ..) appended
  | journalled _ _ unused release =>
    obtain ⟨txNow, now, entry⟩ := release.entry
    refine .appended unused ⟨?_, ?_, ?_, ?_, ?_⟩ entry
    exacts [fun _ => rfl, fun _ => rfl, fun _ => rfl, fun other => (other rfl).elim,
      fun _ _ _ => rfl]
  | added _ same | cleaned _ same => exact same_written same.1 same.2.1 same.2.2

end Written

/-! ### The journal -/

/-- The operations of a sandbox, in the order they were journalled. -/
def journalOf (db : Db) (id : ID) : List SandboxOperationRow :=
  (db .sandboxOperations).filter fun o => o.sandboxBindingID = id

/-- The journal of every sandbox. -/
structure Journal (db : Db) : Prop where
  contiguous : ∀ q ∈ db .sandboxBindingRequests,
    (journalOf db q.sandboxBindingID).map (·.revision) = List.range' 1 q.operationRevision
  last : ∀ o ∈ db .sandboxOperations, o.kind = .release → ∀ q ∈ db .sandboxBindingRequests,
    q.sandboxBindingID = o.sandboxBindingID → o.revision = q.operationRevision
  apart : ∀ o ∈ db .sandboxOperations, ∀ q ∈ db .sandboxBindingRequests,
    o.operationID ≠ q.acquireOperationID
  recorded : ∀ row ∈ db .sandboxBindings, ∀ o ∈ db .sandboxOperations, o.kind = .release →
    o.sandboxBindingID = row.id → row.releaseOperation = some ⟨o.operationID, o.requestDigest⟩
  released : ∀ row ∈ db .sandboxBindings, row.releaseOperation ≠ none →
    ∃ o ∈ db .sandboxOperations, o.kind = .release ∧ o.sandboxBindingID = row.id
  described : ∀ row ∈ db .sandboxBindings, ∀ q ∈ db .sandboxBindingRequests,
    q.sandboxBindingID = row.id → row.providerKind = q.canonicalRequest.profile.providerKind ∧
      q.canonicalRequest.operation.digest = some row.acquireRequestDigest

section Steps
variable {platform : Platform} {db after : Db}

/-- An operation is appended to a journal that holds no release. -/
theorem appended_unreleased (sound : Sound db) (journal : Journal db)
    (appended : Appended db after o set) {p : SandboxOperationRow}
    (member : p ∈ db .sandboxOperations) (owner : p.sandboxBindingID = o.sandboxBindingID) :
    p.kind ≠ .release := by
  intro release
  obtain ⟨q, request, key⟩ := sound.operation_request member
  have final := journal.last p member release q request key
  have next := appended.advances q request (key.trans owner)
  rcases appended.last with first | ⟨before, found, kind⟩
  · have positive := sound.revision_pos member
    omega
  · have holds := List.find?_some found
    simp only [Bool.and_eq_true, decide_eq_true_eq] at holds
    have one := sound.revision_eq (List.mem_of_find?_eq_some found) member
      (holds.1.trans owner.symm) (by omega)
    exact kind (one ▸ release)

theorem Journal.of_kept (journal : Journal db)
    (requests : after .sandboxBindingRequests = db .sandboxBindingRequests)
    (operations : after .sandboxOperations = db .sandboxOperations)
    (bindings : ∀ new ∈ after .sandboxBindings, ∃ old ∈ db .sandboxBindings,
      Redescribed old new) : Journal after where
  contiguous := by
    unfold journalOf
    rw [requests, operations]
    exact journal.contiguous
  last := by
    rw [requests, operations]
    exact journal.last
  apart := by
    rw [requests, operations]
    exact journal.apart
  recorded new member o present release owner := by
    obtain ⟨old, before, same⟩ := bindings new member
    rw [operations] at present
    rw [same.release]
    exact journal.recorded old before o present release (owner.trans same.key)
  released new member recorded := by
    obtain ⟨old, before, same⟩ := bindings new member
    rw [operations, same.key]
    exact journal.released old before (by rwa [same.release] at recorded)
  described new member q present key := by
    obtain ⟨old, before, same⟩ := bindings new member
    rw [requests] at present
    rw [same.kind, same.digest]
    exact journal.described old before q present (key.trans same.key)

/-- A reservation opens an empty journal: its sandbox was not known before. -/
theorem Journal.of_reserved (journal : Journal db) (sound : Sound db) (settled : Sound after)
    {r : Sandbox.AcquireRequest} {b : SandboxBindingRow}
    (unused : ∀ o ∈ db .sandboxOperations, o.operationID ≠ r.operation.id)
    (key : b.id = r.scope.sandboxID) (unreleased : b.releaseOperation = none)
    (kind : b.providerKind = r.profile.providerKind)
    (digest : r.operation.digest = some b.acquireRequestDigest)
    (bindings : after .sandboxBindings = db .sandboxBindings ++ [b])
    (requests : after .sandboxBindingRequests = db .sandboxBindingRequests ++ [requestRow r])
    (operations : after .sandboxOperations = db .sandboxOperations) : Journal after := by
  have unknown : ∀ q ∈ db .sandboxBindingRequests, q.sandboxBindingID ≠ r.scope.sandboxID := by
    have unique := settled.request_unique
    rw [requests] at unique
    exact fun q member => unique.inserted member
  have unjournalled : ∀ o ∈ db .sandboxOperations, o.sandboxBindingID ≠ r.scope.sandboxID := by
    intro o member same
    obtain ⟨q, present, owner⟩ := sound.operation_request member
    exact unknown q present (owner.trans same)
  have unbound : ∀ row ∈ db .sandboxBindings, row.id ≠ r.scope.sandboxID := by
    have unique := settled.binding_unique
    rw [bindings] at unique
    exact fun row member => key ▸ unique.inserted member
  have split : ∀ q ∈ after .sandboxBindingRequests,
      q ∈ db .sandboxBindingRequests ∨ q = requestRow r := by
    rw [requests]
    intro q member
    simpa using member
  have rows : ∀ row ∈ after .sandboxBindings, row ∈ db .sandboxBindings ∨ row = b := by
    rw [bindings]
    intro row member
    simpa using member
  have journals : ∀ id, journalOf after id = journalOf db id := by
    intro id
    unfold journalOf
    rw [operations]
  constructor
  · intro q member
    rw [journals]
    rcases split q member with old | rfl
    · exact journal.contiguous q old
    · have none : journalOf db (requestRow r).sandboxBindingID = [] :=
        List.filter_eq_nil_iff.mpr fun o present => by
          rw [decide_eq_true_eq]
          exact unjournalled o present
      rw [none]
      rfl
  · intro o present release q member owner
    rw [operations] at present
    rcases split q member with old | rfl
    · exact journal.last o present release q old owner
    · exact (unjournalled o present owner.symm).elim
  · intro o present q member
    rw [operations] at present
    rcases split q member with old | rfl
    · exact journal.apart o present q old
    · exact unused o present
  · intro row member o present release owner
    rw [operations] at present
    rcases rows row member with old | rfl
    · exact journal.recorded row old o present release owner
    · exact (unjournalled o present (owner.trans key)).elim
  · intro row member recorded
    rw [operations]
    rcases rows row member with old | rfl
    · exact journal.released row old recorded
    · exact (recorded unreleased).elim
  · intro row member q present same
    rcases rows row member with old | rfl
    · rcases split q present with before | rfl
      · exact journal.described row old q before same
      · exact (unbound row old same.symm).elim
    · rcases split q present with before | rfl
      · exact (unknown q before (same.trans key)).elim
      · exact ⟨kind, digest⟩

/-- An append extends one journal by its next revision. -/
theorem Journal.of_appended (journal : Journal db) (sound : Sound db)
    (unused : Unused db o.operationID) (records : Records o set)
    (appended : Appended db after o set) : Journal after := by
  have operations : ∀ p ∈ after .sandboxOperations, p ∈ db .sandboxOperations ∨ p = o := by
    rw [appended.operations]
    intro p member
    simpa using member
  have requests : ∀ q ∈ after .sandboxBindingRequests, ∃ old ∈ db .sandboxBindingRequests,
      (old.sandboxBindingID = o.sandboxBindingID ∧ q = { old with operationRevision := o.revision })
        ∨ (old.sandboxBindingID ≠ o.sandboxBindingID ∧ q = old) := by
    rw [appended.requests]
    intro q member
    simpa using mem_updated.mp member
  have rows : ∀ row ∈ after .sandboxBindings, ∃ old ∈ db .sandboxBindings,
      (old.id = o.sandboxBindingID ∧ row = set old) ∨
      (old.id ≠ o.sandboxBindingID ∧ row = old) := by
    rw [appended.bindings]
    intro row member
    simpa using mem_updated.mp member
  have fresh : ∀ p ∈ db .sandboxOperations, p.sandboxBindingID = o.sandboxBindingID →
      p.kind ≠ .release :=
    fun p member owner => appended_unreleased sound journal appended member owner
  constructor
  · intro q member
    obtain ⟨old, present, ⟨same, rfl⟩ | ⟨other, rfl⟩⟩ := requests q member
    · have next := appended.advances old present same
      have extended : journalOf after old.sandboxBindingID =
          journalOf db old.sandboxBindingID ++ [o] := by
        simp [journalOf, appended.operations, List.filter_append, same]
      rw [show ({ old with operationRevision := o.revision } :
        SandboxBindingRequestRow).sandboxBindingID = old.sandboxBindingID from rfl, extended,
        List.map_append, journal.contiguous old present]
      simp [next, List.range'_concat, Nat.add_comm]
    · have kept : journalOf after q.sandboxBindingID = journalOf db q.sandboxBindingID := by
        simp [journalOf, appended.operations, List.filter_append, Ne.symm other]
      rw [kept]
      exact journal.contiguous q present
  · intro p member release q request owner
    obtain ⟨old, present, ⟨same, rfl⟩ | ⟨other, rfl⟩⟩ := requests q request
    · rcases operations p member with before | rfl
      · exact (fresh p before (owner.symm.trans same) release).elim
      · rfl
    · rcases operations p member with before | rfl
      · exact journal.last p before release q present owner
      · exact (other owner).elim
  · intro p member q request
    obtain ⟨old, present, ⟨-, rfl⟩ | ⟨-, rfl⟩⟩ := requests q request
    all_goals
      rcases operations p member with before | rfl
      · exact (journal.apart p before _ present :)
      · exact (unused _ present :).symm
  · intro row member p present release owner
    obtain ⟨old, before, ⟨same, rfl⟩ | ⟨other, rfl⟩⟩ := rows row member
    · rw [records.key] at owner
      rcases operations p present with earlier | rfl
      · exact (fresh p earlier (owner.trans same) release).elim
      · refine records.release release old ?_
        by_contra recorded
        obtain ⟨p', earlier, kind, key⟩ := journal.released old before recorded
        exact fresh p' earlier (key.trans same) kind
    · rcases operations p present with earlier | rfl
      · exact journal.recorded row before p earlier release owner
      · exact (other owner.symm).elim
  · intro row member recorded
    rw [appended.operations]
    obtain ⟨old, before, ⟨same, rfl⟩ | ⟨other, rfl⟩⟩ := rows row member
    · rw [records.key]
      by_cases kind : o.kind = .release
      · exact ⟨o, List.mem_append_right _ (List.mem_singleton_self o), kind, same.symm⟩
      · rw [records.other kind] at recorded
        obtain ⟨p, earlier, release⟩ := journal.released old before recorded
        exact ⟨p, List.mem_append_left _ earlier, release⟩
    · obtain ⟨p, earlier, release⟩ := journal.released row before recorded
      exact ⟨p, List.mem_append_left _ earlier, release⟩
  · intro row member q request same
    obtain ⟨old', present, ⟨-, rfl⟩ | ⟨-, rfl⟩⟩ := requests q request
    all_goals
      obtain ⟨old, before, ⟨-, rfl⟩ | ⟨-, rfl⟩⟩ := rows row member
      · rw [records.kind, records.digest]
        exact (journal.described old before _ present (same.trans (records.key old)) :)
      · exact (journal.described row before _ present same :)

theorem journal_step (sound : Sound db) (settled : Sound after) (journal : Journal db)
    (change : Change platform rule db after) : Journal after := by
  cases change_written change with
  | kept requests operations bindings => exact journal.of_kept requests operations bindings
  | reserved unused key unreleased kind digest bindings requests operations =>
    exact journal.of_reserved sound settled unused key unreleased kind digest bindings requests
      operations
  | appended unused records appended => exact journal.of_appended sound unused records appended

end Steps

/-! ### Releases -/

/-- A release of the sandbox is journalled, and the removal of exactly its resource
under exactly that operation is confirmed. -/
def ReleaseProven (db : Db) (id : ID) : Prop :=
  ∃ o ∈ db .sandboxOperations, o.kind = .release ∧ o.sandboxBindingID = id ∧
    ∃ q ∈ db .sandboxBindingRequests, q.sandboxBindingID = id ∧
      ∃ row ∈ db .sandboxBindings, row.id = id ∧ row.providerReference ≠ none ∧
        ∃ c ∈ db .cleanupIntents,
          isTarget ⟨q.canonicalRequest, row.providerReference⟩ id c = true ∧
            c.cleanupOperationID = o.operationID ∧ c.requestDigest = o.requestDigest ∧
            c.state = .confirmed

/-- The journal, and what the lifecycle alone guarantees of cleanup intents. -/
structure Lifecycle (db : Db) : Prop where
  journal : Journal db
  originated : ∀ c ∈ db .cleanupIntents, c.ownerType = "sandbox-binding" →
    ∃ q ∈ db .sandboxBindingRequests, q.sandboxBindingID = c.ownerID ∧ q.operationRevision ≠ 0
  proven : ∀ row ∈ db .sandboxBindings, row.state = .released → ReleaseProven db row.id

section Releases
variable {platform : Platform} {db after : Db} {id : ID}

theorem ReleaseProven.persists (proven : ReleaseProven db id) (persists : Persists db after) :
    ReleaseProven after id := by
  obtain ⟨o, operation, kind, owner, q, request, key, row, binding, key', bound, c, cleanup, target,
    same, digest, settled⟩ := proven
  obtain ⟨q', request', continued⟩ := persists.requests q request
  obtain ⟨row', binding', advanced⟩ := persists.bindings row binding
  obtain ⟨c', cleanup', tracked⟩ := persists.cleanup c cleanup
  obtain rfl := tracked.terminal (by rw [settled]; decide)
  have reference := advanced.reference bound
  refine ⟨o, persists.operations.subset operation, kind, owner, q', request',
    continued.key.trans key, row', binding', advanced.key.trans key', by rwa [reference], c',
    cleanup', ?_, same, digest, settled⟩
  rwa [continued.request, reference]

/-- A proven release is the one `ReplaceDeleted` looks for. -/
theorem ReleaseProven.confirmed (sound : Sound db) (journal : Journal db)
    (member : row ∈ db .sandboxBindings) (proven : ReleaseProven db row.id) :
    releaseConfirmed db row = true := by
  obtain ⟨o, operation, kind, owner, q, request, key, row', binding, key', bound, c,
    cleanup, target,
    same, digest, settled⟩ := proven
  obtain rfl := sound.binding_eq binding member key'
  obtain ⟨provider, acquire⟩ := journal.described row' member q request key
  obtain ⟨reference, known⟩ := Option.ne_none_iff_exists'.mp bound
  simp only [isTarget, known, Option.getD_some, Bool.and_eq_true, decide_eq_true_eq,
    acquire, Option.some.injEq] at target
  refine List.any_eq_true.mpr ⟨c, cleanup, ?_⟩
  simp only [journal.recorded row' member o operation kind owner, Option.any_some, known,
    Bool.and_eq_true, decide_eq_true_eq, Option.some.injEq, provider]
  exact ⟨⟨⟨⟨⟨⟨⟨target.1.1.1.1.1, target.1.1.1.1.2⟩, target.1.1.1.2⟩, target.1.1.2⟩, target.1.2⟩,
    same, digest⟩, target.2⟩, settled⟩

/-- Every intent of the lifecycle belongs to a journalled release. -/
theorem Lifecycle.unjournalled (lifecycle : Lifecycle db) (sound : Sound db) {now : Time}
    {intent : Sandbox.ComputeIntent} (loaded : ComputeLoaded platform now db id q row intent)
    (empty : q.operationRevision = 0) : intent.desired = .running := by
  have desired := loaded.desired
  generalize intent.current = current at desired
  cases desired with
  | running => rfl
  | cleanup _ found =>
    have release := List.find?_some found
    simp only [Bool.and_eq_true, isRelease_iff, isTarget, decide_eq_true_eq] at release
    obtain ⟨q', request, key, journalled⟩ :=
      lifecycle.originated _ (List.mem_of_find?_eq_some found)
      release.2.1.1.1.1.1.1
    have one := sound.request_eq request loaded.stored.mem.1.1
      (key.trans (release.2.1.1.1.1.1.2.trans loaded.stored.mem.1.2.symm))
    exact (journalled (one ▸ empty)).elim
  | journal journalled => exact (journalled empty).elim

/-- The intents of a step are those of the store before it, or belong to a release it
journals. -/
theorem Lifecycle.origin (lifecycle : Lifecycle db) (sound : Sound db)
    (change : Change platform .closed db after) :
    ∀ c ∈ after .cleanupIntents, c.ownerType = "sandbox-binding" →
      ∃ q ∈ after .sandboxBindingRequests, q.sandboxBindingID = c.ownerID ∧
        q.operationRevision ≠ 0 := by
  have persists := change.persists sound
  have known : ∀ c ∈ db .cleanupIntents, c.ownerType = "sandbox-binding" →
      ∃ q ∈ after .sandboxBindingRequests, q.sandboxBindingID = c.ownerID ∧
        q.operationRevision ≠ 0 := by
    intro c member owner
    obtain ⟨q, request, key, journalled⟩ := lifecycle.originated c member owner
    obtain ⟨q', request', continued⟩ := persists.requests q request
    refine ⟨q', request', continued.key.trans key, fun empty => journalled ?_⟩
    have := continued.revision
    omega
  have marked : ∀ {selects : CleanupIntentRow → Bool} {set : CleanupIntentRow → CleanupIntentRow},
      after .cleanupIntents = updated selects set (db .cleanupIntents) →
      (∀ c, (set c).ownerType = c.ownerType ∧ (set c).ownerID = c.ownerID) →
      ∀ c ∈ after .cleanupIntents, c.ownerType = "sandbox-binding" →
        ∃ q ∈ after .sandboxBindingRequests, q.sandboxBindingID = c.ownerID ∧
          q.operationRevision ≠ 0 := by
    intro selects set cleanup same c member owner
    rw [cleanup] at member
    obtain ⟨old, present, ⟨-, rfl⟩ | ⟨-, rfl⟩⟩ := mem_updated.mp member
    · rw [(same old).2]
      exact known old present ((same old).1 ▸ owner)
    · exact known _ present owner
  cases change with
  | quiet same => rwa [same .cleanupIntents (by decide)]
  | reserved _ _ _ _ _ _ _ _ _ cleanup | releasing _ _ _ cleanup
  | appended _ _ _ _ cleanup => rwa [cleanup]
  | bound _ _ changed | observed _ _ _ _ changed => rwa [changed.others .cleanupIntents rfl]
  | confirmed _ _ cleanup | quarantined _ _ _ _ cleanup =>
    obtain ⟨_, cleanup⟩ := cleanup
    exact marked cleanup fun _ => ⟨rfl, rfl⟩
  | journalled owned _ _ release =>
    obtain ⟨_, _, entry⟩ := release.entry
    obtain ⟨_, _, _, _, cleanup⟩ := release.cleanup
    intro c member owner
    rw [cleanup] at member
    rcases List.mem_append.mp member with old | new
    · exact known c old owner
    · obtain rfl := List.mem_singleton.mp new
      obtain ⟨q, request, key, -⟩ := owned.request
      rw [entry.requests]
      exact ⟨_, mem_updated.mpr ⟨q, request, .inl ⟨decide_eq_true key, rfl⟩⟩, key,
        Nat.succ_ne_zero _⟩
  | added allowed => exact allowed.elim
  | cleaned allowed => exact allowed.elim

theorem pristine_lifecycle (pristine : Pristine db) : Lifecycle db := by
  have bindings : db .sandboxBindings = [] := pristine.empty _ (by decide)
  have requests : db .sandboxBindingRequests = [] := pristine.empty _ (by decide)
  have operations : db .sandboxOperations = [] := pristine.empty _ (by decide)
  have cleanup : db .cleanupIntents = [] := pristine.empty _ (by decide)
  refine ⟨⟨?_, ?_, ?_, ?_, ?_, ?_⟩, ?_, ?_⟩
  all_goals simp [bindings, requests, operations, cleanup]

/-- READY is observed only of compute that should be running when its call is made. -/
theorem Lifecycle.ready (lifecycle : Lifecycle db) (sound : Sound db)
    (moves : Postgres.Moves platform .closed db after) :
    ∀ new ∈ after .sandboxBindings, new.state = .ready →
      (∃ old ∈ db .sandboxBindings, ObservationKept old new) ∨
        ∀ now q row intent, ComputeLoaded platform now db new.id q row intent →
          intent.desired = .running := by
  induction moves with
  | refl => exact fun new member _ => .inl ⟨new, member, .refl new⟩
  | tail earlier step ih =>
    have chain : Postgres.Moves platform .closed db _ := earlier
    obtain ⟨between, persists⟩ := chain.keeps sound
    intro new member ready
    cases step.1.restates step.2 member with
    | kept present kept =>
      rcases ih _ present (kept.state ▸ ready) with ⟨old, before, same⟩ | running
      · exact .inl ⟨old, before, kept.key.trans same.key, kept.state.trans same.state,
          kept.reason.trans same.reason, kept.facts.trans same.facts, kept.time.trans same.time⟩
      · exact .inr (kept.key ▸ running)
    | requested _ state =>
      rw [state] at ready
      cases ready
    | running loaded running =>
      -- The journal was empty then, so it was empty before the call.
      refine .inr fun now q row intent before => lifecycle.unjournalled sound before ?_
      obtain ⟨q', request, continued⟩ := persists.requests q before.stored.mem.1.1
      have one := between.request_eq request loaded.stored.mem.1.1
        (continued.key.trans (before.stored.mem.1.2.trans loaded.stored.mem.1.2.symm))
      have empty := loaded.version.2 ▸ loaded.first running
      have grows := continued.revision
      rw [one, empty] at grows
      exact Nat.le_zero.mp grows
    | releasing _ _ present =>
      rcases present with other | other <;> rw [other] at ready <;> cases ready
    | confirmed _ absent =>
      rw [absent] at ready
      cases ready

/-- No operation follows a release. -/
theorem Journal.closed (journal : Journal db) (sound : Sound db) (later : Journal after)
    (persists : Persists db after) (member : o ∈ db .sandboxOperations)
    (release : o.kind = .release) :
    journalOf after o.sandboxBindingID = journalOf db o.sandboxBindingID := by
  obtain ⟨q, request, key⟩ := sound.operation_request member
  obtain ⟨q', request', continued⟩ := persists.requests q request
  have key' : q'.sandboxBindingID = o.sandboxBindingID := continued.key.trans key
  have same : q'.operationRevision = q.operationRevision :=
    (later.last o (persists.operations.subset member) release q' request' key').symm.trans
      (journal.last o member release q request key)
  have before := congrArg List.length (journal.contiguous q request)
  have now := congrArg List.length (later.contiguous q' request')
  rw [List.length_map, List.length_range', key] at before
  rw [List.length_map, List.length_range', key', same] at now
  have grown : journalOf db o.sandboxBindingID <+: journalOf after o.sandboxBindingID :=
    persists.operations.filter _
  exact (grown.eq_of_length (before.trans now.symm)).symm

end Releases

/-! ### The guarantee -/

namespace Sample.Sandboxes

def digest : Digest := ⟨0⟩
def platform : Platform :=
  { tenantID := ID.v7 1, sha256 := fun _ => digest, rfc3339 := fun _ => ""
    canonicalRequest := fun _ => some "" }

def image : String :=
  "image@sha256:0000000000000000000000000000000000000000000000000000000000000000"

def runtime : Session.RuntimeBinding where
  raw :=
    { authorityMode := some .localAuthority, authorityNamespace := "local", agentID := "agent"
      agentVersionID := "1", runtimeSpecSchemaVersion := "1"
      runtimeSpec := "\x7b\"image\":\x7b\"reference\":\"" ++ image ++ "\"\x7d," ++
        "\"entrypoint\":\x7b\"command\":[\"run\"],\"working_directory\":\"\"," ++
        "\"shutdown_grace_seconds\":0\x7d," ++
        "\"platform\":\x7b\"architectures\":[\"amd64\"]\x7d\x7d"
      runtimeSpecDigest := some digest, runtimeProfileSchemaVersion := "1"
      runtimeProfileSnapshot := "\x7b\x7d", runtimeProfileDigest := some digest }
  valid := by decide +kernel

def session : SessionRow :=
  { id := ID.v7 2, state := .active, stateVersion := 2, executionGeneration := 1
    binding := runtime, recoveryState := none, createdAt := 1, updatedAt := 2, closedAt := none
    currentExecutionID := some (ID.v7 3), currentCheckpointID := none }

def executionBinding : Execution.Binding where
  raw :=
    { sessionID := ID.v7 2, sessionGeneration := 1, authorityMode := some .localAuthority
      authorityNamespace := "local", authorityReference := "grant", externalRunID := none
      grantDigest := some digest, agentID := "agent", agentVersionID := "1"
      agentEvidence := "\x7b\x7d", agentEvidenceDigest := some digest }
  session := by decide +kernel
  generation := by decide
  valid := by decide +kernel

def execution : Execution :=
  { id := ID.v7 3, binding := executionBinding, deadline := 100, state := .materializing
    stateVersion := 1, terminalResult := none, createdAt := 2, updatedAt := 2, terminalAt := none }

def attempt : Attempt :=
  { id := ID.v7 4, binding := { executionID := ID.v7 3, executionGeneration := 1, number := 1 }
    state := .pending, stateVersion := 0, current := true, sandboxReference := none
    harnessReference := none, sandboxHeartbeatAt := none, harnessHeartbeatAt := none
    terminalResult := none, createdAt := 2, updatedAt := 2, terminalAt := none }

def profile : Sandbox.Profile :=
  { isolationClass := "container-standard"
    resources :=
      { cpu := ⟨1, 1⟩, memory := ⟨1, 1⟩, ephemeralStorage := ⟨1, 1⟩, gpuCount := 0,
        gpuClasses := [] }
    network :=
      { profile := "none", defaultDenyIngress := true, defaultDenyEgress := true
        denyCloudMetadata := true, denyKubernetesAPI := true }
    gpuAllowed := false
    security :=
      { privileged := false, runAsNonRoot := true, readOnlyRootFilesystem := true
        allowPrivilegeEscalation := false, serviceAccountToken := false, hostNetwork := false
        hostPID := false, hostIPC := false, hostPaths := false, runtimeSockets := false
        linuxCapabilitiesAdd := [] }
    providerKind := "agent-sandbox", terminationGraceSeconds := 30, document := "\x7b\x7d" }

def request : Sandbox.AcquireRequest :=
  { scope :=
      { sessionID := ID.v7 2, executionID := ID.v7 3, attemptID := ID.v7 4, sandboxID := ID.v7 5
        generation := 1, attemptOrdinal := 1 }
    operation := ⟨ID.v7 6, some digest⟩
    runtime := { image, architecture := "amd64", entrypoint := ["run"] }
    profile := profile, profileDigest := some digest, implementationDigest := some digest
    workspace :=
      { reference := "volume", workspaceID := ID.v7 20, generation := 1, mountPath := "/workspace"
        readOnly := false }
    bootstrapReference := "bootstrap", deadline := 100 }

def resolution : ProfileResolutionRow :=
  { executionID := ID.v7 3, canonicalResolution := "\x7b\x7d", profile := some profile
    resolutionDigest := digest, implementationDigest := digest }

/-- An ACTIVE Session whose first Attempt waits for compute. -/
def admitted : Db := fun
  | .sessions => [session]
  | .executions => [execution]
  | .attempts => [attempt]
  | .runtimeProfileResolutions => [resolution]
  | t => Db.empty t

theorem admitted_pristine : Pristine admitted :=
  ⟨by decide +kernel, by decide +kernel⟩

/-- All readings of a transaction at one instant. -/
def at_ (now : Time) : Clock := { transaction := now, reading := fun _ => now }

def reservation : Transaction Sandbox.Binding :=
  reserve platform 10
    { now := 10, handoffNow := 10, verifyLocalBinding := fun _ _ _ => none } request

def binding : SandboxBindingRow := requestedBinding request digest digest 10

def work : Reconciliation.Work :=
  { id := ID.v7 5, targetID := ID.v7 5, ownerID := none, kind := "sandbox.reconcile"
    targetType := "sandbox", lastErrorCode := none, state := .pending, attempts := 0
    claimFence := 0, nextAttemptAt := 10, claimExpiresAt := none, completedAt := none
    createdAt := 10, updatedAt := 10 }

/-- The sandbox is reserved. -/
def reservedRows : Db := fun
  | .attempts => [bindAttempt (ID.v7 5) 10 attempt]
  | .sandboxBindings => [binding]
  | .sandboxBindingRequests => [requestRow request]
  | .reconciliationWork => [work]
  | t => admitted t

def reserved : Db := leaving 10 reservation admitted reservedRows

def reservationEvaluated : Evaluated 10 reservation admitted where
  store := reservedRows
  evaluates := by decide +kernel

theorem reservation_evaluates : evaluatesTo 10 reservation admitted reservedRows = true :=
  reservationEvaluated.evaluates

theorem reserved_eq : reserved = reservedRows :=
  leaving_eq admitted_pristine.sound reservation_evaluates reserve_submits rfl rfl

def boundBinding : SandboxBindingRow := bindTo "uid" 11 binding

def binds : Transaction Unit := bindReference platform 11 (ID.v7 5) "uid"

/-- The provider's resource is bound. -/
def boundRows : Db := fun
  | .sandboxBindings => [boundBinding]
  | t => reservedRows t

def bound : Db := leaving 11 binds reserved boundRows

theorem binds_evaluates : evaluatesTo 11 binds reserved boundRows = true := by
  decide +kernel

theorem bound_eq : bound = boundRows := by
  refine leaving_eq (sound_leaving admitted_pristine.sound reservation_evaluates)
    binds_evaluates bindReference_submits rfl ?_
  exact congrFun reserved_eq.symm .outboxMessages

def unverified : Sandbox.EffectiveFacts :=
  { isolationClass := "", image := "", architecture := "", resourceDigest := ""
    networkClass := "", attachmentReference := "", verified := false }

/-- The compute is gone. -/
def missing : Sandbox.ComputeObservation :=
  { state := .unknown, code := "BOUND_COMPUTE_MISSING", converged := false
    recoveryRequired := true, effective := unverified }

def recoveryIDs : RecoveryIDs :=
  { recovery := ID.v7 7, event := ID.v7 8, operation := ID.v7 9 }

def loss : Transaction Unit :=
  recordCompute platform (at_ 12) recoveryIDs
    (runningIntent (requestRow request) boundBinding true) missing

def lostBinding : SandboxBindingRow :=
  releaseOn ⟨ID.v7 9, digest⟩ 12 (observeOn platform missing 12 boundBinding)

def lostRequest : SandboxBindingRequestRow := { requestRow request with operationRevision := 1 }

def recoveryWork : Reconciliation.Work :=
  { work with
    id := ID.v7 7, kind := "sandbox.recover", lastErrorCode := some "BOUND_COMPUTE_MISSING"
    nextAttemptAt := 12, createdAt := 12, updatedAt := 12 }

def lossPayload : String :=
  "\x7b\"previous_state\":\"ACTIVE\",\"reason_code\":\"BOUND_COMPUTE_MISSING\"," ++
    "\"recovery_required\":true,\"sandbox_id\":\"00000000-0000-7000-8000-000000000005\"," ++
    "\"state\":\"DEGRADED\"\x7d"

/-- The loss of the compute degraded the Session and journalled the release. -/
def lostRows : Db := fun
  | .sessions => [degrade 12 session]
  | .sandboxBindings => [lostBinding]
  | .sandboxBindingRequests => [lostRequest]
  | .sandboxOperations => [releaseEntry platform 12 (ID.v7 5) (ID.v7 9) 1]
  | .cleanupIntents => [pendingCleanup platform 12 ⟨request, some "uid"⟩ (ID.v7 9) false digest]
  | .reconciliationWork => [work, recoveryWork]
  | .runtimeEventStreams => [{ sessionID := ID.v7 2, lastSequence := 1, updatedAt := 12 }]
  | .runtimeEvents => [(scopeSubject request.scope "session" (ID.v7 2)).event (ID.v7 8) 1 3
      .sessionDegraded .isInternal lossPayload "runtime-control" 12]
  | t => reservedRows t

def lost : Db := leaving 12 loss bound lostRows

def lossEvaluated : Evaluated 12 loss boundRows where
  store := lostRows
  evaluates := by decide +kernel

theorem loss_evaluates : evaluatesTo 12 loss bound lostRows = true :=
  bound_eq ▸ lossEvaluated.evaluates

def absent : Sandbox.ComputeObservation :=
  { state := .released, code := "COMPUTE_ABSENT", converged := true, recoveryRequired := false
    effective := unverified }

def releaseIntent (row : SandboxBindingRow) : Sandbox.ComputeIntent :=
  releasedIntent lostRequest row false ⟨ID.v7 9, digest⟩ true

def removal : Transaction Unit :=
  recordCompute platform (at_ 13) recoveryIDs (releaseIntent lostBinding) absent

def removedBinding : SandboxBindingRow := observeOn platform absent 13 lostBinding

/-- The resource is gone and its removal is confirmed. -/
def removedRows : Db := fun
  | .sandboxBindings => [removedBinding]
  | .cleanupIntents => [confirmCleanup 13
      (pendingCleanup platform 12 ⟨request, some "uid"⟩ (ID.v7 9) false digest)]
  | t => lostRows t

def removed : Db := leaving 13 removal lost removedRows

def removalEvaluated : Evaluated 13 removal lost where
  store := removedRows
  evaluates := by decide +kernel

theorem removal_evaluates : evaluatesTo 13 removal lost removedRows = true :=
  removalEvaluated.evaluates

/-- Stores that the lifecycle reaches, under the conditions of `rule`. -/
structure Reaches (rule : Discipline) (db : Db) : Prop where
  run : Relation.ReflTransGen (LifecycleStep platform rule) admitted db
  sound : Sound db
  settled : Settled db

/-- An evaluated call is a step. -/
theorem Reaches.step {α : Type} {now : Time} {x : Transaction α} {db store : Db}
    (reaches : Reaches rule db) (call : Call platform rule db now x)
    (evaluated : evaluatesTo now x db store = true) : Reaches rule (leaving now x db store) := by
  obtain ⟨result, committed⟩ := commits_of_evaluatesTo reaches.sound evaluated
  have settled := deferred_ok.mp (Rules.commit_ok.mp committed).2
  exact ⟨reaches.run.tail ⟨α, now, x, result, call, committed⟩,
    commit_sound reaches.sound committed, settled⟩

theorem reaches_reserved (rule : Discipline) : Reaches rule reserved := by
  have start : Reaches rule admitted := ⟨.refl, admitted_pristine.sound, by decide +kernel⟩
  have call : Call platform rule admitted 10 reservation := .reserve 10 _ request
  exact start.step call reservation_evaluates

theorem reaches_bound (rule : Discipline) : Reaches rule bound := by
  have call : Call platform rule reserved 11 binds := .bindReference 11 (ID.v7 5) "uid"
  exact (reaches_reserved rule).step call binds_evaluates

theorem unused_bound : Unused bound recoveryIDs.operation := by
  unfold Unused
  decide +kernel

theorem unused_lost : Unused lost recoveryIDs.operation := by
  unfold Unused
  decide +kernel

theorem reaches_lost (observes : rule.observes bound (ID.v7 5) .unknown) : Reaches rule lost := by
  have call : Call platform rule bound 12 loss :=
    .recordCompute (at_ 12) recoveryIDs _ missing unused_bound observes fun _ => nofun
  exact (reaches_bound rule).step call loss_evaluates

theorem reaches_removed (observes : rule.observes bound (ID.v7 5) .unknown)
    (absence : rule.observes lost (ID.v7 5) .released) : Reaches rule removed := by
  have call : Call platform rule lost 13 removal :=
    .recordCompute (at_ 13) recoveryIDs _ absent unused_lost absence nofun
  exact (reaches_lost observes).step call removal_evaluates

end Sample.Sandboxes

end ThinkPixelAR.Guarantees
