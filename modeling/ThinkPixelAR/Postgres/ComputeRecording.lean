import ThinkPixelAR.Postgres.ComputeEffects

/-!
When an observation is recorded: the statements of `RecordCompute` keep every key and
reference, so only its comparison with the loaded intent, the clock and the counters
can refuse an observation that calls for no recovery.
-/
namespace ThinkPixelAR.Postgres

open Relational

variable {id : ID} {db : Db} {q : SandboxBindingRequestRow} {row : SandboxBindingRow}

/-! ### Accepted observations -/

section Accepted
variable {platform : Platform} {observed : Sandbox.ComputeObservation} {now : Time}
  {selects : SandboxBindingRow → Bool} {chosen : CleanupIntentRow → Bool}

/-- An observation leaves keys and references as they are. -/
theorem sound_observeOn (sound : Sound db)
    (range : ∀ b ∈ db .sandboxBindings, selects b = true → b.stateVersion < maxInt64)
    (code : boundedString 255 observed.code = true)
    (started : ∀ b ∈ db .sandboxBindings, selects b = true → b.createdAt ≤ now) :
    Sound (Function.update db .sandboxBindings
      (updated selects (observeOn platform observed now) (db .sandboxBindings))) := by
  refine sound.rewritten (fun row member => ?_) (fun row member => ?_) ?_ fun u => ?_
  · obtain ⟨old, present, ⟨selected, rfl⟩ | ⟨-, rfl⟩⟩ := mem_updated.mp member
    · have before := sound.range _ old present
      have below := range old present selected
      simp only [inRange, bigints, List.all_cons, List.all_nil, Bool.and_eq_true,
        decide_eq_true_eq] at before ⊢
      exact ⟨below, before.2⟩
    · exact sound.range _ _ present
  · obtain ⟨old, present, ⟨selected, rfl⟩ | ⟨-, rfl⟩⟩ := mem_updated.mp member
    · have before := sound.check _ old present
      have after := started old present selected
      simp only [checks, sandboxBindingCheck, Bool.and_eq_true] at before ⊢
      obtain ⟨⟨⟨identity, -⟩, -⟩, -⟩ := before
      refine ⟨⟨⟨identity, code⟩, ?_⟩, decide_eq_true after⟩
      simp [observeOn, after]
    · exact sound.check _ _ present
  · have before := sound.key .sandboxBindings
    simp only [keys, Function.update_self, Bool.and_eq_true, unique_iff, uniqueWhere_iff]
      at before ⊢
    obtain ⟨⟨id, attempt⟩, reference⟩ := before
    exact ⟨⟨.updated (fun _ => rfl) (fun _ => rfl) id,
      .updated (fun _ => rfl) (fun _ => rfl) attempt⟩,
      .updated (fun _ => rfl) (fun _ => rfl) reference⟩
  · have before := sound.foreign u
    cases u <;> simp (disch := decide) only [foreignKeys, Function.update_of_ne,
      Function.update_self, Bool.and_eq_true, references_iff] at before ⊢
    case sandboxBindings =>
      obtain ⟨⟨session, execution⟩, attempt⟩ := before
      exact ⟨⟨session.updated_children fun _ _ _ => rfl,
        execution.updated_children fun _ _ _ => rfl⟩, attempt.updated_children fun _ _ _ => rfl⟩
    case harnessBindings => exact ⟨before.1, before.2.updated_parents fun _ => rfl⟩
    case sandboxReplacements =>
      exact ⟨before.1.updated_parents fun _ => rfl, before.2.updated_parents fun _ => rfl⟩
    all_goals first
      | exact before
      | exact before.updated_parents fun _ => rfl

theorem settled_observeOn (settled : Settled db) : Settled (Function.update db .sandboxBindings
    (updated selects (observeOn platform observed now) (db .sandboxBindings))) := by
  intro u
  have before := settled u
  cases u <;> simp (disch := decide) only [deferredForeignKeys, Function.update_of_ne,
    Function.update_self, Bool.and_eq_true, references_iff] at before ⊢
  case attempts => exact ⟨before.1.updated_parents fun _ => rfl, before.2⟩
  all_goals exact before

/-- The confirmation of a cleanup leaves keys as they are; nothing refers to it. -/
theorem sound_confirmCleanup (sound : Sound db)
    (range : ∀ c ∈ db .cleanupIntents, chosen c = true →
      c.stateVersion < maxInt64 ∧ c.attempts < maxInt64)
    (pending : ∀ c ∈ db .cleanupIntents, chosen c = true → c.state = .pending)
    (started : ∀ c ∈ db .cleanupIntents, chosen c = true → c.createdAt ≤ now) :
    Sound (Function.update db .cleanupIntents
      (updated chosen (confirmCleanup now) (db .cleanupIntents))) := by
  refine sound.rewritten (fun row member => ?_) (fun row member => ?_) ?_ fun u => ?_
  · obtain ⟨old, present, ⟨selected, rfl⟩ | ⟨-, rfl⟩⟩ := mem_updated.mp member
    · have below := range old present selected
      simpa [inRange, bigints, confirmCleanup, Nat.add_one_le_iff] using below
    · exact sound.range _ _ present
  · obtain ⟨old, present, ⟨selected, rfl⟩ | ⟨-, rfl⟩⟩ := mem_updated.mp member
    · have before := sound.check _ old present
      have after := started old present selected
      simp only [checks, cleanupCheck, pending old present selected, Bool.and_eq_true] at before
      obtain ⟨⟨⟨target, -⟩, -⟩, -, quarantined⟩ := before
      simp [checks, cleanupCheck, confirmCleanup, target, after, quarantined]
    · exact sound.check _ _ present
  · have before := sound.key .cleanupIntents
    simp only [keys, Function.update_self, Bool.and_eq_true, unique_iff] at before ⊢
    obtain ⟨⟨id, operation⟩, target⟩ := before
    exact ⟨⟨.updated (fun _ => rfl) (fun _ => rfl) id,
      .updated (fun _ => rfl) (fun _ => rfl) operation⟩,
      .updated (fun _ => rfl) (fun _ => rfl) target⟩
  · have before := sound.foreign u
    cases u <;> simp (disch := decide) only [foreignKeys, Function.update_of_ne] at before ⊢
    all_goals exact before

theorem settled_confirmCleanup (settled : Settled db) : Settled (Function.update db .cleanupIntents
    (updated chosen (confirmCleanup now) (db .cleanupIntents))) := by
  intro u
  have before := settled u
  cases u <;> simp (disch := decide) only [deferredForeignKeys, Function.update_of_ne] at before ⊢
  all_goals exact before

end Accepted

/-! ### How recording ends -/

/-- The error is not the conflict of a changed fence. -/
def NotConflict (e : Error) : Prop := e.is Sandbox.errConflict = false

theorem notConflict_fault (f : Fault) : NotConflict f.error := rfl

theorem notConflict_wrap (operation : String) (f : Fault) :
    NotConflict (wrap operation f.error) := by
  obtain ⟨state, message⟩ := f
  cases state <;> rfl

section Fails
variable {platform : Platform} {clock : Clock} {txNow now : Time} {ids : RecoveryIDs}
  {intent expected current : Sandbox.ComputeIntent} {observed : Sandbox.ComputeObservation}

theorem raises_exec {s : Stmt} : (exec s).Raises NotConflict :=
  .bind (Tx.raises_perform.mpr notConflict_fault) fun _ => Tx.raises_pure

theorem appendWithEnvelope_raises {subject : EventSubject} {version : Nat}
    {kind : RuntimeEvent.Kind} {payload : Json} :
    (appendWithEnvelope platform txNow subject id version kind payload now).Raises NotConflict := by
  unfold appendWithEnvelope
  refine .bind ?_ fun sequence => .bind ?_ fun event => .bind ?_ fun _ => raises_exec
  · unfold allocateSequence
    rw [Tx.raises_get_bind]
    intro db
    refine .bind (Tx.raises_onlyIf.mpr fun _ => raises_exec) fun _ => ?_
    rw [Tx.raises_get_bind]
    exact fun db => .bind (Tx.raises_expect.mpr fun _ => rfl) fun _ => Tx.raises_pure
  · rw [Tx.raises_lift]
    intro e failed
    unfold RuntimeEvent.create at failed
    split at failed <;> cases failed
    rfl
  · exact .bind (Tx.raises_perform.mpr fun f => notConflict_wrap _ f) fun _ => Tx.raises_pure

theorem recordRecoveryEvent_raises {eventID : ID} {code : String} {degraded : Bool}
    {version : Nat} : (recordRecoveryEvent platform txNow intent eventID code degraded version
      now).Raises NotConflict := by
  unfold recordRecoveryEvent
  dsimp only
  split <;> exact appendWithEnvelope_raises

theorem recordComputeRecovery_raises {code : String} :
    (recordComputeRecovery platform txNow ids intent code now).Raises NotConflict := by
  unfold recordComputeRecovery
  rw [Tx.raises_get_bind]
  intro db
  refine .bind (Tx.raises_onlyIf.mpr fun _ => raises_exec) fun _ => ?_
  split
  · exact .bind raises_exec fun _ => Tx.raises_onlyIf.mpr fun _ => recordRecoveryEvent_raises
  · rw [Tx.raises_onlyIf]
    intro _
    rw [Tx.raises_get_bind]
    refine fun db => .bind raises_exec fun _ => .bind recordRecoveryEvent_raises fun _ => ?_
    rw [Tx.raises_onlyIf]
    intro _
    unfold journalRelease
    refine .bind (Tx.raises_expect.mpr fun _ => rfl) fun proof => .bind raises_exec fun _ => ?_
    exact .bind raises_exec fun _ => .bind raises_exec fun _ => raises_exec

/-- An observation of the loaded intent is not refused as a conflict. -/
theorem recordCompute_unconflicted
    (loaded : ComputeLoaded platform clock.transaction db expected.binding.request.scope.sandboxID q
      row current) (same : sameIntent current expected = true)
    (may : mayRecord current expected observed = true) {e : Error}
    (failed : (rules clock.transaction).commit Fault.error
      (recordCompute platform clock ids expected observed) db = .error e) : NotConflict e := by
  have load : (loadCompute platform clock.transaction expected.binding.request.scope.sandboxID).run
      (rules clock.transaction).execute db = .ok (current, db) :=
    run_loadCompute.mpr ⟨rfl, q, row, loaded⟩
  rcases Rules.commit_error failed with failed | ⟨fault, rfl⟩
  · simp only [recordCompute, Tx.run_bind_error, Tx.run_lift] at failed
    rcases failed with invalid | ⟨_, _, ⟨-, rfl⟩, refused | ⟨found, d0, again, failed⟩⟩
    · refine Tx.run_raises (Tx.raises_lift.mpr fun e invalid => ?_) invalid
      unfold validObservation at invalid
      repeat' split at invalid
      all_goals cases invalid
      all_goals rfl
    · cases refused.symm.trans load
    · cases again.symm.trans load
      -- Only the two comparisons raise the conflict, and both succeed.
      rcases failed with differs | ⟨_, _, -, denied | ⟨_, _, -, unfit | ⟨_, _, -, refused | later⟩⟩⟩
      · exact Tx.run_raises (Tx.raises_require.mpr fun changed => (changed same).elim) differs
      · exact Tx.run_raises (Tx.raises_require.mpr fun fenced => (fenced may).elim) denied
      · have fine : NotConflict Sandbox.errIntegrity := rfl
        exact Tx.run_raises (Tx.raises_require.mpr fun _ => fine) unfit
      · exact Tx.run_raises raises_exec refused
      · obtain ⟨_, _, -, failed⟩ := later
        refine Tx.run_raises (E := NotConflict) ?_ failed
        split
        · exact recordComputeRecovery_raises
        · exact Tx.raises_onlyIf.mpr fun _ => raises_exec
  · exact notConflict_fault fault

/-- What an observation needs of the clock and of the counters: the rows it rewrites
are not younger than the reading and have versions left. -/
structure Recordable (db : Db) (id : ID) (now : Time) : Prop where
  binding : ∀ b ∈ db .sandboxBindings, b.id = id → b.stateVersion < maxInt64 ∧ b.createdAt ≤ now
  cleanup : ∀ c ∈ db .cleanupIntents, c.ownerID = id →
    c.stateVersion < maxInt64 ∧ c.attempts < maxInt64 ∧ c.createdAt ≤ now

/-- The store after the binding of the sandbox was observed. -/
def observedStore (platform : Platform) (observed : Sandbox.ComputeObservation) (now : Time)
    (id : ID) (db : Db) : Db :=
  Function.update db .sandboxBindings
    (updated (·.id = id) (observeOn platform observed now) (db .sandboxBindings))

theorem execute_observeOn (sound : Sound db) (recordable : Recordable db id now)
    (code : boundedString 255 observed.code = true) :
    ∃ n, (rules txNow).execute (.update .sandboxBindings (·.id = id)
        (observeOn platform observed now)) db =
      .ok (n, observedStore platform observed now id db) := by
  refine ⟨_, Rules.execute_update.mpr ⟨fun old _ _ => ?_, rfl, immediate_ok.mpr ?_, rfl⟩⟩
  · simp [rules, updateTrigger, rejectSandboxBindingIdentityChange, observeOn, keepsOperation,
      except_seq_ok]
  · refine sound_observeOn sound (fun b present key => ?_) code fun b present key => ?_
    · exact (recordable.binding b present (of_decide_eq_true key)).1
    · exact (recordable.binding b present (of_decide_eq_true key)).2

/-- The release that an observation of absence confirms. -/
def confirms (operationID id : ID) (c : CleanupIntentRow) : Bool :=
  c.cleanupOperationID = operationID && c.ownerType = "sandbox-binding" && c.ownerID = id &&
    c.state = .pending

theorem execute_confirmCleanup {operationID : ID} (sound : Sound db)
    (recordable : ∀ c ∈ db .cleanupIntents, c.ownerID = id →
      c.stateVersion < maxInt64 ∧ c.attempts < maxInt64 ∧ c.createdAt ≤ now) :
    ∃ n, (rules txNow).execute (.update .cleanupIntents (confirms operationID id)
        (confirmCleanup now)) db =
      .ok (n, Function.update db .cleanupIntents
        (updated (confirms operationID id) (confirmCleanup now) (db .cleanupIntents))) := by
  have chosen : ∀ c, confirms operationID id c = true → c.ownerID = id ∧ c.state = .pending := by
    intro c selected
    simp only [confirms, Bool.and_eq_true, decide_eq_true_eq] at selected
    exact ⟨selected.1.2, selected.2⟩
  refine ⟨_, Rules.execute_update.mpr ⟨fun old _ selected => ?_, rfl, immediate_ok.mpr ?_, rfl⟩⟩
  · show enforceCleanupIntentMutation old (confirmCleanup now old) = .ok ()
    simp only [enforceCleanupIntentMutation, except_seq_ok, refuse_ok, not_not]
    exact ⟨rfl, (chosen old selected).2, by simp [confirmCleanup]⟩
  · refine sound_confirmCleanup sound (fun c present selected => ?_)
      (fun c _ selected => (chosen c selected).2) fun c present selected => ?_
    · have counters := recordable c present (chosen c selected).1
      exact ⟨counters.1, counters.2.1⟩
    · exact (recordable c present (chosen c selected).1).2.2

/-- What remains of an observation that calls for no recovery, once it is compared. -/
theorem run_recordCompute {after : Db} {n : Nat}
    (loaded : ComputeLoaded platform clock.transaction db expected.binding.request.scope.sandboxID q
      row current) (same : sameIntent current expected = true)
    (may : mayRecord current expected observed = true) (valid : validObservation observed = .ok ())
    (fits : fitsDesired current.desired observed.state = true)
    (plain : observed.recoveryRequired = false)
    (observes : (rules clock.transaction).execute (.update .sandboxBindings
        (·.id = expected.binding.request.scope.sandboxID)
        (observeOn platform observed (clock.reading 0))) db =
      .ok (n, observedStore platform observed (clock.reading 0)
        expected.binding.request.scope.sandboxID db))
    (last : (Tx.onlyIf (observed.state = .released) (exec (.update .cleanupIntents
        (confirms current.operation.id expected.binding.request.scope.sandboxID)
        (confirmCleanup (clock.reading 0))))).run (rules clock.transaction).execute
        (observedStore platform observed (clock.reading 0)
          expected.binding.request.scope.sandboxID db) = .ok ((), after)) :
    (recordCompute platform clock ids expected observed).run (rules clock.transaction).execute db =
      .ok ((), after) := by
  have load : (loadCompute platform clock.transaction expected.binding.request.scope.sandboxID).run
      (rules clock.transaction).execute db = .ok (current, db) :=
    run_loadCompute.mpr ⟨rfl, q, row, loaded⟩
  simp only [recordCompute, Tx.run_bind, Tx.run_lift, Tx.run_require, run_exec]
  refine ⟨(), _, ⟨valid, rfl⟩, _, _, load, (), _, ⟨same, rfl⟩, (), _, ⟨may, rfl⟩, (), _,
    ⟨fits, rfl⟩, (), _, ⟨n, observes⟩, ?_⟩
  rw [plain]
  exact last

/-- An observation of the loaded intent that calls for no recovery is recorded. -/
theorem recordCompute_commits (sound : Sound db) (settled : Settled db)
    (loaded : ComputeLoaded platform clock.transaction db expected.binding.request.scope.sandboxID q
      row current) (same : sameIntent current expected = true)
    (may : mayRecord current expected observed = true) (valid : validObservation observed = .ok ())
    (code : boundedString 255 observed.code = true)
    (fits : fitsDesired current.desired observed.state = true)
    (plain : observed.recoveryRequired = false)
    (recordable : Recordable db expected.binding.request.scope.sandboxID (clock.reading 0)) :
    ∃ after, (rules clock.transaction).commit Fault.error
        (recordCompute platform clock ids expected observed) db = .ok ((), after) ∧
      observeOn platform observed (clock.reading 0) row ∈ after .sandboxBindings := by
  obtain ⟨-, member, owner⟩ := loaded.stored.mem
  obtain ⟨n, observes⟩ : ∃ n, (rules clock.transaction).execute (.update .sandboxBindings
      (·.id = expected.binding.request.scope.sandboxID)
      (observeOn platform observed (clock.reading 0))) db = .ok (n, observedStore platform observed
        (clock.reading 0) expected.binding.request.scope.sandboxID db) :=
    execute_observeOn sound recordable code
  have between : Settled (observedStore platform observed (clock.reading 0)
      expected.binding.request.scope.sandboxID db) := settled_observeOn settled
  have written : observeOn platform observed (clock.reading 0) row ∈ observedStore platform observed
      (clock.reading 0) expected.binding.request.scope.sandboxID db .sandboxBindings := by
    rw [observedStore, Function.update_self]
    exact mem_updated.mpr ⟨row, member, .inl ⟨decide_eq_true owner, rfl⟩⟩
  by_cases absent : observed.state = .released
  · obtain ⟨k, confirmed⟩ : ∃ k, (rules clock.transaction).execute (.update .cleanupIntents
        (confirms current.operation.id expected.binding.request.scope.sandboxID)
        (confirmCleanup (clock.reading 0))) _ = .ok (k, _) :=
      execute_confirmCleanup (execute_sound observes) recordable.cleanup
    have ran : (recordCompute platform clock ids expected observed).run _ db = .ok ((), _) :=
      run_recordCompute loaded same may valid fits plain observes
        (Tx.run_onlyIf.mpr (.inl ⟨absent, run_exec.mpr ⟨k, confirmed⟩⟩))
    refine ⟨_, Rules.commit_ok.mpr ⟨ran, deferred_ok.mpr (settled_confirmCleanup between)⟩, ?_⟩
    exact written
  · have ran : (recordCompute platform clock ids expected observed).run _ db = .ok ((), _) :=
      run_recordCompute loaded same may valid fits plain observes
        (Tx.run_onlyIf.mpr (.inr ⟨absent, rfl⟩))
    exact ⟨_, Rules.commit_ok.mpr ⟨ran, deferred_ok.mpr between⟩, written⟩

end Fails

end ThinkPixelAR.Postgres
