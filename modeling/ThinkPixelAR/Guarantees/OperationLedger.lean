import ThinkPixelAR.Relational.Runs
import ThinkPixelAR.App.ProcessControl

/-!
The operation ledger of agentd over every sequence of `execute` calls, overlapping or not.
An entry is reserved before its operation is invoked and overwritten with the outcome
after it, so an operation identifier is spent whatever happens in between.
-/
namespace ThinkPixelAR.App

open Control Relational
open ControlRun (leave proceed)

variable {id : String} {operations : AList fun _ : String => CommandResult} {result : CommandResult}

section Ledger
variable {lib : Library} {settings : ProcessSettings}

/-! ### The parts of a call -/

namespace ProcessControl

/-- The switch leaves the ledger alone, and of the control only a first START sets the
handle. -/
theorem dispatch_control (lib : Library) (settings : ProcessSettings) (f : Envelope) (c : Command)
    (id : String) (p : ProcessControl) :
    (∃ operation, p.dispatch lib settings f c id = (p, .invoke operation) ∧ operation ≠ .start) ∨
      (p.handle = "" ∧ p.dispatch lib settings f c id =
        ({ p with handle := f.harnessHandle }, .invoke .start)) ∨
      (∃ failed, p.dispatch lib settings f c id = (p, .settle failed)) ∨
      p.dispatch lib settings f c id = (p, .returns (reservation f)) := by
  unfold dispatch
  split
  · split
    · exact .inr (.inr (.inl ⟨_, rfl⟩))
    · rename_i unset
      exact .inr (.inl ⟨not_not.mp unset, rfl⟩)
  · split
    · exact .inr (.inr (.inl ⟨_, rfl⟩))
    · split
      · exact .inr (.inr (.inl ⟨_, rfl⟩))
      · exact .inl ⟨_, rfl, by simp⟩
  · exact .inr (.inr (.inl ⟨_, rfl⟩))
  · split
    · exact .inr (.inr (.inl ⟨_, rfl⟩))
    · exact .inl ⟨_, rfl, by simp⟩
  · split
    · exact .inr (.inr (.inl ⟨_, rfl⟩))
    · split
      · exact .inl ⟨_, rfl, by simp⟩
      · exact .inl ⟨_, rfl, by simp⟩
  · split
    · exact .inr (.inr (.inl ⟨_, rfl⟩))
    · exact .inl ⟨_, rfl, by simp⟩
  · exact .inr (.inr (.inr rfl))

/-- The outcome is recorded under the digest of the frame, or the reservation stays. -/
theorem conclude_spec (settings : ProcessSettings) (f : Envelope) (failed : Bool)
    (status : ProcessStatus)
    (thread : ThreadStarted) (p : ProcessControl) :
    p.conclude settings f failed status thread = (p, reservation f) ∨
      ∃ result, result.digest = f.requestDigest ∧
        p.conclude settings f failed status thread =
          ({ p with operations := p.operations.insert f.operationID result }, result) := by
  unfold conclude
  split
  · exact .inl rfl
  · exact .inr ⟨outcome settings f failed status thread, rfl, rfl⟩

/-- The control with the operation of a frame reserved. -/
def reserved (p : ProcessControl) (f : Envelope) : ProcessControl :=
  { p with operations := p.operations.insert f.operationID (reservation f) }

end ProcessControl

open ProcessControl

/-- The handle of an accepted command is not empty. -/
theorem handle_of_checked {now : Int} {f : Envelope}
    (passes : checkCommand lib settings now f = true) : f.harnessHandle ≠ "" := by
  intro empty
  simp only [checkCommand, accepts, Bool.and_eq_true] at passes
  cases command : f.getCommand with
  | none => simp [command] at passes
  | some c =>
    have parsed : Handshake.isID f.harnessHandle = true := by
      simp only [command, Bool.and_eq_true] at passes
      exact passes.2.1.1.2
    rw [empty] at parsed
    simp [Handshake.isID] at parsed

/-! ### One event -/

/-- What an event can do to the control and its calls. -/
inductive Serves (s : ControlRun) : ControlRun → Prop
  | idle : Serves s s
  | overlaps (call : Nat) (f : Envelope) :
      Serves s { s with returned := s.returned ++ [⟨call, f, true, false, .failure⟩] }
  | enters (call : Nat) (f : Envelope) (free : s.operation = none) :
      Serves s { s with operation := some ⟨call, f, false⟩ }
  | refuses (held : HeldCall) (holds : s.operation = some held) (waiting : held.waiting = false) :
      Serves s (s.leave held false (s.control, .failure))
  | replays (held : HeldCall) (holds : s.operation = some held) (waiting : held.waiting = false)
      (old : CommandResult)
      (recorded : s.control.operations.lookup held.frame.operationID = some old) :
      Serves s (s.leave held true
        (s.control, if old.digest ≠ held.frame.requestDigest then .failure else old))
  | full (held : HeldCall) (holds : s.operation = some held) (waiting : held.waiting = false)
      (fresh : s.control.operations.lookup held.frame.operationID = none)
      (bound : 128 ≤ s.control.operations.keys.length) :
      Serves s (s.leave held true (s.control, .failure))
  | settles (held : HeldCall) (holds : s.operation = some held) (waiting : held.waiting = false)
      (fresh : s.control.operations.lookup held.frame.operationID = none)
      (room : s.control.operations.keys.length < 128) (result : CommandResult)
      (digest : result.digest = held.frame.requestDigest) :
      Serves s (s.leave held true
        ({ s.control with
          operations := s.control.operations.insert held.frame.operationID result }, result))
  | invokes (held : HeldCall) (holds : s.operation = some held) (waiting : held.waiting = false)
      (fresh : s.control.operations.lookup held.frame.operationID = none)
      (room : s.control.operations.keys.length < 128) (operation : ProcessOperation)
      (handle : String)
      (once : (operation ≠ .start ∧ handle = s.control.handle) ∨
        (operation = .start ∧ s.control.handle = "" ∧ handle ≠ "")) :
      Serves s
        { s with
          control := { s.control.reserved held.frame with handle := handle }
          operation := some { held with waiting := true }
          invoked := s.invoked ++ [(held.frame.operationID, operation)] }
  | finishes (held : HeldCall) (holds : s.operation = some held) (waiting : held.waiting = true)
      (result : CommandResult) (digest : result.digest = held.frame.requestDigest)
      (operations : AList fun _ : String => CommandResult)
      (recorded : operations = s.control.operations ∧ result = reservation held.frame ∨
        operations = s.control.operations.insert held.frame.operationID result) :
      Serves s
        (s.leave held true ({ s.control with operations := operations }, result))

theorem ControlRun.proceed_serves (s : ControlRun) (held : HeldCall)
    (holds : s.operation = some held) (waiting : held.waiting = false) (now : Int) (id : String)
    (status : ProcessStatus) :
    Serves s (s.proceed lib settings held now id status) := by
  unfold proceed prepare
  cases passes : checkCommand lib settings now held.frame with
  | false => exact .refuses held holds waiting
  | true =>
    simp only [Bool.not_true, Bool.false_eq_true, if_false]
    cases recorded : s.control.operations.lookup held.frame.operationID with
    | some old => exact .replays held holds waiting old recorded
    | none =>
      by_cases bound : 128 ≤ s.control.operations.keys.length
      · simp only [if_pos bound]
        exact .full held holds waiting recorded bound
      · simp only [if_neg bound]
        have room : s.control.operations.keys.length < 128 := Nat.lt_of_not_le bound
        -- an unknown kind returns the reservation itself
        have returned : Serves s
            (s.leave held true (s.control.reserved held.frame, reservation held.frame)) :=
          .settles held holds waiting recorded room (reservation held.frame) rfl
        cases command : held.frame.getCommand with
        | none => exact returned
        | some c =>
          rcases (s.control.reserved held.frame).dispatch_control lib settings held.frame c id with
            ⟨operation, invoked, other⟩ | ⟨unset, started⟩ | ⟨failed, settled⟩ | unknown
          · simp only [reserved] at invoked
            simp only [invoked]
            exact .invokes held holds waiting recorded room operation _ (.inl ⟨other, rfl⟩)
          · simp only [reserved] at started
            simp only [started]
            exact .invokes held holds waiting recorded room .start _
              (.inr ⟨rfl, unset, handle_of_checked passes⟩)
          · simp only [reserved] at settled
            simp only [settled]
            rcases (s.control.reserved held.frame).conclude_spec settings held.frame failed status
              .zero with kept | ⟨result, digest, concluded⟩
            · simp only [reserved] at kept
              simp only [kept]
              exact returned
            · simp only [reserved, AList.insert_insert] at concluded
              simp only [concluded]
              exact .settles held holds waiting recorded room result digest
          · simp only [reserved] at unknown
            simp only [unknown]
            exact returned

theorem ControlRun.step_serves (s : ControlRun) (e : ControlEvent) :
    Serves s (s.step lib settings e) := by
  cases e with
  | enter call f =>
    simp only [step]
    split
    · exact .overlaps call f
    · rename_i free
      exact .enters call f free
  | proceed now id status =>
    simp only [step]
    split
    · rename_i held holds
      split
      · exact .idle
      · rename_i waiting
        exact s.proceed_serves held holds (Bool.not_eq_true _ ▸ waiting) now id status
    · exact .idle
  | finish failed status thread =>
    simp only [step]
    split
    · rename_i held holds
      split
      · rename_i waiting
        rcases s.control.conclude_spec settings held.frame failed status thread with
          kept | ⟨result, digest, concluded⟩
        · rw [kept]
          exact .finishes held holds waiting _ rfl s.control.operations (.inl ⟨rfl, rfl⟩)
        · rw [concluded]
          exact .finishes held holds waiting result digest _ (.inr rfl)
      · exact .idle
    · exact .idle

/-! ### What every call keeps -/

/-- The call got the mutex, its frame passed the check, and it names the operation. -/
def ReturnedCall.answers (operationID : String) (r : ReturnedCall) : Bool :=
  !r.overlapped && r.passed && r.frame.operationID = operationID

/-- The first such call that returned. -/
def ControlRun.first (s : ControlRun) (operationID : String) : Option ReturnedCall :=
  s.returned.find? (ReturnedCall.answers operationID)

structure Ledger (s : ControlRun) : Prop where
  bounded : s.control.operations.keys.length ≤ 128
  once : (s.invoked.map Prod.fst).Nodup
  recorded : ∀ entry ∈ s.invoked, entry.1 ∈ s.control.operations
  starts : (s.invoked.filter (·.2 = .start)).length ≤ 1
  started : s.control.handle = "" → s.invoked.filter (·.2 = .start) = []
  /-- The call that waits has its reservation in the ledger and is the first of its operation. -/
  waiting : ∀ held, s.operation = some held → held.waiting = true →
    s.control.operations.lookup held.frame.operationID = some (reservation held.frame) ∧
      s.first held.frame.operationID = none
  /-- An entry has its first call, unless that one still waits. -/
  known : ∀ id ∈ s.control.operations, s.first id = none →
    ∃ held, s.operation = some held ∧ held.waiting = true ∧ held.frame.operationID = id
  /-- The first call of an operation returned its entry, or found the ledger full. -/
  answered : ∀ id first, s.first id = some first →
    (s.control.operations.lookup id = some first.result ∧
      first.result.digest = first.frame.requestDigest) ∨
    (s.control.operations.lookup id = none ∧ 128 ≤ s.control.operations.keys.length ∧
      first.result = .failure)

theorem Ledger.new : Ledger .new where
  bounded := Nat.zero_le _
  once := List.nodup_nil
  recorded _ member := absurd member List.not_mem_nil
  starts := Nat.zero_le _
  started _ := rfl
  waiting _ holds := nomatch holds
  known _ member := absurd member (AList.notMem_empty _)
  answered _ _ found := nomatch found

/-- A call that answers nothing for the operation leaves its first call what it was. -/
theorem first_append {s : ControlRun} {r : ReturnedCall} :
    (s.returned ++ [r]).find? (ReturnedCall.answers id) =
      (s.first id).or (if r.answers id then some r else none) := by
  rw [List.find?_append, List.find?_singleton]
  rfl

section Keeps
variable {s : ControlRun} {held : HeldCall}

/-- Any entry has its first call while no call waits. -/
theorem Ledger.first_of_mem (ledger : Ledger s) (holds : s.operation = some held)
    (waiting : held.waiting = false) (member : id ∈ s.control.operations) : s.first id ≠ none := by
  intro none
  obtain ⟨other, holds', waits, -⟩ := ledger.known id member none
  rw [holds] at holds'
  cases holds'
  simp [waiting] at waits

/-- An operation that is not in a ledger with room has had no call. -/
theorem Ledger.first_of_fresh (ledger : Ledger s) (fresh : s.control.operations.lookup id = none)
    (room : s.control.operations.keys.length < 128) : s.first id = none := by
  cases found : s.first id with
  | none => rfl
  | some first =>
    rcases ledger.answered id first found with ⟨entry, -⟩ | ⟨-, bound, -⟩
    · simp [fresh] at entry
    · omega

theorem length_insert_fresh (fresh : operations.lookup id = none) :
    (operations.insert id result).keys.length = operations.keys.length + 1 := by
  have absent : id ∉ operations.keys := AList.lookup_eq_none.mp fresh
  rw [AList.keys_insert, List.erase_of_not_mem absent, List.length_cons]

theorem length_insert_present {old : CommandResult} (present : operations.lookup id = some old) :
    (operations.insert id result).keys.length = operations.keys.length := by
  have member : id ∈ operations.keys := by
    by_contra absent
    simp [AList.lookup_eq_none.mpr absent] at present
  rw [AList.keys_insert, List.length_cons, List.length_erase_of_mem member]
  have positive := List.length_pos_of_mem member
  omega

/-- A call that answers for no operation changes nothing the ledger depends on. -/
theorem Ledger.unanswered (ledger : Ledger s) {r : ReturnedCall}
    (silent : ∀ id, r.answers id = false)
    {operation : Option HeldCall}
    (held : ∀ h, operation = some h → h.waiting = true → s.operation = some h)
    (kept : ∀ h, s.operation = some h → h.waiting = true → operation = some h) :
    Ledger { s with operation := operation, returned := s.returned ++ [r] } := by
  have same (id : String) : ControlRun.first
      { s with operation := operation, returned := s.returned ++ [r] } id = s.first id := by
    rw [ControlRun.first, first_append]
    simp [silent id]
  exact { ledger with
    waiting := fun h holds waits => by
      rw [same]
      exact ledger.waiting h (held h holds waits) waits
    known := fun id member none => by
      rw [same] at none
      obtain ⟨h, holds, waits, names⟩ := ledger.known id member none
      exact ⟨h, kept h holds waits, waits, names⟩
    answered := fun id first found => by
      rw [same] at found
      exact ledger.answered id first found }

theorem first_leave {control : ProcessControl} (id : String) :
    (s.leave held true (control, result)).first id = (s.first id).or
      (if held.frame.operationID = id then some ⟨held.call, held.frame, false, true, result⟩
        else none) := by
  rw [ControlRun.first, leave, first_append]
  simp [ReturnedCall.answers]

/-- The call of an operation that has its first call already returns, and nothing else
changes. -/
theorem Ledger.again (ledger : Ledger s) (holds : s.operation = some held)
    (waiting : held.waiting = false) (answered : s.first held.frame.operationID ≠ none)
    (result : CommandResult) : Ledger (s.leave held true (s.control, result)) := by
  have same (id : String) : (s.leave held true (s.control, result)).first id = s.first id := by
    rw [first_leave]
    split
    next mine =>
      obtain ⟨first, found⟩ := Option.ne_none_iff_exists'.mp answered
      rw [← mine, found]
      rfl
    next => exact Option.or_none
  exact { ledger with
    waiting := fun _ holds => nomatch holds
    known := fun id member none => by
      rw [same] at none
      exact absurd none (ledger.first_of_mem holds waiting member)
    answered := fun id first found => by
      rw [same] at found
      exact ledger.answered id first found }

/-- The first call of an operation returns the entry it leaves. -/
theorem Ledger.concluded (ledger : Ledger s) (digest : result.digest = held.frame.requestDigest)
    (unanswered : s.first held.frame.operationID = none)
    (others : ∀ id ∈ s.control.operations, id ≠ held.frame.operationID → s.first id ≠ none)
    (bounded : operations.keys.length ≤ 128)
    (lookup : operations.lookup held.frame.operationID = some result)
    (elsewhere : ∀ id, id ≠ held.frame.operationID →
      operations.lookup id = s.control.operations.lookup id)
    (full : 128 ≤ s.control.operations.keys.length → 128 ≤ operations.keys.length) :
    Ledger (s.leave held true ({ s.control with operations := operations }, result)) := by
  have mine : (s.leave held true ({ s.control with operations := operations }, result)).first
      held.frame.operationID = some ⟨held.call, held.frame, false, true, result⟩ := by
    rw [first_leave, unanswered, if_pos rfl]
    rfl
  have other {id : String} (ne : id ≠ held.frame.operationID) :
      (s.leave held true ({ s.control with operations := operations }, result)).first id =
        s.first id := by
    rw [first_leave, if_neg ne.symm, Option.or_none]
  have mem_iff {id : String} (ne : id ≠ held.frame.operationID) :
      id ∈ operations ↔ id ∈ s.control.operations := by
    rw [← AList.lookup_isSome, ← AList.lookup_isSome, elsewhere id ne]
  have present : held.frame.operationID ∈ operations := by
    rw [← AList.lookup_isSome, lookup]
    rfl
  exact { ledger with
    bounded := bounded
    recorded := fun entry member => by
      by_cases same : entry.1 = held.frame.operationID
      · exact same ▸ present
      · exact (mem_iff same).mpr (ledger.recorded entry member)
    waiting := fun _ holds => nomatch holds
    known := fun id member none => by
      by_cases same : id = held.frame.operationID
      · subst same
        simp [mine] at none
      · rw [other same] at none
        exact absurd none (others id ((mem_iff same).mp member) same)
    answered := fun id first found => by
      by_cases same : id = held.frame.operationID
      · subst same
        rw [mine] at found
        cases found
        exact .inl ⟨lookup, digest⟩
      · rw [other same] at found
        rcases ledger.answered id first found with ⟨entry, stamped⟩ | ⟨absent, bound, failed⟩
        · exact .inl ⟨(elsewhere id same).trans entry, stamped⟩
        · exact .inr ⟨(elsewhere id same).trans absent, full bound, failed⟩ }

/-- A ledger without an entry for the operation, and full: the first call fails. -/
theorem Ledger.refused (ledger : Ledger s) (holds : s.operation = some held)
    (waiting : held.waiting = false)
    (fresh : s.control.operations.lookup held.frame.operationID = none)
    (bound : 128 ≤ s.control.operations.keys.length) :
    Ledger (s.leave held true (s.control, .failure)) := by
  by_cases answered : s.first held.frame.operationID = none
  case neg => exact ledger.again holds waiting answered .failure
  have mine : (s.leave held true (s.control, .failure)).first held.frame.operationID =
      some ⟨held.call, held.frame, false, true, .failure⟩ := by
    rw [first_leave, answered, if_pos rfl]
    rfl
  have other {id : String} (ne : id ≠ held.frame.operationID) :
      (s.leave held true (s.control, .failure)).first id = s.first id := by
    rw [first_leave, if_neg ne.symm, Option.or_none]
  exact { ledger with
    waiting := fun _ holds => nomatch holds
    known := fun id member none => by
      have ne : id ≠ held.frame.operationID := fun same =>
        AList.lookup_eq_none.mp fresh (same ▸ member)
      rw [other ne] at none
      exact absurd none (ledger.first_of_mem holds waiting member)
    answered := fun id first found => by
      by_cases same : id = held.frame.operationID
      · subst same
        rw [mine] at found
        cases found
        exact .inr ⟨fresh, bound, rfl⟩
      · rw [other same] at found
        exact ledger.answered id first found }

/-- An operation is invoked for a fresh entry only, and START only without a handle. -/
theorem Ledger.invoked (ledger : Ledger s) (holds : s.operation = some held)
    (waiting : held.waiting = false)
    (fresh : s.control.operations.lookup held.frame.operationID = none)
    (room : s.control.operations.keys.length < 128) {operation : ProcessOperation}
    {handle : String} (once : (operation ≠ .start ∧ handle = s.control.handle) ∨
      (operation = .start ∧ s.control.handle = "" ∧ handle ≠ "")) :
    Ledger { s with
      control := { s.control.reserved held.frame with handle := handle }
      operation := some { held with waiting := true }
      invoked := s.invoked ++ [(held.frame.operationID, operation)] } := by
  have absent : held.frame.operationID ∉ s.control.operations := AList.lookup_eq_none.mp fresh
  have elsewhere {id : String} (ne : id ≠ held.frame.operationID) :
      (s.control.reserved held.frame).operations.lookup id = s.control.operations.lookup id :=
    AList.lookup_insert_ne ne
  exact {
    bounded := by
      rw [reserved, length_insert_fresh fresh]
      omega
    once := by
      rw [List.map_append, List.map_singleton, List.nodup_append]
      refine ⟨ledger.once, List.nodup_singleton _, ?_⟩
      intro a member b last
      obtain ⟨entry, listed, rfl⟩ := List.mem_map.mp member
      rw [List.mem_singleton.mp last]
      intro same
      have present := ledger.recorded entry listed
      rw [show entry.1 = held.frame.operationID from same] at present
      exact absent present
    recorded := fun entry member => by
      rcases List.mem_append.mp member with earlier | last
      · exact (AList.mem_insert _).mpr (.inr (ledger.recorded entry earlier))
      · rw [List.mem_singleton.mp last]
        exact (AList.mem_insert _).mpr (.inl rfl)
    starts := by
      rw [List.filter_append]
      rcases once with ⟨other, -⟩ | ⟨start, unset, -⟩
      · simpa [other] using ledger.starts
      · simp [ledger.started unset, start]
    started := fun empty => by
      rcases once with ⟨other, same⟩ | ⟨-, -, set⟩
      · rw [List.filter_append, ledger.started (same ▸ empty)]
        simp [other]
      · exact absurd empty set
    waiting := fun h holds' _ => by
      cases holds'
      exact ⟨AList.lookup_insert _, ledger.first_of_fresh fresh room⟩
    known := fun id member none => by
      rcases (AList.mem_insert _).mp member with rfl | earlier
      · exact ⟨_, rfl, rfl, rfl⟩
      · exact absurd none (ledger.first_of_mem holds waiting earlier)
    answered := fun id first found => by
      have ne : id ≠ held.frame.operationID := by
        rintro rfl
        exact nomatch found.symm.trans (ledger.first_of_fresh fresh room)
      rcases ledger.answered id first found with ⟨entry, stamped⟩ | ⟨-, bound, -⟩
      · exact .inl ⟨(elsewhere ne).trans entry, stamped⟩
      · omega }

theorem Ledger.step (ledger : Ledger s) {t : ControlRun} (serves : Serves s t) : Ledger t := by
  cases serves with
  | idle => exact ledger
  | overlaps call f =>
    exact ledger.unanswered (fun _ => rfl) (fun _ same _ => same) (fun _ same _ => same)
  | enters call f free =>
    exact { ledger with
      waiting := fun h holds waits => by
        cases holds
        cases waits
      known := fun id member none => by
        obtain ⟨h, holds, -⟩ := ledger.known id member none
        rw [free] at holds
        cases holds }
  | refuses held holds waiting =>
    refine ledger.unanswered (fun _ => rfl) (fun _ never => nomatch never) fun h holds' waits => ?_
    rw [holds] at holds'
    cases holds'
    rw [waiting] at waits
    cases waits
  | replays held holds waiting old recorded =>
    have member : held.frame.operationID ∈ s.control.operations := by
      rw [← AList.lookup_isSome, recorded]
      rfl
    exact ledger.again holds waiting (ledger.first_of_mem holds waiting member) _
  | full held holds waiting fresh bound => exact ledger.refused holds waiting fresh bound
  | settles held holds waiting fresh room result digest =>
    refine ledger.concluded digest (ledger.first_of_fresh fresh room)
      (fun id member _ => ledger.first_of_mem holds waiting member) ?_ (AList.lookup_insert _)
      (fun id ne => AList.lookup_insert_ne ne) (fun bound => ?_)
    · rw [length_insert_fresh fresh]
      omega
    · omega
  | invokes held holds waiting fresh room operation handle once =>
    exact ledger.invoked holds waiting fresh room once
  | finishes held holds waiting result digest operations recorded =>
    obtain ⟨entry, unanswered⟩ := ledger.waiting held holds waiting
    have others : ∀ id ∈ s.control.operations, id ≠ held.frame.operationID → s.first id ≠ none := by
      intro id member ne none
      obtain ⟨h, holds', -, names⟩ := ledger.known id member none
      rw [holds] at holds'
      cases holds'
      exact ne names.symm
    rcases recorded with ⟨rfl, rfl⟩ | rfl
    · exact ledger.concluded digest unanswered others ledger.bounded entry (fun _ _ => rfl) id
    · refine ledger.concluded digest unanswered others ?_ (AList.lookup_insert _)
        (fun id ne => AList.lookup_insert_ne ne) (fun bound => ?_)
      · rw [length_insert_present entry]
        exact ledger.bounded
      · rw [length_insert_present entry]
        exact bound

/-- Once set, the handle stays. -/
theorem Serves.handle {t : ControlRun} (serves : Serves s t) (set : s.control.handle ≠ "") :
    t.control.handle = s.control.handle := by
  cases serves with
  | invokes held holds waiting fresh room operation handle once =>
    rcases once with ⟨-, same⟩ | ⟨-, unset, -⟩
    · exact same
    · exact absurd unset set
  | _ => rfl

end Keeps

/-! ### Every sequence of calls -/

/-- What holds of the control after any events. -/
structure OperationLedger (lib : Library) (settings : ProcessSettings) (s : ControlRun) : Prop where
  /-- An operation identifier causes at most one invocation. -/
  once : ∀ id, (s.invoked.filter (·.1 = id)).length ≤ 1
  starts : (s.invoked.filter (·.2 = .start)).length ≤ 1
  /-- The handle, once set, never changes. -/
  handle : s.control.handle ≠ "" → ∀ later,
    (run (ControlRun.step lib settings) s later).control.handle = s.control.handle
  /-- A call that overlaps the held one fails, and only its return is added. -/
  overlaps : ∀ held call f, s.operation = some held → s.step lib settings (.enter call f) =
    { s with returned := s.returned ++ [⟨call, f, true, false, .failure⟩] }
  /-- A later call of an operation returns what its first call returned, or fails if the
  digest differs; either way the control stays as it is and nothing is invoked. -/
  replays : ∀ held first now id status, s.operation = some held → held.waiting = false →
    checkCommand lib settings now held.frame = true →
    s.first held.frame.operationID = some first →
    s.step lib settings (.proceed now id status) = s.leave held true (s.control,
      if held.frame.requestDigest = first.frame.requestDigest then first.result else .failure)
  bounded : s.control.operations.keys.length ≤ 128

theorem Ledger.replays {s : ControlRun} (ledger : Ledger s) {held : HeldCall} {first : ReturnedCall}
    {now : Int} {status : ProcessStatus} (holds : s.operation = some held)
    (waiting : held.waiting = false) (passes : checkCommand lib settings now held.frame = true)
    (found : s.first held.frame.operationID = some first) :
    s.step lib settings (.proceed now id status) = s.leave held true (s.control,
      if held.frame.requestDigest = first.frame.requestDigest then first.result else .failure) := by
  simp only [ControlRun.step, holds, waiting, Bool.false_eq_true, if_false, proceed,
    prepare, passes, Bool.not_true]
  rcases ledger.answered _ first found with ⟨entry, stamped⟩ | ⟨absent, bound, failed⟩
  · simp only [entry, stamped, ne_eq, ite_not, eq_comm]
  · simp only [absent, if_pos bound, failed, ite_self]

/-- After any calls of `execute`, overlapping or not, an operation identifier has caused at most
one invocation, and a later call of it is answered from the ledger. -/
theorem operation_ledger (lib : Library) (settings : ProcessSettings) (events : List ControlEvent) :
    OperationLedger lib settings (run (ControlRun.step lib settings) .new events) := by
  have ledger : Ledger (run (ControlRun.step lib settings) .new events) :=
    run_invariant (fun s e before => before.step (s.step_serves e)) Ledger.new events
  exact {
    once := fun id => by
      have single := List.nodup_iff_count_le_one.mp ledger.once id
      rw [List.count, List.countP_map, List.countP_eq_length_filter] at single
      simpa only [Function.comp_def, beq_eq_decide] using single
    starts := ledger.starts
    handle := fun set later => by
      have steps (s : ControlRun) (e : ControlEvent) (_ : True) (set : s.control.handle ≠ "") :
          (s.step lib settings e).control.handle = s.control.handle := (s.step_serves e).handle set
      exact run_relates (P := fun _ => True)
        (R := fun s t : ControlRun => s.control.handle ≠ "" → t.control.handle = s.control.handle)
        (fun _ _ => rfl)
        (fun first second set => (second ((first set).symm ▸ set)).trans (first set))
        (fun _ _ _ => trivial) steps trivial later set
    overlaps := fun held call f holds => by simp only [ControlRun.step, holds]
    replays := fun held first now id status holds waiting passes found =>
      ledger.replays holds waiting passes found
    bounded := ledger.bounded }

end Ledger

namespace ControlSample

def settings : ProcessSettings := ⟨"c", false, false⟩

def start : Envelope :=
  { Envelope.of (.command ⟨.start, "c", capability, [], ""⟩) with
    harnessHandle := "00000000-0000-7000-8000-000000000001"
    operationID := "00000000-0000-7000-8000-000000000002"
    requestDigest := "d"
    sentUnixMS := 1
    deadlineUnixMS := 9 }

/-- A START, a copy of it while the first waits, and a copy after it. -/
def calls : List ControlEvent :=
  [.enter 1 start, .proceed 5 "" .zero, .enter 2 start, .finish false .zero .zero, .enter 3 start,
    .proceed 6 "" .zero]

end ControlSample

open ControlSample in
example :
    ((run (ControlRun.step (.constant "d") settings) .new calls).invoked.map Prod.snd,
      (run (ControlRun.step (.constant "d") settings) .new calls).returned.map
        fun r => (r.call, r.overlapped, r.result.failed)) =
    ([.start], [(2, true, true), (1, false, false), (3, false, false)]) := by
  decide +kernel

end ThinkPixelAR.App
