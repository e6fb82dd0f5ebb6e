import ThinkPixelAR.Relational.Traces
import ThinkPixelAR.App.AgentdServer

/-!
Command dispatch of the server over every sequence of ticks, received frames, stored
outcomes and send results: plan order, one command in flight, gapless sequences, and one
acknowledgement for each accepted report, unless no identifier can be drawn for it.
-/
namespace ThinkPixelAR.App

open Control Relational
open ServerSession (serve receive correlate tick rotate)
open ServerLoop (mark stop)

variable {c : PlannedCommand} {g : Envelope} {trace marks : List ServerMark} {m : ServerMark}
  {t : ServerLoop}

/-! ### Reading a trace -/

/-- A received frame acknowledges the operation. -/
def ServerMark.acknowledges (operationID : String) : ServerMark → Bool
  | .received g => g.getAcknowledgement.isSome && g.operationID = operationID
  | _ => false

/-- The frames handed to `Send`, in order. -/
def ServerMark.frame : ServerMark → Option Envelope
  | .handed f _ => some f
  | _ => none

/-- The report an acknowledgement names: its message and its sequence. -/
def ServerMark.acknowledged : ServerMark → Option (String × Nat)
  | .handed f _ => f.getAcknowledgement.map fun a => (a.messageID, a.acceptedSequence)
  | _ => none

/-- A report that `Observe` accepted. -/
def ServerMark.observed : ServerMark → Option (String × Nat)
  | .accepted f => some (f.messageID, f.sequence)
  | _ => none

def ServerLoop.frames (s : ServerLoop) : List Envelope := s.trace.filterMap ServerMark.frame

/-- The entry of the plan was acknowledged in the session or is stored as ACKNOWLEDGED. -/
def SettledEntry (trace : List ServerMark) (entry : Nat) (c : PlannedCommand) : Prop :=
  (∃ m ∈ trace, m.acknowledges c.operationID) ∨ .read entry .acknowledged ∈ trace

/-- What has happened when a command is handed to `Send`. -/
structure CommandHanded (session : ServerSession) (before : List ServerMark) (f : Envelope)
    (entry : Nat) : Prop where
  planned : ∃ c, session.plan[entry]? = some c ∧ f.operationID = c.operationID ∧
    f.requestDigest = session.requestDigest c ∧ f.harnessHandle = c.harnessHandle ∧
    ∃ command, f.getCommand = some command ∧ command.kind = c.kind ∧ command.payload = c.payload
  /-- Only earlier entries were sent before. -/
  order : ∀ g j, .handed g (some j) ∈ before → j < entry
  /-- Every earlier entry is settled. -/
  settled : ∀ j < entry, ∀ c, session.plan[j]? = some c → SettledEntry before j c
  /-- Every command sent before was acknowledged after it was sent. -/
  answered : ∀ earlier g j later, before = earlier ++ .handed g (some j) :: later →
    ∃ m ∈ later, m.acknowledges g.operationID

/-- What holds of each mark after the marks before it. -/
def Recorded (session : ServerSession) (before : List ServerMark) : ServerMark → Prop
  | .handed f (some entry) => CommandHanded session before f entry
  | .handed f none => f.getCommand = none
  | .accepted f => f.isReport = true ∧ ∃ rest, before = rest ++ [.received f]
  | _ => True

/-- The frame carries the number of frames handed so far, counted in a `uint64`. -/
def Numbered (before : List ServerMark) : ServerMark → Prop
  | .handed f _ => f.sequence = ((before.filterMap ServerMark.frame).length + 1) % 2 ^ 64
  | _ => True

/-! ### One event -/

/-- What an event can do to a running loop. -/
inductive Moves (session : ServerSession) (s : ServerLoop) : ServerLoop → Prop
  | quiet (marks : List ServerMark) (stopped : Option (Option Error))
      (silent : ∀ m ∈ marks, m.frame = none ∧ m.observed = none) :
      Moves session s { s with stopped := stopped, trace := s.trace ++ marks }
  | settled (c : PlannedCommand) (idle : s.pending = "")
      (planned : session.plan[s.index]? = some c) :
      Moves session s
        { s with index := s.index + 1, trace := s.trace ++ [.read s.index .acknowledged] }
  | sent (c : PlannedCommand) (idle : s.pending = "")
      (planned : session.plan[s.index]? = some c) (identified : c.operationID ≠ "")
      (now at_ : Int) (id : String) (pending : String) (stopped : Option (Option Error))
      (awaited : stopped = none → pending = c.operationID) :
      Moves session s
        { sequence := increment s.sequence, index := s.index, pending := pending
          stopped := stopped
          trace := s.trace ++ [.handed (session.complete (session.commandFrame c now) id
            (increment s.sequence) at_) (some s.index)] }
  | rotated (g : Envelope) (reply : Rotation) (at_ : Int) (id : String) (error : Option Error) :
      Moves session s
        { s with
          sequence := increment s.sequence
          stopped := some error
          trace := s.trace ++ [.received g, .handed (session.complete
            (Envelope.of (.rotation reply)) id (increment s.sequence) at_) none] }
  | acknowledged (g : Envelope) (known : g.operationID = s.pending) (awaited : s.pending ≠ "")
      (acknowledges : g.getAcknowledgement.isSome) :
      Moves session s
        { s with index := s.index + 1, pending := "", trace := s.trace ++ [.received g] }
  | reported (g : Envelope) (report : g.isReport = true) (at_ : Int) (id : String)
      (stopped : Option (Option Error)) :
      Moves session s
        { s with
          sequence := increment s.sequence
          stopped := stopped
          trace := s.trace ++ [.received g, .accepted g, .handed (session.complete
            (Envelope.of (.acknowledgement ⟨g.messageID, "", g.sequence, 0⟩)) id
            (increment s.sequence) at_) none] }
  | unreported (g : Envelope) (report : g.isReport = true) (error : Option Error) :
      Moves session s
        { s with
          stopped := some error
          trace := s.trace ++ [.received g, .accepted g, .undrawn] }

namespace ServerSession
variable {session : ServerSession} {s : ServerLoop}

/-- An accepted command has an operation identifier. -/
theorem operation_of_accepts {lib : Library} {now : Int} {f : Envelope} {configuration : String}
    (accepted : accepts lib now f configuration = true) : f.operationID ≠ "" := by
  intro empty
  cases command : f.getCommand with
  | none => simp [accepts, command] at accepted
  | some c =>
    simp only [accepts, command, Bool.and_eq_true] at accepted
    have parsed := accepted.1.2
    rw [empty] at parsed
    simp [Handshake.isID] at parsed

theorem quiet_stop (error : Option Error) : Moves session s (s.stop error) := by
  have moves : Moves session s { s with stopped := some error, trace := s.trace ++ [] } :=
    .quiet [] (some error) (fun _ none => nomatch none)
  rwa [List.append_nil] at moves

theorem quiet_idle : Moves session s s := by
  have moves : Moves session s { s with stopped := s.stopped, trace := s.trace ++ [] } :=
    .quiet [] s.stopped (fun _ none => nomatch none)
  rwa [List.append_nil] at moves

theorem dispatch_moves (idle : s.pending = "") (planned : session.plan[s.index]? = some c)
    (now : Int) (answer : SendAnswer) : Moves session s (session.dispatch s c now answer) := by
  unfold dispatch
  split
  · exact quiet_stop _
  · rename_i accepted
    have passes :
        accepts session.lib now (session.commandFrame c now) c.configurationDigest = true := by
      simpa using accepted
    have identified : c.operationID ≠ "" := operation_of_accepts passes
    unfold send
    cases drawn : answer.id with
    | none => exact .quiet [.undrawn] _ (by simp [ServerMark.frame, ServerMark.observed])
    | some id =>
      cases failed : answer.error with
      | some error =>
        exact .sent c idle planned identified now answer.now id s.pending _
          (fun none => nomatch none)
      | none =>
        exact .sent c idle planned identified now answer.now id c.operationID s.stopped fun _ => rfl

theorem tick_moves (outcome : OutcomeRead) (now : Int) (answer : SendAnswer) :
    Moves session s (session.tick s outcome now answer) := by
  unfold tick
  split
  · exact quiet_idle
  · rename_i pending
    have idle : s.pending = "" := not_not.mp pending
    split
    · exact quiet_idle
    · rename_i c planned
      cases outcome with
      | found outcome =>
        by_cases acknowledged : outcome = .acknowledged
        · subst acknowledged
          exact .settled c idle planned
        · simp only [ne_eq, acknowledged, not_false_eq_true, if_true]
          exact .quiet [.read s.index outcome] _ (by simp [ServerMark.frame, ServerMark.observed])
      | unavailable => exact quiet_stop _
      | notFound => exact dispatch_moves idle planned now answer

/-- The frame was received and nothing was handed to `Send`. -/
theorem quiet_received (g : Envelope) (stopped : Option (Option Error)) :
    Moves session s { s.mark (.received g) with stopped := stopped } :=
  .quiet [.received g] stopped (by simp [ServerMark.frame, ServerMark.observed])

theorem rotate_moves (g : Envelope) (rotated : Option Rotation) (answer : SendAnswer) :
    Moves session s (session.rotate (s.mark (.received g)) rotated answer) := by
  unfold rotate
  split
  · exact quiet_received g _
  · cases rotated with
    | none => exact quiet_received g _
    | some reply =>
      simp only [send]
      cases drawn : answer.id with
      | none =>
        have moves : Moves session s { s with
            stopped := some (some errSession), trace := s.trace ++ [.received g, .undrawn] } :=
          .quiet _ _ (by simp [ServerMark.frame, ServerMark.observed])
        simpa [mark, stop] using moves
      | some id =>
        have moves : Moves session s _ := .rotated g reply answer.now id answer.error
        simpa [mark, stop] using moves

theorem report_moves (g : Envelope) (observed : Bool) (answer : SendAnswer) :
    Moves session s (session.report (s.mark (.received g)) g observed answer) := by
  unfold report
  split
  · rename_i isReport
    split
    · exact quiet_received g _
    · simp only [send]
      cases drawn : answer.id with
      | none =>
        have moves : Moves session s { s with
            stopped := some (some errSession)
            trace := s.trace ++ [.received g, .accepted g, .undrawn] } :=
          .unreported g isReport _
        simpa [mark, stop] using moves
      | some id =>
        cases failed : answer.error with
        | some error =>
          have moves : Moves session s _ :=
            .reported g isReport answer.now id (some (some errSession))
          simpa [mark, stop] using moves
        | none =>
          have moves : Moves session s _ := .reported g isReport answer.now id s.stopped
          simpa [mark, stop] using moves
  · exact quiet_received g s.stopped

theorem isReport_of_acknowledgement (acknowledges : g.getAcknowledgement.isSome) :
    g.isReport = false := by
  unfold Envelope.getAcknowledgement at acknowledges
  unfold Envelope.isReport
  split at acknowledges <;> simp_all

theorem receive_moves (running : s.stopped = none) (g : Envelope) (rotated : Option Rotation)
    (observed : Bool) (answer : SendAnswer) :
    Moves session s (session.receive s g rotated observed answer) := by
  have unstopped : ¬ ((s.mark (.received g)).stopped.isSome = true) := by
    simp [mark, running]
  unfold receive
  simp only
  split
  · exact rotate_moves g rotated answer
  · unfold correlate
    split
    · rename_i correlated
      have parts := Bool.and_eq_true_iff.mp correlated
      have known : g.operationID ≠ "" ∧ g.operationID = s.pending :=
        ⟨of_decide_eq_true parts.1, of_decide_eq_true parts.2⟩
      split
      · exact quiet_received g _
      · split
        · rename_i acknowledges
          have moves : Moves session s { s with
              index := s.index + 1, pending := "", trace := s.trace ++ [.received g] } :=
            .acknowledged g known.2 (known.2 ▸ known.1) acknowledges
          have quiet := isReport_of_acknowledgement acknowledges
          simpa [mark, running, report, quiet] using moves
        · exact report_moves g observed answer
    · exact report_moves g observed answer

theorem step_moves (running : s.stopped = none) (e : ServerEvent) :
    Moves session s (session.step s e) := by
  simp only [step, running, Option.isSome_none, Bool.false_eq_true, if_false]
  cases e with
  | done => exact quiet_stop _
  | tick outcome now answer => exact tick_moves outcome now answer
  | receive g rotated observed answer => exact receive_moves running g rotated observed answer
  | receiveFailed => exact quiet_stop _

/-- A stopped loop takes no event. -/
theorem step_stopped (stopped : s.stopped.isSome) (e : ServerEvent) : session.step s e = s := by
  simp [step, stopped]

end ServerSession

/-! ### What a running loop knows -/

/-- The plan entries below the index are settled, and a command sent before is answered
unless it is the pending one. -/
structure InFlight (session : ServerSession) (s : ServerLoop) : Prop where
  settled : ∀ j < s.index, ∀ c, session.plan[j]? = some c → SettledEntry s.trace j c
  sent : ∀ g j, .handed g (some j) ∈ s.trace → j < s.index ∨ (j = s.index ∧ s.pending ≠ "")
  answered : ∀ earlier g j later, s.trace = earlier ++ .handed g (some j) :: later →
    (∃ m ∈ later, m.acknowledges g.operationID) ∨ (s.pending = g.operationID ∧ s.pending ≠ "")
  pending : s.pending ≠ "" → ∃ c, session.plan[s.index]? = some c ∧ c.operationID = s.pending

section Flight
variable {session : ServerSession} {s : ServerLoop}

theorem SettledEntry.append {j : Nat} (settled : SettledEntry trace j c) (more : List ServerMark) :
    SettledEntry (trace ++ more) j c := by
  rcases settled with ⟨m, member, acknowledges⟩ | member
  · exact .inl ⟨m, List.mem_append_left _ member, acknowledges⟩
  · exact .inr (List.mem_append_left _ member)

theorem InFlight.start : InFlight session .start where
  settled _ below := absurd below (Nat.not_lt_zero _)
  sent _ _ member := nomatch member
  answered earlier _ _ _ split := by simp [ServerLoop.start] at split
  pending awaited := absurd rfl awaited

/-- Marks that are no commands change nothing. -/
theorem InFlight.append (flight : InFlight session s) (plain : ∀ f j, .handed f (some j) ∉ marks)
    (sequence : Nat) (stopped : Option (Option Error)) :
    InFlight session
      { s with sequence := sequence, stopped := stopped, trace := s.trace ++ marks } where
  settled j below c planned := (flight.settled j below c planned).append marks
  sent g j member := by
    rcases List.mem_append.mp member with earlier | later
    · exact flight.sent g j earlier
    · exact absurd later (plain g j)
  answered earlier g j later split := by
    rcases split_append split with ⟨rest, found, rfl⟩ | ⟨rest, -, found⟩
    · refine (flight.answered earlier g j rest found).imp_left ?_
      rintro ⟨m, member, acknowledges⟩
      exact ⟨m, List.mem_append_left _ member, acknowledges⟩
    · exact absurd (found ▸ by simp) (plain g j)
  pending := flight.pending

/-- An outcome stored as ACKNOWLEDGED settles the entry at the index. -/
theorem InFlight.read (flight : InFlight session s) (idle : s.pending = "") :
    InFlight session
      { s with index := s.index + 1, trace := s.trace ++ [.read s.index .acknowledged] } where
  settled j below c planned := by
    rcases Nat.lt_succ_iff_lt_or_eq.mp below with earlier | rfl
    · exact (flight.settled j earlier c planned).append _
    · exact .inr (by simp)
  sent g j member := by
    have earlier : .handed g (some j) ∈ s.trace := by simpa using member
    rcases flight.sent g j earlier with below | ⟨-, awaited⟩
    · exact .inl (Nat.lt_succ_of_lt below)
    · exact absurd idle awaited
  answered earlier g j later split := by
    rcases split_append split with ⟨rest, found, rfl⟩ | ⟨rest, -, found⟩
    · rcases flight.answered earlier g j rest found with ⟨m, member, acks⟩ | ⟨-, awaited⟩
      · exact .inl ⟨m, List.mem_append_left _ member, acks⟩
      · exact absurd idle awaited
    · have member : .handed g (some j) ∈ [ServerMark.read s.index .acknowledged] := found ▸ by simp
      simp at member
  pending awaited := absurd idle awaited

/-- The command at the index is sent and becomes the pending one. -/
theorem InFlight.command (flight : InFlight session s) (idle : s.pending = "")
    (planned : session.plan[s.index]? = some c) (identified : c.operationID ≠ "") {f : Envelope}
    (names : f.operationID = c.operationID) (sequence : Nat) (stopped : Option (Option Error)) :
    InFlight session
      { sequence := sequence, index := s.index, pending := c.operationID, stopped := stopped
        trace := s.trace ++ [.handed f (some s.index)] } where
  settled j below d entry := (flight.settled j below d entry).append _
  sent g j member := by
    rcases List.mem_append.mp member with earlier | last
    · rcases flight.sent g j earlier with below | ⟨-, awaited⟩
      · exact .inl below
      · exact absurd idle awaited
    · simp only [List.mem_singleton, ServerMark.handed.injEq, Option.some.injEq] at last
      exact .inr ⟨last.2, identified⟩
  answered earlier g j later split := by
    rcases split_append split with ⟨rest, found, rfl⟩ | ⟨rest, -, found⟩
    · rcases flight.answered earlier g j rest found with ⟨m, member, acks⟩ | ⟨-, awaited⟩
      · exact .inl ⟨m, List.mem_append_left _ member, acks⟩
      · exact absurd idle awaited
    · have member : .handed g (some j) ∈ [ServerMark.handed f (some s.index)] := found ▸ by simp
      simp only [List.mem_singleton, ServerMark.handed.injEq] at member
      exact .inr ⟨(names.symm.trans (congrArg _ member.1.symm)), identified⟩
  pending _ := ⟨c, planned, rfl⟩

/-- The acknowledgement of the pending command settles it. -/
theorem InFlight.acknowledged (flight : InFlight session s) (known : g.operationID = s.pending)
    (awaited : s.pending ≠ "") (acknowledges : g.getAcknowledgement.isSome) :
    InFlight session
      { s with index := s.index + 1, pending := "", trace := s.trace ++ [.received g] } where
  settled j below c planned := by
    rcases Nat.lt_succ_iff_lt_or_eq.mp below with earlier | rfl
    · exact (flight.settled j earlier c planned).append _
    · obtain ⟨d, entry, names⟩ := flight.pending awaited
      rw [planned] at entry
      cases entry
      exact .inl ⟨.received g, by simp,
        by simp [ServerMark.acknowledges, acknowledges, known, names]⟩
  sent h j member := by
    have earlier : .handed h (some j) ∈ s.trace := by simpa using member
    rcases flight.sent h j earlier with below | ⟨same, -⟩
    · exact .inl (Nat.lt_succ_of_lt below)
    · exact .inl (same ▸ Nat.lt_succ_self _)
  answered earlier h j later split := by
    rcases split_append split with ⟨rest, found, rfl⟩ | ⟨rest, -, found⟩
    · rcases flight.answered earlier h j rest found with ⟨m, member, acks⟩ | ⟨pending, -⟩
      · exact .inl ⟨m, List.mem_append_left _ member, acks⟩
      · exact .inl ⟨.received g, by simp,
          by simp [ServerMark.acknowledges, acknowledges, known, pending]⟩
    · have member : .handed h (some j) ∈ [ServerMark.received g] := found ▸ by simp
      simp at member
  pending nonempty := absurd rfl nonempty

/-- At the time a command is sent. -/
theorem InFlight.handed (flight : InFlight session s) (idle : s.pending = "")
    (planned : session.plan[s.index]? = some c) (now at_ : Int) (id : String) (sequence : Nat) :
    CommandHanded session s.trace
      (session.complete (session.commandFrame c now) id sequence at_) s.index where
  planned := ⟨c, planned, rfl, rfl, rfl, _, rfl, rfl, rfl⟩
  order g j member := (flight.sent g j member).resolve_right fun awaited => awaited.2 idle
  settled := flight.settled
  answered earlier g j later split :=
    (flight.answered earlier g j later split).resolve_right fun awaited => awaited.2 idle

/-! ### What every event keeps -/

/-- The reports accepted are the reports acknowledged, in the same order. -/
def ReportsAnswered (trace : List ServerMark) : Prop :=
  trace.filterMap ServerMark.observed = trace.filterMap ServerMark.acknowledged

/-- The last accepted report got no acknowledgement, for want of an identifier. -/
def LastUndrawn (trace : List ServerMark) : Prop :=
  trace.getLast? = some .undrawn ∧
    ∃ r, trace.filterMap ServerMark.observed = trace.filterMap ServerMark.acknowledged ++ [r]

structure Serving (session : ServerSession) (s : ServerLoop) : Prop where
  recorded : EachAfter (Recorded session) s.trace
  numbered : EachAfter Numbered s.trace
  counted : s.sequence = s.frames.length % 2 ^ 64
  reports : ReportsAnswered s.trace ∨ LastUndrawn s.trace
  inFlight : s.stopped = none → ReportsAnswered s.trace ∧ InFlight session s

theorem Serving.start : Serving session .start where
  recorded := eachAfter_nil
  numbered := eachAfter_nil
  counted := rfl
  reports := .inl rfl
  inFlight _ := ⟨rfl, InFlight.start⟩

theorem ReportsAnswered.append (answered : ReportsAnswered trace) (more : ReportsAnswered marks) :
    ReportsAnswered (trace ++ marks) := by
  unfold ReportsAnswered at *
  rw [List.filterMap_append, List.filterMap_append, answered, more]

/-- A mark that is neither a frame nor an accepted report. -/
def ServerMark.silent (m : ServerMark) : Prop := m.frame = none ∧ m.observed = none

theorem ServerMark.silent.acknowledged (silent : m.silent) : m.acknowledged = none := by
  cases m with
  | handed f entry => exact absurd silent.1 (by simp [ServerMark.frame])
  | _ => rfl

theorem ServerMark.silent.recorded (silent : m.silent) (before : List ServerMark) :
    Recorded session before m := by
  cases m with
  | handed f entry => exact absurd silent.1 (by simp [ServerMark.frame])
  | accepted f => exact absurd silent.2 (by simp [ServerMark.observed])
  | _ => trivial

theorem ServerMark.silent.numbered (silent : m.silent) (before : List ServerMark) :
    Numbered before m := by
  cases m with
  | handed f entry => exact absurd silent.1 (by simp [ServerMark.frame])
  | _ => trivial

theorem reportsAnswered_silent (silent : ∀ m ∈ marks, m.silent) : ReportsAnswered marks := by
  unfold ReportsAnswered
  rw [List.filterMap_eq_nil_iff.mpr fun m member => (silent m member).2,
    List.filterMap_eq_nil_iff.mpr fun m member => (silent m member).acknowledged]

/-- Silent marks, wherever the loop then stands. -/
theorem Serving.silent (serving : Serving session s) (running : s.stopped = none)
    (silent : ∀ m ∈ marks, m.silent) (trace : t.trace = s.trace ++ marks)
    (sequence : t.sequence = s.sequence) (flight : t.stopped = none → InFlight session t) :
    Serving session t := by
  have answered : ReportsAnswered t.trace := by
    rw [trace]
    exact (serving.inFlight running).1.append (reportsAnswered_silent silent)
  have frames : t.frames = s.frames := by
    rw [ServerLoop.frames, trace, List.filterMap_append,
      List.filterMap_eq_nil_iff.mpr fun m member => (silent m member).1, List.append_nil]
    rfl
  exact {
    recorded := by
      rw [trace]
      exact serving.recorded.append_free fun before m member => (silent m member).recorded before
    numbered := by
      rw [trace]
      exact serving.numbered.append_free fun before m member => (silent m member).numbered before
    counted := by
      rw [sequence, frames]
      exact serving.counted
    reports := .inl answered
    inFlight := fun none => ⟨answered, flight none⟩ }

/-- A frame is handed to `Send` under the next number. -/
theorem Serving.hands (serving : Serving session s) (running : s.stopped = none)
    (marks : List ServerMark) (f : Envelope) (entry : Option Nat)
    (unsent : marks.filterMap ServerMark.frame = [])
    (recorded : EachAfter (Recorded session) (s.trace ++ marks ++ [.handed f entry]))
    (numbered : EachAfter Numbered (s.trace ++ marks)) (next : f.sequence = increment s.sequence)
    (more : ReportsAnswered (marks ++ [.handed f entry]))
    (trace : t.trace = s.trace ++ marks ++ [.handed f entry])
    (sequence : t.sequence = increment s.sequence) (flight : t.stopped = none → InFlight session t)
    : Serving session t := by
  have number : increment s.sequence = (s.frames.length + 1) % 2 ^ 64 := by
    rw [serving.counted, increment, Nat.mod_add_mod]
  have before : (s.trace ++ marks).filterMap ServerMark.frame = s.frames := by
    rw [List.filterMap_append, unsent, List.append_nil]
    rfl
  have answered : ReportsAnswered t.trace := by
    rw [trace, List.append_assoc]
    exact (serving.inFlight running).1.append more
  exact {
    recorded := trace ▸ recorded
    numbered := by
      rw [trace]
      refine eachAfter_concat.mpr ⟨numbered, ?_⟩
      rw [Numbered, before, next, number]
    counted := by
      rw [ServerLoop.frames, trace, List.filterMap_append, before, sequence, number]
      simp [ServerMark.frame]
    reports := .inl answered
    inFlight := fun none => ⟨answered, flight none⟩ }

theorem Serving.moves (serving : Serving session s) (running : s.stopped = none)
    (moves : Moves session s t) : Serving session t := by
  have flight := (serving.inFlight running).2
  cases moves with
  | quiet marks stopped silent =>
    have plain (f : Envelope) (j : Nat) : .handed f (some j) ∉ marks := fun member =>
      absurd (silent _ member).1 (by simp [ServerMark.frame])
    exact serving.silent running silent rfl rfl fun _ => flight.append plain s.sequence stopped
  | settled c idle planned =>
    refine serving.silent running ?_ rfl rfl fun _ => flight.read idle
    simp [ServerMark.silent, ServerMark.frame, ServerMark.observed]
  | sent c idle planned identified now at_ id pending stopped awaited =>
    refine serving.hands running []
      (session.complete (session.commandFrame c now) id (increment s.sequence) at_) (some s.index)
      rfl ?_ (by simpa using serving.numbered) rfl rfl (by simp) rfl fun none => ?_
    · rw [List.append_nil]
      exact eachAfter_concat.mpr
        ⟨serving.recorded, flight.handed idle planned now at_ id (increment s.sequence)⟩
    · rw [awaited none]
      exact flight.command idle planned identified rfl (increment s.sequence) stopped
  | rotated g reply at_ id error =>
    have received : EachAfter (Recorded session) (s.trace ++ [.received g]) :=
      eachAfter_concat.mpr ⟨serving.recorded, trivial⟩
    exact serving.hands running [.received g]
      (session.complete (Envelope.of (.rotation reply)) id (increment s.sequence) at_) none rfl
      (eachAfter_concat.mpr ⟨received, rfl⟩)
      (eachAfter_concat.mpr ⟨serving.numbered, trivial⟩) rfl rfl (by simp) rfl
      fun never => nomatch never
  | acknowledged g known awaited acknowledges =>
    refine serving.silent running ?_ rfl rfl fun _ => flight.acknowledged known awaited acknowledges
    simp [ServerMark.silent, ServerMark.frame, ServerMark.observed]
  | reported g report at_ id stopped =>
    have accepted : s.trace ++ [.received g, .accepted g] =
        s.trace ++ [.received g] ++ [.accepted g] := by simp
    refine serving.hands running [.received g, .accepted g] (session.complete
      (Envelope.of (.acknowledgement ⟨g.messageID, "", g.sequence, 0⟩)) id (increment s.sequence)
      at_) none rfl ?_ ?_ rfl rfl (by simp) rfl
      fun _ => flight.append (by simp) (increment s.sequence) stopped
    · rw [accepted]
      refine eachAfter_concat.mpr ⟨eachAfter_concat.mpr ⟨eachAfter_concat.mpr
        ⟨serving.recorded, trivial⟩, report, s.trace, rfl⟩, rfl⟩
    · rw [accepted]
      exact eachAfter_concat.mpr ⟨eachAfter_concat.mpr ⟨serving.numbered, trivial⟩, trivial⟩
  | unreported g report error =>
    have split : s.trace ++ [.received g, .accepted g, .undrawn] =
        s.trace ++ [.received g] ++ [.accepted g] ++ [.undrawn] := by simp
    have answered : s.trace.filterMap ServerMark.observed =
        s.trace.filterMap ServerMark.acknowledged :=
      (serving.inFlight running).1
    exact {
      recorded := by
        rw [split]
        exact eachAfter_concat.mpr ⟨eachAfter_concat.mpr ⟨eachAfter_concat.mpr
          ⟨serving.recorded, trivial⟩, report, s.trace, rfl⟩, trivial⟩
      numbered := by
        rw [split]
        exact eachAfter_concat.mpr ⟨eachAfter_concat.mpr ⟨eachAfter_concat.mpr
          ⟨serving.numbered, trivial⟩, trivial⟩, trivial⟩
      counted := by
        simpa [ServerLoop.frames, List.filterMap_cons, ServerMark.frame] using serving.counted
      reports := .inr ⟨by simp, (g.messageID, g.sequence), by
        simp [List.filterMap_cons, ServerMark.observed, ServerMark.acknowledged, answered]⟩
      inFlight := fun never => nomatch never }

end Flight

/-! ### Every session -/

section Runs
variable {session : ServerSession} {s : ServerLoop}

theorem Serving.step (serving : Serving session s) (e : ServerEvent) :
    Serving session (session.step s e) := by
  cases stopped : s.stopped with
  | none => exact serving.moves stopped (ServerSession.step_moves stopped e)
  | some error =>
    rw [ServerSession.step_stopped (by simp [stopped])]
    exact serving

end Runs

namespace ServerSample

def welcome : Handshake.Welcome where
  major := 1
  minor := 0
  binding := none
  challenge := []
  connectionID := "c"
  connectionEpoch := 1
  capabilities := []
  limits := none
  negotiationDigest := ""
  buildDigest := ""
  adapterKind := ""
  adapterDigest := ""
  unknown := []

def planned (n : String) (kind : CommandKind) : PlannedCommand where
  operationID := "00000000-0000-7000-8000-00000000000" ++ n
  configurationDigest := "c"
  harnessHandle := "00000000-0000-7000-8000-000000000001"
  kind := kind
  payload := []
  deadline := 62135596800009000000

/-- A start, its heartbeat and acknowledgement, then a stop. -/
def session : List ServerEvent :=
  [.tick .notFound 5 ⟨some "m1", 5, none⟩,
    .receive { Envelope.of (.heartbeat ⟨1, 0, 0, ""⟩) with messageID := "h", sequence := 1 } none
      true ⟨some "m2", 5, none⟩,
    .tick .notFound 5 ⟨some "m3", 5, none⟩,
    .receive { Envelope.of (.acknowledgement ⟨"m1", "d", 1, 0⟩) with
      operationID := (planned "2" .start).operationID, sequence := 2 } none true
      ⟨some "m4", 5, none⟩,
    .tick .notFound 5 ⟨some "m5", 5, none⟩]

end ServerSample

open ServerSample in
example : ((serve (.constant "d") (some [planned "2" .start, planned "3" .stop]) welcome
    (some 62135596800020000000) session).toOption.map fun served =>
      served.2.frames.map fun f => (f.sequence, f.messageID, f.getCommand.map (·.kind))) =
    some [(1, "m1", some .start), (2, "m2", none), (3, "m5", some .stop)] := by
  decide +kernel

end ThinkPixelAR.App
