import ThinkPixelAR.Relational.Monitors
import ThinkPixelAR.App.AgentdService

/-!
The agentd service loop over every order of events. The protocol of a session says which
mark may come next; the trace of the loop follows it, and what a trace that follows it
satisfies is proved of the protocol alone.
-/
namespace ThinkPixelAR.App

open Control Relational
open Envelope (getAcknowledgement getFailure getRotation of)
open ServiceSession (reply adopt complete send rotate renew receive handle observeThread
  attachCapture heartbeat finish)

variable {f g : Envelope} {result : CommandResult} {observed : Bool}

/-! ### Reading a trace -/

namespace ServiceMark

def start : ServiceMark → Option Envelope
  | started f => some f
  | _ => none

def finish : ServiceMark → Option Envelope
  | finished f _ => some f
  | _ => none

def frame : ServiceMark → Option Envelope
  | sent f => some f
  | _ => none

/-- An acknowledgement or a failure. -/
def reply : ServiceMark → Option Envelope
  | sent f => if f.getAcknowledgement.isSome || f.getFailure.isSome then some f else none
  | _ => none

/-- A rotation frame; agentd sends only requests. -/
def request : ServiceMark → Option Envelope
  | sent f => if f.getRotation.isSome then some f else none
  | _ => none

def signal : ServiceMark → Option Unit
  | renewal => some ()
  | _ => none

end ServiceMark

abbrev ServiceTrace := List ServiceMark

namespace ServiceTrace

def starts (trace : ServiceTrace) : List Envelope := trace.filterMap ServiceMark.start
def finishes (trace : ServiceTrace) : List Envelope := trace.filterMap ServiceMark.finish
def frames (trace : ServiceTrace) : List Envelope := trace.filterMap ServiceMark.frame
def replies (trace : ServiceTrace) : List Envelope := trace.filterMap ServiceMark.reply
def requests (trace : ServiceTrace) : List Envelope := trace.filterMap ServiceMark.request
def renewals (trace : ServiceTrace) : List Unit := trace.filterMap ServiceMark.signal

end ServiceTrace

open ServiceTrace

/-- The reply carries the command's operation, digest and handle, and an acknowledgement
names its message and its sequence. -/
structure Answers (f g : Envelope) : Prop where
  operation : g.operationID = f.operationID
  digest : g.requestDigest = f.requestDigest
  handle : g.harnessHandle = f.harnessHandle
  names : ∀ a, g.getAcknowledgement = some a →
    a.messageID = f.messageID ∧ a.acceptedSequence = f.sequence

/-- The frame observes the thread that the command created. -/
structure ObservesThread (session : ServiceSession) (f : Envelope) (result : CommandResult)
    (g : Envelope) : Prop where
  operation : g.operationID = f.operationID
  digest : g.requestDigest = f.requestDigest
  handle : g.harnessHandle = f.harnessHandle
  body : g.body =
    .observation ⟨.processStatus, threadCapability, session.marshalThread result.thread, ""⟩

/-- The result was the last thing that happened to a command; a thread it names was
observed since if `observed`. -/
def JustFinished (session : ServiceSession) (trace : ServiceTrace) (f : Envelope)
    (result : CommandResult) (observed : Prop) : Prop :=
  ∃ first later, trace = first ++ .finished f result :: later ∧
    (∀ m ∈ later, m.start = none ∧ m.finish = none ∧ m.reply = none) ∧
    (observed → ∃ o, .sent o ∈ later ∧ ObservesThread session f result o)

/-! ### The protocol -/

inductive ServicePhase where
  | idle
  | executing (f : Envelope)
  /-- The result is known and the reply is owed. -/
  | finished (f : Envelope) (result : CommandResult) (observed : Bool)

/-- `due` is a renewal signal that no request has answered. -/
structure ServiceState where
  phase : ServicePhase
  sent : Nat
  requested : Bool
  due : Bool

def ServiceState.start : ServiceState := ⟨.idle, 0, false, false⟩

inductive ServiceAdvances (session : ServiceSession) (p : ServiceState) :
    ServiceMark → ServiceState → Prop
  | renewal : ServiceAdvances session p .renewal { p with due := true }
  | started (f : Envelope) (idle : p.phase = .idle) (unrequested : p.requested = false) :
      ServiceAdvances session p (.started f) { p with phase := .executing f }
  | finished (f : Envelope) (result : CommandResult) (executing : p.phase = .executing f) :
      ServiceAdvances session p (.finished f result)
        { p with phase := .finished f result false }
  | plain (g : Envelope) (next : g.sequence = p.sent + 1)
      (unreplying : ServiceMark.reply (.sent g) = none) (unrotating : g.getRotation = none) :
      ServiceAdvances session p (.sent g) { p with sent := p.sent + 1 }
  | observed (g f : Envelope) (result : CommandResult) (next : g.sequence = p.sent + 1)
      (known : p.phase = .finished f result false) (observes : ObservesThread session f result g) :
      ServiceAdvances session p (.sent g)
        { p with phase := .finished f result true, sent := p.sent + 1 }
  | replied (g f : Envelope) (result : CommandResult) (observed : Bool)
      (next : g.sequence = p.sent + 1) (known : p.phase = .finished f result observed)
      (thread : result.failed = false → result.thread.threadID ≠ "" → observed = true)
      (replying : ServiceMark.reply (.sent g) = some g) (unrotating : g.getRotation = none)
      (answers : Answers f g) (succeeded : g.getAcknowledgement.isSome → result.failed = false) :
      ServiceAdvances session p (.sent g) { p with phase := .idle, sent := p.sent + 1 }
  | rotated (g : Envelope) (next : g.sequence = p.sent + 1) (idle : p.phase = .idle)
      (due : p.due = true) (unreplying : ServiceMark.reply (.sent g) = none)
      (rotating : g.getRotation.isSome) :
      ServiceAdvances session p (.sent g)
        { p with sent := p.sent + 1, requested := true, due := false }

/-! ### What a trace that follows the protocol satisfies -/

section Protocol
variable {session : ServiceSession} {trace : ServiceTrace} {p q : ServiceState} {m : ServiceMark}

/-- The commands up to the one in the phase are finished and answered, in order. -/
def Paired (session : ServiceSession) (trace : ServiceTrace) : ServicePhase → Prop
  | .idle => trace.finishes = trace.starts ∧ List.Forall₂ Answers trace.starts trace.replies
  | .executing f => ∃ earlier, trace.starts = earlier ++ [f] ∧ trace.finishes = earlier ∧
      List.Forall₂ Answers earlier trace.replies
  | .finished f result observed =>
      (∃ earlier, trace.starts = earlier ++ [f] ∧ trace.finishes = earlier ++ [f] ∧
        List.Forall₂ Answers earlier trace.replies) ∧
      JustFinished session trace f result (observed = true)

theorem ObservesThread.plain (observes : ObservesThread session f result g) :
    ServiceMark.reply (.sent g) = none ∧ g.getRotation = none := by
  simp [ServiceMark.reply, getAcknowledgement, getFailure, getRotation,
    observes.body]

theorem JustFinished.append {observed : Prop} (just : JustFinished session trace f result observed)
    (free : m.start = none ∧ m.finish = none ∧ m.reply = none) :
    JustFinished session (trace ++ [m]) f result observed := by
  obtain ⟨first, later, rfl, quiet, seen⟩ := just
  refine ⟨first, later ++ [m], by simp, ?_, fun holds => ?_⟩
  · intro n member
    rcases List.mem_append.mp member with earlier | last
    · exact quiet n earlier
    · rw [List.mem_singleton.mp last]
      exact free
  · obtain ⟨o, member, observes⟩ := seen holds
    exact ⟨o, List.mem_append_left _ member, observes⟩

/-- A mark that concerns no command leaves the pairing as it is. -/
theorem Paired.append {phase : ServicePhase} (paired : Paired session trace phase)
    (free : m.start = none ∧ m.finish = none ∧ m.reply = none) :
    Paired session (trace ++ [m]) phase := by
  have starts : ServiceTrace.starts (trace ++ [m]) = trace.starts := by
    simp [ServiceTrace.starts, free.1]
  have finishes : ServiceTrace.finishes (trace ++ [m]) = trace.finishes := by
    simp [ServiceTrace.finishes, free.2.1]
  have replies : ServiceTrace.replies (trace ++ [m]) = trace.replies := by
    simp [ServiceTrace.replies, free.2.2]
  cases phase with
  | idle | executing f => simpa only [Paired, starts, finishes, replies] using paired
  | finished f result observed =>
    refine ⟨?_, paired.2.append free⟩
    simpa only [starts, finishes, replies] using paired.1

theorem Paired.keeps (paired : Paired session trace p.phase)
    (advances : ServiceAdvances session p m q) : Paired session (trace ++ [m]) q.phase := by
  cases advances with
  | renewal => exact paired.append ⟨rfl, rfl, rfl⟩
  | started f idle _ =>
    rw [idle] at paired
    refine ⟨trace.starts, ?_, ?_, ?_⟩
    · simp [ServiceTrace.starts, ServiceMark.start]
    · simpa [ServiceTrace.finishes, List.filterMap_cons, ServiceMark.finish] using paired.1
    · simpa [ServiceTrace.replies, List.filterMap_cons, ServiceMark.reply] using paired.2
  | finished f result executing =>
    rw [executing] at paired
    obtain ⟨earlier, starts, finishes, answered⟩ := paired
    refine ⟨⟨earlier, ?_, ?_, ?_⟩, trace, [], rfl, by simp, by simp⟩
    · simpa [ServiceTrace.starts, List.filterMap_cons, ServiceMark.start] using starts
    · have before : trace.filterMap ServiceMark.finish = earlier := finishes
      simp [ServiceTrace.finishes, ServiceMark.finish, before]
    · simpa [ServiceTrace.replies, List.filterMap_cons, ServiceMark.reply] using answered
  | plain g _ unreplying _ | rotated g _ _ _ unreplying _ =>
    exact paired.append ⟨rfl, rfl, unreplying⟩
  | observed g f result _ known observes =>
    rw [known] at paired
    have appended : Paired session (trace ++ [.sent g]) (.finished f result false) :=
      paired.append ⟨rfl, rfl, observes.plain.1⟩
    obtain ⟨first, later, whole, quiet, -⟩ := paired.2
    refine ⟨appended.1, first, later ++ [.sent g], by simp [whole], ?_, fun _ => ?_⟩
    · intro n member
      rcases List.mem_append.mp member with earlier | last
      · exact quiet n earlier
      · rw [List.mem_singleton.mp last]
        exact ⟨rfl, rfl, observes.plain.1⟩
    · exact ⟨g, by simp, observes⟩
  | replied g f result observed _ known _ replying _ answers _ =>
    rw [known] at paired
    obtain ⟨⟨earlier, starts, finishes, answered⟩, -⟩ := paired
    have startsNow : ServiceTrace.starts (trace ++ [.sent g]) = earlier ++ [f] := by
      simpa [ServiceTrace.starts, List.filterMap_cons, ServiceMark.start] using starts
    have finishesNow : ServiceTrace.finishes (trace ++ [.sent g]) = earlier ++ [f] := by
      simpa [ServiceTrace.finishes, List.filterMap_cons, ServiceMark.finish] using finishes
    have repliesNow : ServiceTrace.replies (trace ++ [.sent g]) = trace.replies ++ [g] := by
      simp [ServiceTrace.replies, replying]
    refine ⟨finishesNow.trans startsNow.symm, ?_⟩
    rw [startsNow, repliesNow]
    exact List.rel_append answered (.cons answers .nil)

/-- Requests are counted against renewal signals; before the first there is none. -/
structure Requested (trace : ServiceTrace) (p : ServiceState) : Prop where
  unrequested : p.requested = false → trace.requests = []
  counted : trace.requests.length + p.due.toNat ≤ trace.renewals.length

theorem Requested.append (requested : Requested trace p) (unrotating : m.request = none)
    (unsignalled : m.signal = none) (same : q.requested = p.requested) (due : q.due = p.due) :
    Requested (trace ++ [m]) q := by
  have requests : requests (trace ++ [m]) = trace.requests := by
    simp [requests, unrotating]
  have renewals : renewals (trace ++ [m]) = trace.renewals := by
    simp [renewals, unsignalled]
  constructor
  · rw [requests, same]
    exact requested.unrequested
  · rw [requests, renewals, due]
    exact requested.counted

theorem request_none (unrotating : g.getRotation = none) :
    ServiceMark.request (.sent g) = none := by
  simp [ServiceMark.request, unrotating]

theorem Requested.keeps (requested : Requested trace p)
    (advances : ServiceAdvances session p m q) : Requested (trace ++ [m]) q := by
  cases advances with
  | renewal =>
    have requests : requests (trace ++ [.renewal]) = trace.requests := by
      simp [requests, ServiceMark.request]
    have renewals : (renewals (trace ++ [.renewal])).length =
        trace.renewals.length + 1 := by
      simp [renewals, ServiceMark.signal]
    constructor
    · rw [requests]
      exact requested.unrequested
    · have counted := requested.counted
      simp only [requests, renewals, Bool.toNat_true]
      omega
  | started f _ _ | finished f result _ => exact requested.append rfl rfl rfl rfl
  | plain g _ _ unrotating | replied g f result observed _ _ _ _ unrotating _ _ =>
    exact requested.append (request_none unrotating) rfl rfl rfl
  | observed g f result _ _ observes =>
    exact requested.append (request_none observes.plain.2) rfl rfl rfl
  | rotated g _ _ due _ rotating =>
    have requests : (requests (trace ++ [.sent g])).length =
        trace.requests.length + 1 := by
      simp [requests, ServiceMark.request, rotating]
    have renewals : renewals (trace ++ [.sent g]) = trace.renewals := by
      simp [renewals, ServiceMark.signal]
    constructor
    · simp
    · have counted := requested.counted
      rw [due] at counted
      simp only [requests, renewals, Bool.toNat_true, Bool.toNat_false] at counted ⊢
      exact counted

/-- The frames sent so far carry 1, 2, 3, … -/
structure Counted (trace : ServiceTrace) (p : ServiceState) : Prop where
  sent : p.sent = trace.frames.length
  sequences : trace.frames.map (·.sequence) = (List.range trace.frames.length).map (· + 1)

theorem Counted.hands (counted : Counted trace p) (next : g.sequence = p.sent + 1)
    (after : q.sent = p.sent + 1) : Counted (trace ++ [.sent g]) q := by
  have frames : frames (trace ++ [.sent g]) = trace.frames ++ [g] := by
    simp [frames, ServiceMark.frame]
  constructor
  · rw [after, frames, counted.sent, List.length_append, List.length_singleton]
  · rw [frames, List.map_append, counted.sequences, List.length_append, List.length_singleton,
      List.range_succ, List.map_append]
    simp [next, counted.sent]

theorem Counted.append (counted : Counted trace p) (unsent : m.frame = none)
    (same : q.sent = p.sent) : Counted (trace ++ [m]) q := by
  have frames : frames (trace ++ [m]) = trace.frames := by
    simp [frames, unsent]
  constructor
  · rw [frames, same]
    exact counted.sent
  · rw [frames]
    exact counted.sequences

theorem Counted.keeps (counted : Counted trace p) (advances : ServiceAdvances session p m q) :
    Counted (trace ++ [m]) q := by
  cases advances with
  | renewal | started f _ _ | finished f result _ => exact counted.append rfl rfl
  | plain g next _ _ | observed g f result next _ _
  | replied g f result observed next _ _ _ _ _ _ | rotated g next _ _ _ _ =>
    exact counted.hands next rfl

/-- What the protocol knows of the trace so far. -/
structure Conducted (session : ServiceSession) (trace : ServiceTrace) (p : ServiceState) :
    Prop where
  paired : Paired session trace p.phase
  requested : Requested trace p
  counted : Counted trace p

theorem Conducted.start : Conducted session [] .start where
  paired := ⟨rfl, .nil⟩
  requested := ⟨fun _ => rfl, Nat.le_refl 0⟩
  counted := ⟨rfl, rfl⟩

theorem Conducted.keeps (conducted : Conducted session trace p)
    (advances : ServiceAdvances session p m q) : Conducted session (trace ++ [m]) q where
  paired := conducted.paired.keeps advances
  requested := conducted.requested.keeps advances
  counted := conducted.counted.keeps advances

/-- Each mark after the marks before it: a command starts when all earlier ones are
answered and no rotation was requested, a rotation is requested when none is executing,
and an acknowledgement follows a result that did not fail, after its thread. -/
def MarkAllowed (session : ServiceSession) (before : ServiceTrace) : ServiceMark → Prop
  | .started _ => before.finishes = before.starts ∧
      List.Forall₂ Answers before.starts before.replies ∧ before.requests = []
  | .sent g =>
      (g.getRotation.isSome → before.finishes = before.starts) ∧
      (g.getAcknowledgement.isSome → ∃ f result, before.starts.getLast? = some f ∧
        result.failed = false ∧
        JustFinished session before f result (result.thread.threadID ≠ ""))
  | _ => True

theorem acknowledgement_replies (acknowledges : g.getAcknowledgement.isSome) :
    ServiceMark.reply (.sent g) = some g := by
  simp [ServiceMark.reply, acknowledges]

/-- A frame that is no reply and no rotation is allowed anywhere. -/
theorem allowed_of_plain (unreplying : ServiceMark.reply (.sent g) = none)
    (unrotating : g.getRotation = none) : MarkAllowed session trace (.sent g) := by
  refine ⟨fun rotates => ?_, fun acknowledges => ?_⟩
  · simp [unrotating] at rotates
  · simp [acknowledgement_replies acknowledges] at unreplying

theorem Conducted.allows (conducted : Conducted session trace p)
    (advances : ServiceAdvances session p m q) : MarkAllowed session trace m := by
  have paired := conducted.paired
  cases advances with
  | renewal => trivial
  | started f idle unrequested =>
    rw [idle] at paired
    exact ⟨paired.1, paired.2, conducted.requested.unrequested unrequested⟩
  | finished f result _ => trivial
  | plain g _ unreplying unrotating => exact allowed_of_plain unreplying unrotating
  | observed g f result _ _ observes =>
    exact allowed_of_plain observes.plain.1 observes.plain.2
  | replied g f result observed _ known thread _ unrotating _ succeeded =>
    rw [known] at paired
    obtain ⟨⟨earlier, starts, -, -⟩, first, later, whole, quiet, seen⟩ := paired
    refine ⟨fun rotates => ?_, fun acknowledges => ?_⟩
    · simp [unrotating] at rotates
    · have success := succeeded acknowledges
      refine ⟨f, result, by simp [starts], success, first, later, whole, quiet, fun named => ?_⟩
      exact seen (thread success named)
  | rotated g _ idle _ unreplying _ =>
    rw [idle] at paired
    refine ⟨fun _ => paired.1, fun acknowledges => ?_⟩
    simp [acknowledgement_replies acknowledges] at unreplying

/-- At any time at most one command is executing, -/
theorem Paired.oneExecuting {phase : ServicePhase} (paired : Paired session trace phase) :
    trace.finishes <+: trace.starts ∧ trace.starts.length ≤ trace.finishes.length + 1 := by
  cases phase with
  | idle =>
    rw [paired.1]
    exact ⟨List.prefix_rfl, Nat.le_succ _⟩
  | executing f =>
    obtain ⟨earlier, starts, finishes, -⟩ := paired
    rw [starts, finishes]
    exact ⟨List.prefix_append earlier [f], by simp⟩
  | finished f result observed =>
    obtain ⟨earlier, starts, finishes, -⟩ := paired.1
    rw [starts, finishes]
    exact ⟨List.prefix_rfl, Nat.le_succ _⟩

/-- and at most the last one waits for its reply. -/
theorem Paired.oneWaiting {phase : ServicePhase} (paired : Paired session trace phase) :
    ∃ answered waiting, trace.starts = answered ++ waiting ∧ waiting.length ≤ 1 ∧
      List.Forall₂ Answers answered trace.replies := by
  cases phase with
  | idle => exact ⟨trace.starts, [], by simp, by simp, paired.2⟩
  | executing f =>
    obtain ⟨earlier, starts, -, answered⟩ := paired
    exact ⟨earlier, [f], starts, Nat.le_refl 1, answered⟩
  | finished f result observed =>
    obtain ⟨earlier, starts, -, answered⟩ := paired.1
    exact ⟨earlier, [f], starts, Nat.le_refl 1, answered⟩

end Protocol
/-! ### The loop follows the protocol -/

section Refinement
variable {session : ServiceSession} {s : ServiceLoop} {p q : ServiceState}

/-- The trace of the loop leads the protocol to the state. -/
structure Tracks (session : ServiceSession) (s : ServiceLoop) (p : ServiceState) : Prop where
  accepted : Accepted (ServiceAdvances session) .start s.trace p
  output : p.sent = s.output

/-- The flags of a running loop, between two events, are those of the protocol. -/
structure Agrees (s : ServiceLoop) (p : ServiceState) : Prop where
  phase : p.phase = match s.executing with
    | none => .idle
    | some f => .executing f
  busy : s.busy = s.executing.isSome
  requested : p.requested = s.renewalPending
  due : p.due = s.renewalDue

def Refines (session : ServiceSession) (s : ServiceLoop) : Prop :=
  ∃ p, Tracks session s p ∧ (s.stopped = none → Agrees s p)

theorem Tracks.stop (tracks : Tracks session s p) (error : Option Error) :
    Refines session (s.stop error) :=
  ⟨p, ⟨tracks.accepted, tracks.output⟩, fun running => nomatch running⟩

theorem Tracks.mark (tracks : Tracks session s p) {m : ServiceMark}
    (advances : ServiceAdvances session p m q) (same : q.sent = p.sent) :
    Tracks session (s.mark m) q where
  accepted := .concat tracks.accepted advances
  output := same.trans tracks.output

/-- A call that may fail inside the loop: a failure ends `Serve`. -/
theorem refines_orReturn {r : ServiceLoop × Option Error} {next : ServiceLoop → ServiceLoop}
    (tracks : Tracks session r.1 q) (goes : r.2 = none → Refines session (next r.1)) :
    Refines session (.orReturn r next) := by
  obtain ⟨t, error⟩ := r
  cases error with
  | none => exact goes rfl
  | some e => exact tracks.stop (some e)

/-- `send` takes the protocol one step, or fails before the frame is handed over. -/
theorem send_spec (tracks : Tracks session s p) (answer : FrameAnswer)
    (advances : ∀ id, ServiceAdvances session p (.sent (session.complete f id (p.sent + 1))) q)
    (after : q.sent = p.sent + 1) :
    ∃ q', Tracks session (session.send f answer s).1 q' ∧
      ((session.send f answer s).2 = none → q' = q ∧ ∃ output trace,
        (session.send f answer s).1 = { s with output := output, trace := trace }) := by
  unfold send
  cases drawn : answer.id with
  | none => exact ⟨p, tracks, fun sent => nomatch sent⟩
  | some id =>
    simp only
    split
    · exact ⟨p, tracks, fun sent => nomatch sent⟩
    · refine ⟨q, ⟨?_, ?_⟩, fun _ => ⟨rfl, _, _, rfl⟩⟩
      · have last := advances id
        rw [tracks.output] at last
        exact .concat tracks.accepted last
      · rw [after, tracks.output]
        rfl

/-- A frame that is neither a reply nor a rotation may be sent at any time. -/
theorem send_plain (tracks : Tracks session s p) (answer : FrameAnswer)
    (unreplying : f.getAcknowledgement = none ∧ f.getFailure = none)
    (unrotating : f.getRotation = none) :
    ∃ q', Tracks session (session.send f answer s).1 q' ∧
      ((session.send f answer s).2 = none → q' = { p with sent := p.sent + 1 } ∧
        ∃ output trace,
          (session.send f answer s).1 = { s with output := output, trace := trace }) := by
  refine send_spec tracks answer (fun id => .plain _ rfl ?_ ?_) rfl
  · have acknowledgement : (session.complete f id (p.sent + 1)).getAcknowledgement = none :=
      unreplying.1
    have failure : (session.complete f id (p.sent + 1)).getFailure = none := unreplying.2
    simp [ServiceMark.reply, acknowledgement, failure]
  · exact unrotating

/-- A plain frame sent between two events. -/
theorem refines_plain (tracks : Tracks session s p) (agrees : Agrees s p) (answer : FrameAnswer)
    (unreplying : f.getAcknowledgement = none ∧ f.getFailure = none)
    (unrotating : f.getRotation = none) :
    Refines session (.orReturn (session.send f answer s) id) := by
  obtain ⟨q', handed, sent⟩ := send_plain tracks answer unreplying unrotating
  refine refines_orReturn handed fun ok => ?_
  obtain ⟨rfl, output, trace, same⟩ := sent ok
  refine ⟨_, handed, fun _ => ?_⟩
  rw [id_eq, same]
  exact ⟨agrees.phase, agrees.busy, agrees.requested, agrees.due⟩

/-- A rotation is requested for a renewal that is due, with no command executing. -/
theorem refines_rotate (tracks : Tracks session s p) (agrees : Agrees s p)
    (idle : s.executing = none) (due : s.renewalDue = true) (answer : FrameAnswer) :
    Refines session (.orReturn (session.rotate answer s) id) := by
  have phase : p.phase = .idle := by
    rw [agrees.phase, idle]
  obtain ⟨q', handed, sent⟩ := send_spec tracks answer
    (f := of (.rotation ⟨.request, [], [], 0⟩))
    (q := { p with sent := p.sent + 1, requested := true, due := false })
    (fun id => .rotated _ rfl phase (agrees.due.trans due) rfl rfl) rfl
  unfold rotate
  generalize session.send (of (.rotation ⟨.request, [], [], 0⟩)) answer s = r
    at handed sent
  obtain ⟨t, error⟩ := r
  cases error with
  | some e => exact handed.stop (some e)
  | none =>
    obtain ⟨rfl, output, trace, same⟩ := sent rfl
    simp only at same
    subst same
    exact ⟨_, ⟨handed.accepted, handed.output⟩,
      fun _ => ⟨agrees.phase, agrees.busy, rfl, rfl⟩⟩

theorem refines_renew (tracks : Tracks session s p) (agrees : Agrees s p) (answer : FrameAnswer) :
    Refines session (session.renew answer s) := by
  have marked : Tracks session { s.mark .renewal with renewalDue := true } { p with due := true } :=
    let renewed := tracks.mark (.renewal) rfl
    ⟨renewed.accepted, renewed.output⟩
  have renewed : Agrees { s.mark .renewal with renewalDue := true } { p with due := true } :=
    ⟨agrees.phase, agrees.busy, agrees.requested, rfl⟩
  unfold renew
  simp only
  split
  · exact ⟨_, marked, fun _ => renewed⟩
  · rename_i unoccupied
    have idle : s.executing = none := by
      rw [← Option.not_isSome_iff_eq_none, ← agrees.busy]
      exact unoccupied
    exact refines_rotate marked renewed idle rfl answer

theorem refines_captured (tracks : Tracks session s p) (agrees : Agrees s p)
    (output : CapturedOutput) (answer : FrameAnswer) :
    Refines session (session.captured output answer s) := by
  cases output with
  | eof => exact ⟨p, tracks, fun _ => agrees⟩
  | failed e => exact tracks.stop (some e)
  | data source data => exact refines_plain tracks agrees answer ⟨rfl, rfl⟩ rfl

theorem refines_receive (tracks : Tracks session s p) (agrees : Agrees s p) (f : Envelope)
    (now : Int) (installed : Option Error) :
    Refines session (session.receive f now installed s) := by
  unfold receive
  cases s.input.check session.lib f with
  | error e => exact tracks.stop _
  | ok input =>
    have tracked : Tracks session { s with input := input, accepted := f.sequence } p :=
      ⟨tracks.accepted, tracks.output⟩
    simp only [handle]
    split
    · split
      · exact tracked.stop _
      · exact tracked.stop _
    · split
      · exact ⟨p, tracked, fun _ => ⟨agrees.phase, agrees.busy, agrees.requested, agrees.due⟩⟩
      · split
        · exact tracked.stop _
        · rename_i admitted
          simp only [Bool.or_eq_true, not_or, Bool.not_eq_true] at admitted
          obtain ⟨⟨⟨-, unoccupied⟩, unrequested⟩, -⟩ := admitted
          have idle : s.executing = none := by
            rw [← Option.not_isSome_iff_eq_none, ← agrees.busy, unoccupied]
            exact Bool.false_ne_true
          have phase : p.phase = .idle := by
            rw [agrees.phase, idle]
          have started := tracked.mark
            (.started f phase (agrees.requested.trans unrequested)) rfl
          exact ⟨_, ⟨started.accepted, started.output⟩,
            fun _ => ⟨rfl, rfl, agrees.requested, agrees.due⟩⟩

/-! ### A result -/

/-- The loop has read a result and still owes the reply. -/
structure Owes (s : ServiceLoop) (p : ServiceState) (f : Envelope) (result : CommandResult)
    (observed : Bool) : Prop where
  phase : p.phase = .finished f result observed
  idle : s.executing = none
  free : s.busy = false
  requested : p.requested = s.renewalPending
  due : p.due = s.renewalDue

theorem observeThread_spec (tracks : Tracks session s p) (owes : Owes s p f result false)
    (answer : FrameAnswer) :
    ∃ q', Tracks session (session.observeThread f result answer s).1 q' ∧
      ((session.observeThread f result answer s).2 = none → ∃ observed,
        (result.failed = false → result.thread.threadID ≠ "" → observed = true) ∧
        Owes (session.observeThread f result answer s).1 q' f result observed) := by
  unfold observeThread
  split
  · obtain ⟨q', handed, sent⟩ := send_spec tracks answer
      (f := session.threadObservation f result)
      (q := { p with phase := .finished f result true, sent := p.sent + 1 })
      (fun id => .observed _ f result rfl owes.phase ⟨rfl, rfl, rfl, rfl⟩) rfl
    refine ⟨q', handed, fun ok => ⟨true, fun _ _ => rfl, ?_⟩⟩
    obtain ⟨rfl, output, trace, same⟩ := sent ok
    rw [same]
    exact ⟨rfl, owes.idle, owes.free, owes.requested, owes.due⟩
  · rename_i threadless
    refine ⟨p, tracks, fun _ => ⟨false, fun success named => ?_, owes⟩⟩
    simp [success, named] at threadless

/-- Adopting the handle and the output touches nothing the protocol sees. -/
theorem adopt_spec (tracks : Tracks session s p) (owes : Owes s p f result observed)
    (answer : ResultAnswer) :
    Tracks session (adopt f result answer s).1 p ∧
      Owes (adopt f result answer s).1 p f result observed := by
  have same : ∃ handle captureID, (adopt f result answer s).1 =
      { s with handle := handle, captureID := captureID } := by
    unfold adopt attachCapture
    split
    · exact ⟨_, _, rfl⟩
    · simp only
      split
      · split
        · exact ⟨_, _, rfl⟩
        · split
          · exact ⟨_, _, rfl⟩
          · exact ⟨_, _, rfl⟩
      · exact ⟨_, _, rfl⟩
  obtain ⟨handle, captureID, same⟩ := same
  rw [same]
  exact ⟨⟨tracks.accepted, tracks.output⟩,
    owes.phase, owes.idle, owes.free, owes.requested, owes.due⟩

/-- The reply answers the command, and acknowledges it only if it did not fail. -/
theorem reply_advances (known : p.phase = .finished f result observed)
    (thread : result.failed = false → result.thread.threadID ≠ "" → observed = true) (id : String) :
    ServiceAdvances session p
      (.sent (session.complete (reply f result) id (p.sent + 1)))
      { p with phase := .idle, sent := p.sent + 1 } := by
  cases failed : result.failed with
  | true =>
    have body : (session.complete (reply f result) id (p.sent + 1)).body =
        .failure .outcomeUnknown := by
      simp [complete, reply, of, failed]
    refine .replied _ f result observed rfl known thread ?_ ?_ ⟨rfl, rfl, rfl, fun a names => ?_⟩
      fun acknowledges => ?_
    · simp [ServiceMark.reply, getFailure, body]
    · simp [getRotation, body]
    · simp [getAcknowledgement, body] at names
    · simp [getAcknowledgement, body] at acknowledges
  | false =>
    have body : (session.complete (reply f result) id (p.sent + 1)).body =
        .acknowledgement ⟨f.messageID, f.requestDigest, f.sequence, 0⟩ := by
      simp [complete, reply, of, failed]
    refine .replied _ f result observed rfl known thread ?_ ?_ ⟨rfl, rfl, rfl, fun a names => ?_⟩
      fun _ => failed
    · simp [ServiceMark.reply, getAcknowledgement, body]
    · simp [getRotation, body]
    · simp only [getAcknowledgement, body, Option.some.injEq] at names
      subst names
      exact ⟨rfl, rfl⟩

/-- The heartbeat after a reply, and the rotation if one is due. -/
theorem refines_settled (tracks : Tracks session s p) (agrees : Agrees s p)
    (idle : s.executing = none) (answer : ResultAnswer) :
    Refines session
      (.orReturn (session.heartbeat answer.processState answer.heartbeat s) fun s =>
        if s.renewalDue then .orReturn (session.rotate answer.rotation s) id else s) := by
  unfold heartbeat
  obtain ⟨q', beaten, sent⟩ := send_plain tracks answer.heartbeat (f := of (.heartbeat
    ⟨answer.processState, s.accepted, s.output, s.active⟩)) ⟨rfl, rfl⟩ rfl
  refine refines_orReturn beaten fun ok => ?_
  obtain ⟨rfl, output, trace, same⟩ := sent ok
  rw [same] at beaten ⊢
  have settled : Agrees { s with output := output, trace := trace } { p with sent := p.sent + 1 } :=
    ⟨agrees.phase, agrees.busy, agrees.requested, agrees.due⟩
  split
  · rename_i due
    exact refines_rotate beaten settled idle due answer.rotation
  · exact ⟨_, beaten, fun _ => settled⟩

theorem refines_replies (tracks : Tracks session s p) (owes : Owes s p f result observed)
    (thread : result.failed = false → result.thread.threadID ≠ "" → observed = true)
    (answer : ResultAnswer) :
    Refines session
      (.orReturn (session.send (reply f result) answer.reply s) fun s =>
        .orReturn (session.heartbeat answer.processState answer.heartbeat s) fun s =>
          if s.renewalDue then .orReturn (session.rotate answer.rotation s) id else s) := by
  obtain ⟨q', replied, sent⟩ :=
    send_spec tracks answer.reply (fun id => reply_advances owes.phase thread id) rfl
  refine refines_orReturn replied fun ok => ?_
  obtain ⟨rfl, output, trace, same⟩ := sent ok
  rw [same] at replied ⊢
  refine refines_settled replied ⟨?_, ?_, owes.requested, owes.due⟩ owes.idle answer
  · simp only [owes.idle]
  · simp only [owes.idle, owes.free, Option.isSome_none]

theorem refines_finish (tracks : Tracks session s p) (agrees : Agrees s p)
    (executing : s.executing = some f) (result : CommandResult) (answer : ResultAnswer) :
    Refines session (session.finish f result answer s) := by
  have phase : p.phase = .executing f := by
    rw [agrees.phase, executing]
  have finished := tracks.mark (.finished f result phase) rfl
  have tracked : Tracks session
      { s.mark (.finished f result) with busy := false, active := "", executing := none }
      { p with phase := .finished f result false } := ⟨finished.accepted, finished.output⟩
  have owes : Owes
      { s.mark (.finished f result) with busy := false, active := "", executing := none }
      { p with phase := .finished f result false } f result false :=
    ⟨rfl, rfl, rfl, agrees.requested, agrees.due⟩
  unfold finish
  obtain ⟨q', observed, observes⟩ := observeThread_spec tracked owes answer.observation
  refine refines_orReturn observed fun ok => ?_
  obtain ⟨seen, thread, owes⟩ := observes ok
  obtain ⟨adopted, owes⟩ := adopt_spec observed owes answer
  exact refines_orReturn adopted fun _ => refines_replies adopted owes thread answer

theorem Refines.step (refines : Refines session s) (e : ServiceEvent) :
    Refines session (session.step s e) := by
  obtain ⟨p, tracks, agreement⟩ := refines
  unfold ServiceSession.step
  split
  · exact ⟨p, tracks, agreement⟩
  · rename_i running
    have agrees := agreement (Option.not_isSome_iff_eq_none.mp running)
    cases e with
    | done cause cleanup answer =>
      obtain ⟨q', handed, -⟩ := send_plain tracks answer (f := of (.observation
        ⟨.processStatus, shutdownSchema, utf8 (if cleanup.isSome || s.busy then
          "\x7b\"managed_process\":\"unresolved\"\x7d" else
          "\x7b\"managed_process\":\"stopped\"\x7d"), ""⟩)) ⟨rfl, rfl⟩ rfl
      exact handed.stop (some cause)
    | receiveFailed error => exact tracks.stop (some error)
    | renew answer => exact refines_renew tracks agrees answer
    | captured output answer => exact refines_captured tracks agrees output answer
    | tick processState answer => exact refines_plain tracks agrees answer ⟨rfl, rfl⟩ rfl
    | receive f now installed => exact refines_receive tracks agrees f now installed
    | result result answer =>
      simp only
      split
      · rename_i f executing
        exact refines_finish tracks agrees executing result answer
      · exact ⟨p, tracks, fun _ => agrees⟩

theorem Refines.start : Refines session .start :=
  ⟨.start, ⟨.nil, rfl⟩, fun _ => ⟨rfl, rfl, rfl, rfl⟩⟩

end Refinement

/-! ### Every session -/

/-- What the trace of a session shows after any events. -/
structure ServiceDiscipline (session : ServiceSession) (trace : ServiceTrace) : Prop where
  /-- At any time at most one command is executing. -/
  executing : ∀ before after, trace = before ++ after →
    ServiceTrace.finishes before <+: ServiceTrace.starts before ∧
      (ServiceTrace.starts before).length ≤ (ServiceTrace.finishes before).length + 1
  /-- At any time the replies answer the commands one by one, and at most the last command
  waits for its own. -/
  replies : ∀ before after, trace = before ++ after →
    ∃ answered waiting, ServiceTrace.starts before = answered ++ waiting ∧ waiting.length ≤ 1 ∧
      List.Forall₂ Answers answered (ServiceTrace.replies before)
  /-- A command starts when every earlier one has its reply and no rotation was requested. -/
  starts : ∀ before f after, trace = before ++ .started f :: after →
    List.Forall₂ Answers (ServiceTrace.starts before) (ServiceTrace.replies before) ∧
      requests before = []
  /-- An acknowledgement follows the result of the last command, which did not fail, and
  the observation of the thread it names. -/
  acknowledgements : ∀ before g after, trace = before ++ .sent g :: after →
    g.getAcknowledgement.isSome → ∃ f result,
      (ServiceTrace.starts before).getLast? = some f ∧ result.failed = false ∧
        JustFinished session before f result (result.thread.threadID ≠ "")
  /-- The frames are numbered 1, 2, 3, … -/
  sequences : trace.frames.map (·.sequence) = (List.range trace.frames.length).map (· + 1)
  /-- At any time there are no more requests than renewal signals, -/
  rotations : ∀ before after, trace = before ++ after →
    (requests before).length ≤ (renewals before).length
  /-- and a request is sent only when every command has finished. -/
  requests : ∀ before g after, trace = before ++ .sent g :: after → g.getRotation.isSome →
    ServiceTrace.finishes before = ServiceTrace.starts before

theorem discipline_of_accepted {session : ServiceSession} {trace : ServiceTrace}
    {p : ServiceState} (accepted : Accepted (ServiceAdvances session) .start trace p) :
    ServiceDiscipline session trace := by
  have keeps {trace : ServiceTrace} {p q : ServiceState} {m : ServiceMark}
      (conducted : Conducted session trace p) (advances : ServiceAdvances session p m q) :
      Conducted session (trace ++ [m]) q := conducted.keeps advances
  have prefixes (before after : ServiceTrace) (split : trace = before ++ after) :
      ∃ q, Conducted session before q := by
    obtain ⟨q, reached⟩ := Accepted.before (split ▸ accepted)
    exact ⟨q, reached.invariant Conducted.start keeps⟩
  have allowed : EachAfter (MarkAllowed session) trace :=
    accepted.eachAfter Conducted.start keeps fun conducted advances => conducted.allows advances
  exact {
    executing := by
      intro before after split
      obtain ⟨q, conducted⟩ := prefixes before after split
      exact conducted.paired.oneExecuting
    replies := by
      intro before after split
      obtain ⟨q, conducted⟩ := prefixes before after split
      exact conducted.paired.oneWaiting
    starts := fun before f after split => (allowed before _ after split).2
    acknowledgements := fun before g after split => (allowed before _ after split).2
    sequences := (accepted.invariant Conducted.start keeps).counted.sequences
    rotations := by
      intro before after split
      obtain ⟨q, conducted⟩ := prefixes before after split
      have counted := conducted.requested.counted
      omega
    requests := fun before g after split => (allowed before _ after split).1 }

/-- `Serve` is refused at a gate or for want of a capability, or runs its loop. -/
theorem ServiceSession.serve_spec (session : ServiceSession) (gate operation : Bool)
    (events : List ServiceEvent) :
    session.serve gate operation events = .error errProcessBusy ∨
      session.serve gate operation events = .error errConfig ∨
      session.serve gate operation events = .ok (run session.step .start events) := by
  unfold serve
  split
  · exact .inl rfl
  · split
    · exact .inr (.inl rfl)
    · split
      · exact .inl rfl
      · exact .inr (.inr rfl)

/-- Whatever a session receives, and in whatever order results and renewals arrive, one command
executes at a time, each command has one reply, an acknowledgement follows the result it
reports, and the credential is rotated between commands only. -/
theorem service_loop (session : ServiceSession) (gate operation : Bool)
    (events : List ServiceEvent) :
    match session.serve gate operation events with
    | .ok s => ServiceDiscipline session s.trace
    | .error e => e = errProcessBusy ∨ e = errConfig := by
  rcases session.serve_spec gate operation events with busy | config | served
  · rw [busy]
    exact .inl rfl
  · rw [config]
    exact .inr rfl
  · rw [served]
    have refines : Refines session (run session.step .start events) :=
      run_invariant (fun _ e before => before.step e) Refines.start events
    obtain ⟨p, tracks, -⟩ := refines
    exact discipline_of_accepted tracks.accepted

namespace ServiceSample

def session : ServiceSession where
  lib := .constant "d"
  settings := ⟨"c", false, true⟩
  welcome := ⟨1, 0, none, [], "c", 1, [capability], none, "", "", "", "", []⟩
  marshalThread _ := []

def start : Envelope :=
  { of (.command ⟨.start, "c", capability, [], ""⟩) with
    harnessHandle := "00000000-0000-7000-8000-000000000001"
    operationID := "00000000-0000-7000-8000-000000000002"
    requestDigest := "d"
    messageID := "m"
    sequence := 1
    sentUnixMS := 1
    deadlineUnixMS := 9 }

def answer (id : String) : FrameAnswer := ⟨some id, none⟩

/-- A renewal comes while a START runs that creates a thread. -/
def events : List ServiceEvent :=
  [.receive start 5 none, .renew (answer "0"),
    .result ⟨"d", false, .zero, ⟨"p", "t"⟩⟩
      ⟨"p", none, 0, answer "1", answer "2", answer "3", answer "4"⟩]

end ServiceSample

open ServiceSample in
example : (session.serve true true events).toOption.map (fun s => (frames s.trace).map
      fun f => (f.sequence, decide (f.operationID = start.operationID), f.getAcknowledgement.isSome,
        f.getRotation.isSome)) =
    some [(1, true, false, false), (2, true, true, false), (3, false, false, false),
      (4, false, false, true)] := by
  decide +kernel

end ThinkPixelAR.App
