import ThinkPixelAR.Relational.Monitors
import ThinkPixelAR.App.Capture

/-!
The bounded capture queue over every order of critical sections. The sections act on the
fields under the mutex; the trace of a run is a sequence of such actions, and what an
action keeps holds after every run.
-/
namespace ThinkPixelAR.App

open Relational

/-! ### Reading a trace -/

namespace CaptureMark

def output : CaptureMark → Option Output
  | accepted o => some o
  | _ => none

def delivery : CaptureMark → Option Output
  | received o => some o
  | _ => none

def failure : CaptureMark → Option Error
  | failed e => some e
  | _ => none

def ending : CaptureMark → Option Unit
  | eof => some ()
  | _ => none

end CaptureMark

open CaptureMark

abbrev CaptureTrace := List CaptureMark

namespace CaptureTrace

def outputs (trace : CaptureTrace) : List Output := trace.filterMap output
def deliveries (trace : CaptureTrace) : List Output := trace.filterMap delivery
def failures (trace : CaptureTrace) : List Error := trace.filterMap CaptureMark.failure
def endings (trace : CaptureTrace) : List Unit := trace.filterMap ending

end CaptureTrace

open CaptureTrace

/-! ### Actions -/

/-- The errors of the checks a call of `emit` makes itself. -/
def ownErrors : List Error := [errOutputLimit, errOutputRedaction, errOutputBackpressure]

/-- What a section can do to the fields under the mutex, with the mark it leaves. -/
inductive CaptureActs (id : String) (l : CaptureLimits) (c : Capture) :
    CaptureMark → Capture → Prop
  | accepted (source : OutputSource) (data : Handshake.Bytes) (running : c.closed = false)
      (room : c.hasRoom l data = true) :
      CaptureActs id l c (.accepted (c.offered id source data)) (c.append id source data)
  | failed (e : Error) (sound : c.err = none) : CaptureActs id l c (.failed e) (c.fail e)
  | finished : CaptureActs id l c .finished c.finish
  | stored (producer : Nat) (sound : c.err = none) :
      CaptureActs id l c (.emitted producer none false) c
  | refused (producer : Nat) (closed : c.closed = true) :
      CaptureActs id l c (.emitted producer (some c.refusal) false) c
  | rejected (producer : Nat) (e : Error) (own : e ∈ ownErrors) :
      CaptureActs id l c (.emitted producer (some e) true) c
  | received (o : Output) (rest : List Output) (sound : c.err = none)
      (first : c.queue = o :: rest) :
      CaptureActs id l c (.received o) { c with queue := rest, bytes := c.bytes - o.data.length }
  | receiveFailed (e : Error) (failed : c.err = some e) : CaptureActs id l c (.receiveFailed e) c
  | eof (sound : c.err = none) (closed : c.closed = true) (empty : c.queue = []) :
      CaptureActs id l c .eof c

/-! ### What every action keeps -/

section Actions
variable {id : String} {l : CaptureLimits} {trace : CaptureTrace} {c d : Capture} {m : CaptureMark}

def queuedBytes (queue : List Output) : Int := ((queue.map (·.data.length)).sum : Nat)

/-- The counters describe the queue and stay within the limits. -/
structure Accounted (l : CaptureLimits) (c : Capture) : Prop where
  bytes : c.bytes = queuedBytes c.queue
  bytesBound : c.bytes ≤ l.maxBytes
  eventsBound : c.queue.length ≤ l.maxEvents

theorem Accounted.acts (accounted : Accounted l c) (acts : CaptureActs id l c m d) :
    Accounted l d := by
  cases acts with
  | accepted source data _ room =>
    simp only [Capture.hasRoom, Bool.and_eq_true, decide_eq_true_eq] at room
    refine ⟨?_, room.2, ?_⟩
    · simp [Capture.append, accounted.bytes, queuedBytes, Capture.offered]
    · rw [Capture.append, List.length_append, List.length_singleton]
      omega
  | failed e sound =>
    have cleared : c.fail e =
        { c with err := some e, closed := true, queue := [], bytes := 0 } := by
      simp [Capture.fail, sound]
    rw [cleared]
    exact ⟨rfl, Int.natCast_nonneg _, Nat.zero_le _⟩
  | finished => exact ⟨accounted.bytes, accounted.bytesBound, accounted.eventsBound⟩
  | stored | refused | rejected | receiveFailed | eof => exact accounted
  | received o rest _ first =>
    have bytes := accounted.bytes
    have events := accounted.eventsBound
    have bound := accounted.bytesBound
    simp only [first, queuedBytes, List.map_cons, List.sum_cons, List.length_cons] at bytes events
    refine ⟨?_, ?_, ?_⟩
    · simp only [queuedBytes]
      omega
    · simp only
      omega
    · simp only
      omega

/-- The failure of the capture is the one recorded, and it leaves nothing in the queue. -/
structure Failing (trace : CaptureTrace) (c : Capture) : Prop where
  recorded : trace.failures = c.err.toList
  cleared : c.err.isSome → c.queue = [] ∧ c.closed = true

theorem Failing.append (failing : Failing trace c) (silent : m.failure = none)
    (same : d.err = c.err) (cleared : c.err.isSome → d.queue = [] ∧ d.closed = true) :
    Failing (trace ++ [m]) d where
  recorded := by
    rw [same, ← failing.recorded]
    simp [failures, silent]
  cleared := by
    rw [same]
    exact cleared

theorem Failing.acts (failing : Failing trace c) (acts : CaptureActs id l c m d) :
    Failing (trace ++ [m]) d := by
  cases acts with
  | accepted source data running _ =>
    refine failing.append rfl rfl fun failed => ?_
    rw [(failing.cleared failed).2] at running
    cases running
  | failed e sound =>
    have none := failing.recorded
    rw [sound] at none
    constructor
    · have before : trace.filterMap CaptureMark.failure = [] := none
      simp [failures, before, CaptureMark.failure, Capture.fail, sound]
    · simp [Capture.fail, sound]
  | finished => exact failing.append rfl rfl fun failed => ⟨(failing.cleared failed).1, rfl⟩
  | stored | refused | rejected | receiveFailed | eof =>
    exact failing.append rfl rfl failing.cleared
  | received o rest sound _ => exact failing.append rfl rfl fun failed => by simp [sound] at failed

/-- Outputs leave the queue in the order they entered it, under consecutive numbers. -/
structure Ordered (trace : CaptureTrace) (c : Capture) : Prop where
  counted : c.sequence = trace.outputs.length % 2 ^ 64
  numbered : trace.outputs.map (·.sequence) =
    (List.range trace.outputs.length).map fun k => (k + 1) % 2 ^ 64
  delivered : trace.deliveries <+: trace.outputs
  kept : c.err = none → trace.outputs = trace.deliveries ++ c.queue

theorem Ordered.append (ordered : Ordered trace c) (silent : m.output = none ∧ m.delivery = none)
    (same : d.sequence = c.sequence) (kept : d.err = none → c.err = none ∧ d.queue = c.queue) :
    Ordered (trace ++ [m]) d := by
  have outputs : outputs (trace ++ [m]) = trace.outputs := by
    simp [outputs, silent.1]
  have deliveries : deliveries (trace ++ [m]) = trace.deliveries := by
    simp [deliveries, silent.2]
  constructor
  · rw [same, outputs]
    exact ordered.counted
  · rw [outputs]
    exact ordered.numbered
  · rw [outputs, deliveries]
    exact ordered.delivered
  · intro sound
    rw [outputs, deliveries, (kept sound).2]
    exact ordered.kept (kept sound).1

theorem Ordered.accepts (ordered : Ordered trace c) (sound : c.err = none) (source : OutputSource)
    (data : Handshake.Bytes) :
    Ordered (trace ++ [.accepted (c.offered id source data)]) (c.append id source data) := by
  have outputs : outputs (trace ++ [.accepted (c.offered id source data)]) =
      trace.outputs ++ [c.offered id source data] := by
    simp [outputs, output]
  have deliveries : deliveries (trace ++ [.accepted (c.offered id source data)]) =
      trace.deliveries := by
    simp [deliveries, delivery]
  have number : increment c.sequence = (trace.outputs.length + 1) % 2 ^ 64 := by
    rw [ordered.counted, increment, Nat.mod_add_mod]
  constructor
  · rw [outputs, List.length_append, List.length_singleton]
    exact number
  · rw [outputs, List.map_append, ordered.numbered, List.length_append, List.length_singleton,
      List.range_succ, List.map_append]
    simp [Capture.offered, number]
  · rw [outputs, deliveries]
    exact ordered.delivered.trans (List.prefix_append _ _)
  · intro _
    rw [outputs, deliveries, ordered.kept sound, List.append_assoc]
    rfl

theorem Ordered.acts (ordered : Ordered trace c) (failing : Failing trace c)
    (acts : CaptureActs id l c m d) : Ordered (trace ++ [m]) d := by
  cases acts with
  | accepted source data running _ =>
    have sound : c.err = none := by
      by_contra failed
      rw [(failing.cleared (Option.isSome_iff_ne_none.mpr failed)).2] at running
      cases running
    exact ordered.accepts sound source data
  | failed e sound =>
    refine ordered.append ⟨rfl, rfl⟩ (by simp [Capture.fail, sound]) fun none => ?_
    simp [Capture.fail, sound] at none
  | finished | stored | refused | rejected | receiveFailed | eof =>
    exact ordered.append ⟨rfl, rfl⟩ rfl fun sound => ⟨sound, rfl⟩
  | received o rest sound first =>
    have kept := ordered.kept sound
    rw [first] at kept
    have outputs : outputs (trace ++ [.received o]) = trace.outputs := by
      simp [outputs, output]
    have deliveries : deliveries (trace ++ [.received o]) =
        trace.deliveries ++ [o] := by
      simp [deliveries, delivery]
    have whole : trace.outputs = (trace.deliveries ++ [o]) ++ rest := by
      rw [kept, List.append_assoc]
      rfl
    constructor
    · rw [outputs]
      exact ordered.counted
    · rw [outputs]
      exact ordered.numbered
    · rw [outputs, deliveries, whole]
      exact List.prefix_append _ _
    · intro _
      rw [outputs, deliveries, whole]

structure Captured (l : CaptureLimits) (trace : CaptureTrace) (c : Capture) : Prop where
  accounted : Accounted l c
  failing : Failing trace c
  ordered : Ordered trace c

theorem Captured.new : Captured l [] .new where
  accounted := ⟨rfl, Int.natCast_nonneg _, Nat.zero_le _⟩
  failing := ⟨rfl, fun failed => nomatch failed⟩
  ordered := ⟨rfl, rfl, List.prefix_rfl, fun _ => rfl⟩

theorem Captured.acts (captured : Captured l trace c) (acts : CaptureActs id l c m d) :
    Captured l (trace ++ [m]) d where
  accounted := captured.accounted.acts acts
  failing := captured.failing.acts acts
  ordered := captured.ordered.acts captured.failing acts

end Actions

/-! ### Every run -/

namespace CaptureRun
variable {id : String} {l : CaptureLimits} {s : CaptureRun}

/-- A call fails the capture only with an error of its own checks. -/
def OwnFailures (s : CaptureRun) : Prop :=
  ∀ producer e gated, s.producers producer = some ⟨.failing e, gated⟩ → e ∈ ownErrors

/-- The sections so far lead to the fields under the mutex. -/
structure Follows (id : String) (l : CaptureLimits) (s : CaptureRun) : Prop where
  accepted : Accepted (CaptureActs id l) .new s.trace s.capture
  own : OwnFailures s

theorem Follows.new : Follows id l .new := ⟨.nil, fun _ _ _ none => nomatch none⟩

theorem Follows.captured (follows : Follows id l s) : Captured l s.trace s.capture :=
  follows.accepted.invariant Captured.new fun captured acts => captured.acts acts

/-- A capture that is not closed has not failed. -/
theorem Follows.sound (follows : Follows id l s) (running : s.capture.closed = false) :
    s.capture.err = none := by
  by_contra failed
  rw [(follows.captured.failing.cleared (Option.isSome_iff_ne_none.mpr failed)).2] at running
  cases running

theorem Follows.mark (follows : Follows id l s) {m : CaptureMark} {d : Capture}
    (acts : CaptureActs id l s.capture m d) : Follows id l { s.mark m with capture := d } :=
  ⟨.concat follows.accepted acts, follows.own⟩

theorem Follows.place (follows : Follows id l s) {producer : Nat} {at_ : Producer}
    (own : ∀ e, at_ = .failing e → e ∈ ownErrors) (gated gate : Bool) :
    Follows id l { s.place producer at_ gated with eventGate := gate } := by
  refine ⟨follows.accepted, fun other e g found => ?_⟩
  by_cases same : other = producer
  · subst same
    simp only [CaptureRun.place, Function.update_self, Option.some.injEq, Emission.mk.injEq]
      at found
    exact own e found.1
  · simp only [CaptureRun.place, Function.update_of_ne same] at found
    exact follows.own other e g found

theorem Follows.returns (follows : Follows id l s) {producer : Nat} {gated own : Bool}
    {error : Option Error}
    (acts : CaptureActs id l s.capture (.emitted producer error own) s.capture) :
    Follows id l (s.returns producer gated error own) := by
  refine ⟨.concat follows.accepted acts, fun other e g found => ?_⟩
  by_cases same : other = producer
  · subst same
    simp [CaptureRun.returns, CaptureRun.mark] at found
  · simp only [CaptureRun.returns, CaptureRun.mark, Function.update_of_ne same] at found
    exact follows.own other e g found

theorem Follows.failWith (follows : Follows id l s) (e : Error) : Follows id l (s.failWith e) := by
  unfold CaptureRun.failWith
  split
  · exact follows
  · rename_i sound
    exact follows.mark (.failed e (Option.not_isSome_iff_eq_none.mp sound))

theorem Follows.enter (follows : Follows id l s) (producer : Nat) (source : OutputSource)
    (raw : Handshake.Bytes) (gated gate : Bool) :
    Follows id l (CaptureRun.enter l { s with eventGate := gate } producer source raw gated) := by
  unfold CaptureRun.enter
  split
  · refine follows.place (fun e same => ?_) gated gate
    cases same
    simp [ownErrors]
  · exact follows.place (fun e same => by cases same) gated gate

/-- A call whose check failed waits to fail the capture. -/
theorem Follows.reject (follows : Follows id l s) (producer : Nat) {e : Error}
    (own : e ∈ ownErrors) (gated : Bool) :
    Follows id l (s.place producer (.failing e) gated) :=
  follows.place (fun _ same => by cases same; exact own) gated s.eventGate

theorem Follows.proceeds (follows : Follows id l s) {producer : Nat} {e : Emission}
    (found : s.producers producer = some e) (safe : Option Handshake.Bytes) :
    Follows id l (s.section_ id l producer e safe) := by
  obtain ⟨at_, gated⟩ := e
  unfold CaptureRun.section_
  cases at_ with
  | failing error =>
    exact (follows.failWith error).returns (.rejected producer error (follows.own _ _ _ found))
  | checking source raw =>
    simp only
    split
    · rename_i closed
      exact follows.returns (.refused producer closed)
    · exact follows.place (fun _ same => by cases same) gated s.eventGate
  | sanitizing source raw =>
    cases safe with
    | none => exact follows.reject producer (by simp [ownErrors]) gated
    | some safe =>
      simp only
      split
      · exact follows.reject producer (by simp [ownErrors]) gated
      · exact follows.place (fun _ same => by cases same) gated s.eventGate
  | offering source data =>
    simp only
    split
    · rename_i closed
      exact follows.returns (.refused producer closed)
    · rename_i running
      split
      · rename_i room
        have open_ : s.capture.closed = false := Bool.not_eq_true _ ▸ running
        have stored := follows.mark (.accepted source data open_ room)
        exact stored.returns (.stored producer (follows.sound open_))
      · exact follows

theorem Follows.receives (follows : Follows id l s) : Follows id l s.receive := by
  unfold CaptureRun.receive
  split
  · rename_i e failed
    exact follows.mark (.receiveFailed e failed)
  · rename_i o rest sound first
    exact follows.mark (.received o rest sound first)
  · rename_i sound empty
    split
    · rename_i closed
      exact follows.mark (.eof sound closed empty)
    · exact follows

theorem Follows.step (follows : Follows id l s) (e : CaptureEvent) :
    Follows id l (s.step id l e) := by
  cases e with
  | emit producer source raw =>
    simp only [CaptureRun.step]
    split
    · exact follows
    · exact follows.enter producer source raw false s.eventGate
  | emitEvent producer raw =>
    simp only [CaptureRun.step]
    split
    · exact follows
    · split
      · exact follows.reject producer (by simp [ownErrors]) false
      · exact follows.enter producer .adapterEvent raw true true
  | proceed producer safe =>
    simp only [CaptureRun.step]
    split
    · rename_i e found
      exact follows.proceeds found safe
    · exact follows
  | expire producer =>
    simp only [CaptureRun.step]
    split
    · rename_i gated _
      exact follows.reject producer (by simp [ownErrors]) gated
    · exact follows
  | receive => exact follows.receives
  | fail e => exact follows.failWith e
  | finish => exact follows.mark .finished

/-! ### Draining -/

/-- A closed capture that is not looked at keeps its queue, unless it fails. -/
structure Undisturbed (s t : CaptureRun) : Prop where
  err : t.capture.err = s.capture.err
  closed : t.capture.closed = s.capture.closed
  queue : t.capture.queue = s.capture.queue
  deliveries : deliveries t.trace = deliveries s.trace
  endings : endings t.trace = endings s.trace

theorem Undisturbed.refl : Undisturbed s s := ⟨rfl, rfl, rfl, rfl, rfl⟩

end CaptureRun

open CaptureRun

/-! ### The discipline of a capture -/

end ThinkPixelAR.App
