import ThinkPixelAR.Adapters.Handshake
import ThinkPixelAR.Relational.Runs

/-!
The bounded output capture of a harness process (`internal/app/agentd/capture.go`).
Producers and the one consumer meet in a queue under a mutex; between two critical
sections anything may happen. A producer is therefore kept with the section it enters
next, and every section is one event. Clearing of buffers is left out.
-/
namespace ThinkPixelAR.App

open Handshake (Bytes)

def errOutputLimit : Error := .new "harness output limit exceeded"
def errOutputBackpressure : Error := .new "harness output consumer stalled"
def errOutputRedaction : Error := .new "harness output redaction failed"
def errOutputClosed : Error := .new "harness output closed"

inductive OutputSource where
  | stdout
  | stderr
  | adapterEvent
deriving DecidableEq

structure Output where
  processID : String
  sequence : Nat
  source : OutputSource
  data : Bytes
deriving DecidableEq

structure CaptureLimits where
  maxEvents : Nat
  maxBytes : Nat
  maxEvent : Nat
  maxDiagnostic : Nat

/-- What a record of the source may hold. -/
def CaptureLimits.record (l : CaptureLimits) : OutputSource → Nat
  | .adapterEvent => l.maxEvent
  | _ => l.maxDiagnostic

/-- The fields that the mutex guards; `sequence` is a `uint64`. -/
structure Capture where
  queue : List Output
  bytes : Int
  sequence : Nat
  closed : Bool
  err : Option Error

namespace Capture

def new : Capture := ⟨[], 0, 0, false, none⟩

def fail (e : Error) (c : Capture) : Capture :=
  if c.err.isSome then c
  else { c with err := some e, closed := true, queue := [], bytes := 0 }

def finish (c : Capture) : Capture := { c with closed := true }

/-- What `emit` returns once the capture is closed. -/
def refusal (c : Capture) : Error := c.err.getD errOutputClosed

/-- The output that `emit` appends if there is room. -/
def offered (id : String) (source : OutputSource) (data : Bytes) (c : Capture) : Output :=
  ⟨id, increment c.sequence, source, data⟩

def hasRoom (l : CaptureLimits) (data : Bytes) (c : Capture) : Bool :=
  c.queue.length < l.maxEvents && c.bytes + data.length ≤ l.maxBytes

def append (id : String) (source : OutputSource) (data : Bytes) (c : Capture) : Capture :=
  { c with
    sequence := increment c.sequence
    queue := c.queue ++ [c.offered id source data]
    bytes := c.bytes + data.length }

end Capture

/-- The section a call of `emit` enters next. -/
inductive Producer where
  /-- The first look at the capture. -/
  | checking (source : OutputSource) (raw : Bytes)
  | sanitizing (source : OutputSource) (raw : Bytes)
  | offering (source : OutputSource) (data : Bytes)
  /-- A check of the call itself failed: it fails the capture and returns the error. -/
  | failing (e : Error)

/-- A call in progress; `gated` if it holds the gate of `EmitEvent`. -/
structure Emission where
  at_ : Producer
  gated : Bool

inductive CaptureMark where
  | accepted (o : Output)
  | failed (e : Error)
  | finished
  /-- A call of `emit` returned; `own` if a check of the call itself failed. -/
  | emitted (producer : Nat) (error : Option Error) (own : Bool)
  | received (o : Output)
  | receiveFailed (e : Error)
  | eof
deriving DecidableEq

structure CaptureRun where
  capture : Capture
  producers : Nat → Option Emission
  eventGate : Bool
  trace : List CaptureMark

/-- The calls and sections. A call enters under a number that no call in progress has. -/
inductive CaptureEvent where
  | emit (producer : Nat) (source : OutputSource) (raw : Bytes)
  | emitEvent (producer : Nat) (raw : Bytes)
  /-- The next section of the call; `safe` is the result of the sanitizer, none for an
  error or a panic. -/
  | proceed (producer : Nat) (safe : Option Bytes)
  /-- The timer of a waiting call fires. -/
  | expire (producer : Nat)
  /-- `Receive` looks at the queue. -/
  | receive
  /-- `fail` from outside: `Close`, the drain timer, a failed wait, the line writer. -/
  | fail (e : Error)
  | finish
deriving DecidableEq

namespace CaptureRun

def new : CaptureRun := ⟨.new, fun _ => none, false, []⟩

def mark (s : CaptureRun) (m : CaptureMark) : CaptureRun := { s with trace := s.trace ++ [m] }

/-- The section of `fail`; only the first failure is recorded. -/
def failWith (e : Error) (s : CaptureRun) : CaptureRun :=
  if s.capture.err.isSome then s
  else { s with capture := s.capture.fail e }.mark (.failed e)

def place (s : CaptureRun) (producer : Nat) (at_ : Producer) (gated : Bool) : CaptureRun :=
  { s with producers := Function.update s.producers producer (some ⟨at_, gated⟩) }

/-- The call returns and gives up the event gate if it holds it. -/
def returns (s : CaptureRun) (producer : Nat) (gated : Bool) (error : Option Error) (own : Bool) :
    CaptureRun :=
  { s with
    producers := Function.update s.producers producer none
    eventGate := s.eventGate && !gated }.mark (.emitted producer error own)

variable (id : String) (l : CaptureLimits)

/-- The head of `emit`, before its first section. -/
def enter (s : CaptureRun) (producer : Nat) (source : OutputSource) (raw : Bytes) (gated : Bool) :
    CaptureRun :=
  if raw.length > l.record source then s.place producer (.failing errOutputLimit) gated
  else s.place producer (.checking source raw) gated

/-- The section the call is at. -/
def section_ (s : CaptureRun) (producer : Nat) (e : Emission) (safe : Option Bytes) : CaptureRun :=
  match e.at_ with
  | .failing error => (s.failWith error).returns producer e.gated (some error) true
  | .checking source raw =>
    if s.capture.closed then s.returns producer e.gated (some s.capture.refusal) false
    else s.place producer (.sanitizing source raw) e.gated
  | .sanitizing source _ =>
    match safe with
    | none => s.place producer (.failing errOutputRedaction) e.gated
    | some safe =>
      if safe.length > l.record source || safe.length > l.maxBytes then
        s.place producer (.failing errOutputLimit) e.gated
      else s.place producer (.offering source safe) e.gated
  | .offering source data =>
    if s.capture.closed then s.returns producer e.gated (some s.capture.refusal) false
    else if s.capture.hasRoom l data then
      { s.mark (.accepted (s.capture.offered id source data)) with
        capture := s.capture.append id source data }.returns producer e.gated none false
    else s

def receive (s : CaptureRun) : CaptureRun :=
  match s.capture.err, s.capture.queue with
  | some e, _ => s.mark (.receiveFailed e)
  | none, o :: rest =>
    { s with capture := { s.capture with
        queue := rest, bytes := s.capture.bytes - o.data.length } }.mark (.received o)
  | none, [] => if s.capture.closed then s.mark .eof else s

def step (s : CaptureRun) : CaptureEvent → CaptureRun
  | .emit producer source raw =>
    if (s.producers producer).isSome then s else s.enter l producer source raw false
  | .emitEvent producer raw =>
    if (s.producers producer).isSome then s
    else if s.eventGate then s.place producer (.failing errOutputBackpressure) false
    else { s with eventGate := true }.enter l producer .adapterEvent raw true
  | .proceed producer safe =>
    match s.producers producer with
    | some e => s.section_ id l producer e safe
    | none => s
  | .expire producer =>
    match s.producers producer with
    | some ⟨.offering _ _, gated⟩ => s.place producer (.failing errOutputBackpressure) gated
    | _ => s
  | .receive => s.receive
  | .fail e => s.failWith e
  | .finish => { s with capture := s.capture.finish }.mark .finished

end CaptureRun

/-! ### Lines -/

def newline : UInt8 := 10

/-- `captureWriter`, with the lines it has emitted and what made its capture fail. -/
structure CaptureWriter where
  pending : Bytes
  emitted : List Bytes
  failure : Option Error

namespace CaptureWriter

def new : CaptureWriter := ⟨[], [], none⟩

variable (maxDiagnostic : Nat) (emit : Bytes → Option Error)

/-- `Write`, with the error it returns; `emit` answers for the capture. -/
def write (w : CaptureWriter) (raw : Bytes) : CaptureWriter × Option Error :=
  if raw = [] then (w, none)
  else
    let n := (raw.takeWhile (· ≠ newline)).length
    if w.pending.length + n > maxDiagnostic then
      ({ w with pending := [], failure := some errOutputLimit }, some errOutputLimit)
    else
      let line := w.pending ++ raw.take n
      match _found : raw.drop n with
      | [] => ({ w with pending := line }, none)
      | _ :: rest =>
        let w := { w with pending := [], emitted := w.emitted ++ [line] }
        match emit line with
        | some e => (w, some e)
        | none => w.write rest
termination_by raw.length
decreasing_by
  have bound := congrArg List.length _found
  simp only [List.length_drop, List.length_cons] at bound
  omega

/-- The rest is emitted as a line of its own; the answer is ignored. -/
def finish (w : CaptureWriter) : CaptureWriter :=
  if w.pending = [] then w
  else { w with pending := [], emitted := w.emitted ++ [w.pending] }

/-- The writes of a copy loop, which stops at the first error. -/
def writes (w : CaptureWriter) : List Bytes → CaptureWriter
  | [] => w
  | raw :: rest =>
    match w.write maxDiagnostic emit raw with
    | (w, none) => w.writes rest
    | (w, some _) => w

/-- All of a stream in the given pieces. -/
def captures (chunks : List Bytes) : CaptureWriter :=
  (writes maxDiagnostic emit .new chunks).finish

end CaptureWriter
end ThinkPixelAR.App
