import ThinkPixelAR.Adapters.Codex.Client

/-!
Interrupting the turn (`interrupt.go`) while the event stream reads. Both take lines from
one reader, under the client's gate; what `InterruptTurn` reads and does not need it keeps
in `pending`, which the stream empties before it reads a line itself.

The gate covers the reader only. `InterruptTurn` stores `interruptSent` and writes its
request outside it, so the stream may hold a line in its hands while either happens. The
steps of the two are therefore interleaved here at the points where they touch what the
other one sees.
-/
namespace ThinkPixelAR.Codex

open Harness

/-- `interruptResponse`. -/
def interruptResponse (f : Fields) (c : Client) : Except Error Unit × Client :=
  if !c.interruptSent || c.interruptAcknowledged || f.length ≠ 2 ||
      textOf (f.lookup "id") ≠ ['4'] then (.error errProtocol, c)
  else
    match objectOf (f.lookup "result") with
    | some [] => (.ok (), { c with interruptAcknowledged := true })
    | _ => (.error errProtocol, c)

/-- A notification that may be kept for the stream. -/
def retainable (f : Fields) : Bool :=
  keys f ["method", "params", "emittedAtMs"] && field f "method" ≠ "" &&
    (objectOf (f.lookup "params")).isSome

/-- The part of `readInterruptFrame` after a line was read. -/
def interruptFrame (raw : Bytes) (c : Client) : Except Error Unit × Client :=
  if !validVendorJSON raw then (.error errProtocol, c)
  else
    match object (runes raw) with
    | none => (.error errProtocol, c)
    | some f =>
      if (f.lookup "id").isSome then interruptResponse f c
      else if !retainable f then (.error errProtocol, c)
      else if 32 ≤ c.pending.length || maxHandshakeBytes < c.pendingBytes + raw.length then
        (.error errStreamIntegrity, c)
      else
        (.ok (), { c with
          pending := c.pending ++ [raw], pendingBytes := c.pendingBytes + raw.length })

/-- `readInterruptFrame`; `readable` says whether the pipe still gives lines. -/
def readInterruptFrame (readable : Bool) (c : Client) : Except Error Unit × Client :=
  -- the stream may have acknowledged just before it released the gate
  if c.interruptAcknowledged then (.ok (), c)
  else
    match readLine readable.toNat c.lines with
    | none => (.error errOutcomeUnknown, c)
    | some (raw, lines) => interruptFrame raw { c with lines }

/-- `readEventFrame`. -/
def readEventFrame (readable : Bool) (c : Client) : Option (Bytes × Client) :=
  match c.pending with
  | [] => (readLine readable.toNat c.lines).map fun p => (p.1, { c with lines := p.2 })
  | raw :: pending => some (raw, { c with pending, pendingBytes := c.pendingBytes - raw.length })

/-- How `normalize` treats a frame with an identifier. What it says of any other frame is
`verdict`. -/
def normalizeResponse (verdict : Option Error) (raw : Bytes) (c : Client) :
    Except Error Unit × Client :=
  if !validVendorJSON raw then (.error errProtocol, c)
  else
    match object (runes raw) with
    | none => (.error errProtocol, c)
    | some f =>
      if (f.lookup "id").isSome then interruptResponse f c
      else
        match verdict with
        | some e => (.error e, c)
        | none => (.ok (), c)

def interruptRequest (target : String × String) : Request :=
  { id := 4, method := "turn/interrupt"
    params := .object [("threadId", .string target.1), ("turnId", .string target.2)] }

/-! ### The two readers -/

/-- How far the call of `InterruptTurn` that holds the interrupt gate has come. -/
inductive Phase where
  | idle
  /-- Before `interruptSent` is stored. -/
  | attempted
  /-- Before the request is written. -/
  | sent
  /-- At the head of the loop. -/
  | polling
  /-- Before the client's gate is tried. -/
  | trying
deriving DecidableEq

/-- What happened, for the record. -/
inductive Mark where
  | stored
  | written
  /-- A line was read from the pipe. -/
  | read (raw : Bytes)
  /-- A frame was handed to `normalize`. -/
  | handed (raw : Bytes)
  /-- A frame was taken for the response. -/
  | accepted (raw : Bytes)
  /-- `InterruptTurn` returned nil. -/
  | returned
deriving DecidableEq

structure System where
  client : Client
  phase : Phase
  /-- A call of `Next` holds the client's gate. -/
  streaming : Bool
  /-- The frame that call read and has not normalized. -/
  frame : Option Bytes
  /-- `Next` returned an error and will return it again. -/
  streamFailed : Bool
  /-- Some call returned an error; a held gate is not counted. -/
  failed : Bool
  log : List Mark

/-- A step of one of the two, with what the world contributes to it. -/
inductive Action where
  /-- `InterruptTurn` is called. -/
  | call (expired : Bool)
  | store
  | write (succeeds : Bool)
  | look (expired : Bool)
  | tryRead (expired readable : Bool)
  /-- `Next` is called. -/
  | next
  | take (readable : Bool)
  | normalize (verdict : Option Error)
  /-- `Next` returns. -/
  | release (expired : Bool)

/-- The mark of a response, if the client took one. -/
def acceptance (raw : Bytes) (before after : Client) : List Mark :=
  if !before.interruptAcknowledged && after.interruptAcknowledged then [.accepted raw] else []

/-- The marks of a read by `InterruptTurn`. -/
def interruptMarks (readable : Bool) (before after : Client) : List Mark :=
  if before.interruptAcknowledged then []
  else
    match readLine readable.toNat before.lines with
    | none => []
    | some (raw, _) => .read raw :: acceptance raw before after

namespace System

/-- `InterruptTurn` returns through its handler. -/
def conclude (answer : Option Error) (s : System) : System :=
  { s with
    client := { s.client with interruptErr := answer }, phase := .idle
    failed := s.failed || answer.isSome
    log := if answer.isNone then s.log ++ [.returned] else s.log }

/-- `Next` fails: the stream never reads again. -/
def fail (s : System) : System :=
  { s with streaming := false, frame := none, streamFailed := true, failed := true }

/-- One step. An action that is not enabled changes nothing: a gate that is held refuses. -/
def step (s : System) : Action → System
  | .call expired =>
    if s.phase ≠ .idle then s
    else
      match s.client.interruptTarget with
      | none => { s with failed := true }
      | some _ =>
        if s.client.interruptAttempted then
          match s.client.interruptErr with
          | none => { s with log := s.log ++ [.returned] }
          | some _ => { s with failed := true }
        else if expired then { s with failed := true }
        else { s with client := { s.client with interruptAttempted := true }, phase := .attempted }
  | .store =>
    if s.phase ≠ .attempted then s
    else
      { s with
        client := { s.client with interruptSent := true }, phase := .sent
        log := s.log ++ [.stored] }
  | .write succeeds =>
    if s.phase ≠ .sent then s
    else
      match s.client.interruptTarget with
      | none => s
      | some target =>
        let s := { s with
          client := { s.client with requests := s.client.requests ++ [interruptRequest target] }
          phase := .polling, log := s.log ++ [.written] }
        if succeeds then s else s.conclude (some errOutcomeUnknown)
  | .look expired =>
    if s.phase ≠ .polling then s
    else if expired then s.conclude (some errOutcomeUnknown)
    else if s.client.interruptAcknowledged then s.conclude none
    else { s with phase := .trying }
  | .tryRead expired readable =>
    if s.phase ≠ .trying then s
    else if s.streaming then
      if expired then s.conclude (some errOutcomeUnknown) else { s with phase := .polling }
    else
      let (answer, client) := readInterruptFrame readable s.client
      let s := { s with
        client, phase := .polling, log := s.log ++ interruptMarks readable s.client client }
      match answer with
      | .ok _ => s
      | .error e => s.conclude (some e)
  | .next => if s.streaming || s.streamFailed then s else { s with streaming := true }
  | .take readable =>
    if !s.streaming || s.frame.isSome then s
    else
      match readEventFrame readable s.client with
      | none => s.fail
      | some (raw, client) =>
        let marks : List Mark :=
          if s.client.pending.isEmpty then [.read raw, .handed raw] else [.handed raw]
        { s with client, frame := some raw, log := s.log ++ marks }
  | .normalize verdict =>
    match s.streaming, s.frame with
    | true, some raw =>
      let (answer, client) := normalizeResponse verdict raw s.client
      let s := { s with client, frame := none, log := s.log ++ acceptance raw s.client client }
      match answer with
      | .ok _ => s
      | .error _ => s.fail
    | _, _ => s
  | .release expired =>
    if !s.streaming || s.frame.isSome then s
    else if expired then s.fail
    else { s with streaming := false }

/-- A schedule: the steps in the order they happen. -/
def run (s : System) (schedule : List Action) : System := schedule.foldl step s

/-- The turn is accepted, or it is not; nothing was read, and nobody called. -/
def start (target : Option (String × String)) (lines : List Bytes) : System :=
  { client := { Client.ready lines with interruptTarget := target }, phase := .idle
    streaming := false, frame := none, streamFailed := false, failed := false, log := [] }

end System

end ThinkPixelAR.Codex
