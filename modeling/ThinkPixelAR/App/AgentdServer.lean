import ThinkPixelAR.Relational.Runs
import ThinkPixelAR.Adapters.Control

/-!
`Handler.Serve` (`internal/app/agentdserver/handler.go`): the server side of one agentd
session. The loop selects among the end of the session, a tick and a received frame, in
any order; what the outcome store, the rotation, `Observe`, the clock, the identifier
source and `Session.Send` answer is given with each event. The loop also keeps a trace of
what it received, read and handed to `Send`.
-/
namespace ThinkPixelAR.App

open Control
open Handshake (Bytes Welcome)

def errSession : Error := .new "agentd session stopped"

/-- `agentdserver.Command`. -/
structure PlannedCommand where
  operationID : String
  configurationDigest : String
  harnessHandle : String
  kind : CommandKind
  payload : Bytes
  deadline : Time

inductive DispatchOutcome where
  | pending
  | acknowledged
  | unknown
deriving DecidableEq

/-- The answer of `CommandOutcome`: an outcome, `ErrCommandNotFound`, or another error. -/
inductive OutcomeRead where
  | found (outcome : DispatchOutcome)
  | notFound
  | unavailable

/-- What one call of `send` meets: the identifier of the frame, if one can be drawn, the
time in milliseconds, and the error of `Session.Send`. -/
structure SendAnswer where
  id : Option String
  now : Int
  error : Option Error

inductive ServerMark where
  /-- A frame handed to `Session.Send`; a command with its index in the plan. -/
  | handed (f : Envelope) (entry : Option Nat)
  /-- `send` could not draw an identifier; it sends nothing. -/
  | undrawn
  | received (f : Envelope)
  | read (entry : Nat) (outcome : DispatchOutcome)
  /-- `Observe` accepted the frame. -/
  | accepted (f : Envelope)

/-- The variables of the loop; `stopped` is what `Serve` has returned. -/
structure ServerLoop where
  sequence : Nat
  index : Nat
  pending : String
  stopped : Option (Option Error)
  trace : List ServerMark

inductive ServerEvent where
  | done
  | tick (outcome : OutcomeRead) (now : Int) (answer : SendAnswer)
  | receive (f : Envelope) (rotated : Option Rotation) (observed : Bool) (answer : SendAnswer)
  | receiveFailed

/-- What stays the same in a session. -/
structure ServerSession where
  lib : Library
  plan : List PlannedCommand
  welcome : Welcome
  deadlineUnixMS : Int

namespace ServerLoop

def start : ServerLoop := ⟨0, 0, "", none, []⟩

def stop (s : ServerLoop) (error : Option Error) : ServerLoop := { s with stopped := some error }

def mark (s : ServerLoop) (m : ServerMark) : ServerLoop := { s with trace := s.trace ++ [m] }

end ServerLoop

/-- `Serve` up to its loop: the plan is bounded, and so is every payload of it. -/
def ServerSession.ofPlan (lib : Library) (plan : Option (List PlannedCommand)) (welcome : Welcome)
    (deadline : Option Time) : Except Error ServerSession :=
  match plan with
  | none => .error errSession
  | some plan =>
    if 128 < plan.length then .error errSession
    else if plan.any (maxTurnPayloadBytes < ·.payload.length) then .error errSession
    else
      match deadline with
      | none => .error errSession
      | some deadline =>
        .ok { lib, plan, welcome, deadlineUnixMS := Agentd.unixMilli deadline }

namespace ServerSession
variable (session : ServerSession)

/-- The frame as `send` completes it. -/
def complete (f : Envelope) (id : String) (sequence : Nat) (now : Int) : Envelope :=
  { f with
    major := session.welcome.major
    minor := session.welcome.minor
    binding := session.welcome.binding
    connectionID := session.welcome.connectionID
    connectionEpoch := session.welcome.connectionEpoch
    messageID := id
    sequence := sequence
    sentUnixMS := now
    deadlineUnixMS :=
      if f.deadlineUnixMS = 0 || session.deadlineUnixMS < f.deadlineUnixMS then
        session.deadlineUnixMS
      else f.deadlineUnixMS }

/-- `send`, with the error it returns. -/
def send (s : ServerLoop) (f : Envelope) (entry : Option Nat) (answer : SendAnswer) :
    ServerLoop × Option Error :=
  match answer.id with
  | none => (s.mark .undrawn, some errSession)
  | some id =>
    let sequence := increment s.sequence
    (({ s with sequence := sequence }).mark
      (.handed (session.complete f id sequence answer.now) entry), answer.error)

def requestDigest (c : PlannedCommand) : String :=
  if c.kind = .execute then
    turnDigest session.lib c.configurationDigest c.harnessHandle c.payload
  else digest session.lib c.kind c.configurationDigest c.harnessHandle

/-- The frame of a planned command before `send`. -/
def commandFrame (c : PlannedCommand) (now : Int) : Envelope :=
  { Envelope.of (.command
      { kind := c.kind
        configurationDigest := c.configurationDigest
        payloadSchema := if c.kind = .execute then turnCapability else capability
        payload := c.payload
        artifactReference := "" }) with
    operationID := c.operationID
    harnessHandle := c.harnessHandle
    requestDigest := session.requestDigest c
    deadlineUnixMS := Agentd.unixMilli c.deadline
    sentUnixMS := now }

/-- A command without a stored outcome is checked and sent. -/
def dispatch (s : ServerLoop) (c : PlannedCommand) (now : Int) (answer : SendAnswer) : ServerLoop :=
  if !accepts session.lib now (session.commandFrame c now) c.configurationDigest then
    s.stop (some errSession)
  else
    match session.send s (session.commandFrame c now) (some s.index) answer with
    | (s, some _) => s.stop (some errSession)
    | (s, none) => { s with pending := c.operationID }

/-- A tick of the dispatch timer. -/
def tick (s : ServerLoop) (outcome : OutcomeRead) (now : Int) (answer : SendAnswer) : ServerLoop :=
  if s.pending ≠ "" then s
  else
    match session.plan[s.index]? with
    | none => s
    | some c =>
      match outcome with
      | .found outcome =>
        let s := s.mark (.read s.index outcome)
        if outcome ≠ .acknowledged then s.stop (some errSession)
        else { s with index := s.index + 1 }
      | .notFound => session.dispatch s c now answer
      | .unavailable => s.stop (some errSession)

/-- A received rotation request: the last frame of the session. -/
def rotate (s : ServerLoop) (rotated : Option Rotation) (answer : SendAnswer) : ServerLoop :=
  if s.pending ≠ "" then s.stop (some errSession)
  else
    match rotated with
    | none => s.stop (some errSession)
    | some reply =>
      match session.send s (Envelope.of (.rotation reply)) none answer with
      | (s, error) => s.stop error

/-- A frame with the identifier of the pending operation. -/
def correlate (s : ServerLoop) (f : Envelope) : ServerLoop :=
  if f.operationID ≠ "" && f.operationID = s.pending then
    if f.getFailure.isSome then s.stop (some errSession)
    else if f.getAcknowledgement.isSome then { s with pending := "", index := s.index + 1 }
    else s
  else s

/-- A heartbeat or an observation is observed and acknowledged. -/
def report (s : ServerLoop) (f : Envelope) (observed : Bool) (answer : SendAnswer) : ServerLoop :=
  if f.isReport then
    if !observed then s.stop (some errSession)
    else
      match session.send (s.mark (.accepted f)) (Envelope.of (.acknowledgement
        { messageID := f.messageID, requestDigest := "", acceptedSequence := f.sequence
          eventCredit := 0 })) none answer with
      | (s, some _) => s.stop (some errSession)
      | (s, none) => s
  else s

/-- A received frame. -/
def receive (s : ServerLoop) (f : Envelope) (rotated : Option Rotation) (observed : Bool)
    (answer : SendAnswer) : ServerLoop :=
  let s := s.mark (.received f)
  if f.getRotation.isSome then session.rotate s rotated answer
  else
    let s := correlate s f
    if s.stopped.isSome then s else session.report s f observed answer

def step (s : ServerLoop) (e : ServerEvent) : ServerLoop :=
  if s.stopped.isSome then s
  else
    match e with
    | .done => s.stop none
    | .tick outcome now answer => session.tick s outcome now answer
    | .receive f rotated observed answer => session.receive s f rotated observed answer
    | .receiveFailed => s.stop (some errSession)

/-- `Serve`: the session and its loop after the events. -/
def serve (lib : Library) (plan : Option (List PlannedCommand)) (welcome : Welcome)
    (deadline : Option Time) (events : List ServerEvent) :
    Except Error (ServerSession × ServerLoop) :=
  match ofPlan lib plan welcome deadline with
  | .error e => .error e
  | .ok session => .ok (session, Relational.run session.step .start events)

end ServerSession
end ThinkPixelAR.App
