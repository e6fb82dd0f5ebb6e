import ThinkPixelAR.App.Capture
import ThinkPixelAR.App.ProcessControl
import ThinkPixelAR.App.AgentdServer

/-!
`ProcessControl.Serve` (`internal/app/agentd/control_linux.go`): the agentd side of one
session. One loop sends and receives; a command runs beside it, and the loop learns its
result as one more event. The events come in any order the select allows, each with the
answers of the processes, the credential bootstrap, the identifier source and
`Session.Send`. The trace records what was started, what finished and what was handed to
`Send`.
-/
namespace ThinkPixelAR.App

open Control
open Handshake (Bytes Welcome)

def errConfig : Error := .new "agentd configuration rejected"
def errProcessBusy : Error := .new "harness process operation busy"

/-- What a capture delivers: the end of the output, an error, or data. -/
inductive CapturedOutput where
  | eof
  | failed (error : Error)
  | data (source : OutputSource) (data : Bytes)

inductive ServiceMark where
  | renewal
  | started (f : Envelope)
  | finished (f : Envelope) (result : CommandResult)
  /-- A frame handed to `Session.Send`. -/
  | sent (f : Envelope)

/-- The variables of the loop. `executing` is the frame of the command that runs beside
it; `stopped` is what `Serve` has returned. -/
structure ServiceLoop where
  input : Sequences
  output : Nat
  accepted : Nat
  active : String
  handle : String
  captureID : String
  busy : Bool
  renewalPending : Bool
  renewalDue : Bool
  executing : Option Envelope
  stopped : Option (Option Error)
  trace : List ServiceMark

/-- What one call of `send` meets. -/
structure FrameAnswer where
  id : Option String
  error : Option Error

/-- What the loop meets when it reads a result: the process of the status and the error of
`Output`, the state for the heartbeat, and the answers to its sends. -/
structure ResultAnswer where
  process : String
  output : Option Error
  processState : Int
  observation : FrameAnswer
  reply : FrameAnswer
  heartbeat : FrameAnswer
  rotation : FrameAnswer

inductive ServiceEvent where
  /-- The context ended with `cause`; `cleanup` is what stopping the processes returned. -/
  | done (cause : Error) (cleanup : Option Error) (answer : FrameAnswer)
  | receiveFailed (error : Error)
  | renew (answer : FrameAnswer)
  | captured (output : CapturedOutput) (answer : FrameAnswer)
  | tick (processState : Int) (answer : FrameAnswer)
  | receive (f : Envelope) (now : Int) (installed : Option Error)
  | result (result : CommandResult) (answer : ResultAnswer)

structure ServiceSession where
  lib : Library
  settings : ProcessSettings
  welcome : Welcome
  /-- `json.Marshal` of a started thread. -/
  marshalThread : ThreadStarted → Bytes

namespace ServiceLoop

def start : ServiceLoop where
  input := .zero
  output := 0
  accepted := 0
  active := ""
  handle := ""
  captureID := ""
  busy := false
  renewalPending := false
  renewalDue := false
  executing := none
  stopped := none
  trace := []

def stop (s : ServiceLoop) (error : Option Error) : ServiceLoop := { s with stopped := some error }

def mark (s : ServiceLoop) (m : ServiceMark) : ServiceLoop := { s with trace := s.trace ++ [m] }

/-- `if err := …; err != nil { return err }`. -/
def orReturn : ServiceLoop × Option Error → (ServiceLoop → ServiceLoop) → ServiceLoop
  | (s, some e), _ => s.stop (some e)
  | (s, none), next => next s

end ServiceLoop

namespace ServiceSession
variable (session : ServiceSession)

/-- The frame as `send` completes it. -/
def complete (f : Envelope) (id : String) (sequence : Nat) : Envelope :=
  { f with
    major := session.welcome.major
    minor := session.welcome.minor
    binding := session.welcome.binding
    connectionID := session.welcome.connectionID
    connectionEpoch := session.welcome.connectionEpoch
    messageID := id
    sequence := sequence }

/-- `send`, with the error it returns. -/
def send (f : Envelope) (answer : FrameAnswer) (s : ServiceLoop) : ServiceLoop × Option Error :=
  match answer.id with
  | none => (s, some errControl)
  | some id =>
    if s.output = maxUint64 then (s, some errControl)
    else
      (({ s with output := s.output + 1 }).mark (.sent (session.complete f id (s.output + 1))),
        answer.error)

def heartbeat (processState : Int) (answer : FrameAnswer) (s : ServiceLoop) :
    ServiceLoop × Option Error :=
  session.send (Envelope.of (.heartbeat
    { processState := processState, lastAcceptedSequence := s.accepted
      lastProducedSequence := s.output, activeOperationID := s.active })) answer s

def rotate (answer : FrameAnswer) (s : ServiceLoop) : ServiceLoop × Option Error :=
  match session.send (Envelope.of (.rotation ⟨.request, [], [], 0⟩)) answer s with
  | (s, some e) => (s, some e)
  | (s, none) => ({ s with renewalPending := true, renewalDue := false }, none)

/-- `attachCapture`: the output of a new process is read from now on. -/
def attachCapture (process : String) (output : Option Error) (s : ServiceLoop) :
    ServiceLoop × Option Error :=
  if process = "" || process = s.captureID then (s, none)
  else
    match output with
    | some e => (s, some e)
    | none => ({ s with captureID := process }, none)

/-- The end of the context: a last observation, then no more events. -/
def done (cause : Error) (cleanup : Option Error) (answer : FrameAnswer) (s : ServiceLoop) :
    ServiceLoop :=
  let payload :=
    if cleanup.isSome || s.busy then "\x7b\"managed_process\":\"unresolved\"\x7d"
    else "\x7b\"managed_process\":\"stopped\"\x7d"
  ((session.send (Envelope.of (.observation ⟨.processStatus, shutdownSchema, utf8 payload, ""⟩))
    answer s).1).stop (some cause)

def renew (answer : FrameAnswer) (s : ServiceLoop) : ServiceLoop :=
  let s := { s.mark .renewal with renewalDue := true }
  if s.busy then s else .orReturn (session.rotate answer s) id

def captured (output : CapturedOutput) (answer : FrameAnswer) (s : ServiceLoop) : ServiceLoop :=
  match output with
  | .eof => s
  | .failed e => s.stop (some e)
  | .data source data =>
    let observation : Observation :=
      match source with
      | .stdout => ⟨.diagnostic, capability ++ "/stdout", data, ""⟩
      | .stderr => ⟨.diagnostic, capability ++ "/stderr", data, ""⟩
      | .adapterEvent => ⟨.candidateEvent, capability ++ "/event", data, ""⟩
    .orReturn (session.send
      { Envelope.of (.observation observation) with harnessHandle := s.handle } answer s) id

/-- A received frame that passed the sequence guard. -/
def handle (f : Envelope) (now : Int) (installed : Option Error) (s : ServiceLoop) : ServiceLoop :=
  if f.getRotation.isSome then
    if !s.renewalPending || s.busy then s.stop (some errControl) else s.stop installed
  else if f.getAcknowledgement.isSome then s
  else if f.getCommand.isNone || s.busy || s.renewalPending ||
      !checkCommand session.lib session.settings now f then s.stop (some errControl)
  else
    { s.mark (.started f) with busy := true, active := f.operationID, executing := some f }

def receive (f : Envelope) (now : Int) (installed : Option Error) (s : ServiceLoop) : ServiceLoop :=
  match s.input.check session.lib f with
  | .error _ => s.stop (some errControl)
  | .ok input => session.handle f now installed { s with input := input, accepted := f.sequence }

/-- The observation that names the thread of a started process. -/
def threadObservation (f : Envelope) (result : CommandResult) : Envelope :=
  { Envelope.of (.observation
      ⟨.processStatus, threadCapability, session.marshalThread result.thread, ""⟩) with
    operationID := f.operationID
    requestDigest := f.requestDigest
    harnessHandle := f.harnessHandle }

/-- The acknowledgement or the failure of a command. -/
def reply (f : Envelope) (result : CommandResult) : Envelope :=
  { Envelope.of
      (if result.failed then .failure .outcomeUnknown
        else .acknowledgement
          { messageID := f.messageID, requestDigest := f.requestDigest
            acceptedSequence := f.sequence, eventCredit := 0 }) with
    operationID := f.operationID
    requestDigest := f.requestDigest
    harnessHandle := f.harnessHandle }

/-- The thread of a successful start is observed before anything else is sent. -/
def observeThread (f : Envelope) (result : CommandResult) (answer : FrameAnswer) (s : ServiceLoop) :
    ServiceLoop × Option Error :=
  if !result.failed && result.thread.threadID ≠ "" then
    session.send (session.threadObservation f result) answer s
  else (s, none)

def adopt (f : Envelope) (result : CommandResult) (answer : ResultAnswer) (s : ServiceLoop) :
    ServiceLoop × Option Error :=
  if result.failed then (s, none)
  else
    let s := { s with handle := f.harnessHandle }
    if f.getCommand.any fun c => c.kind = .start || c.kind = .restart then
      attachCapture answer.process answer.output s
    else (s, none)

/-- A result read from the command that ran. -/
def finish (f : Envelope) (result : CommandResult) (answer : ResultAnswer) (s : ServiceLoop) :
    ServiceLoop :=
  let s := { s.mark (.finished f result) with busy := false, active := "", executing := none }
  .orReturn (session.observeThread f result answer.observation s) fun s =>
  .orReturn (adopt f result answer s) fun s =>
  .orReturn (session.send (reply f result) answer.reply s) fun s =>
  .orReturn (session.heartbeat answer.processState answer.heartbeat s) fun s =>
  if s.renewalDue then .orReturn (session.rotate answer.rotation s) id else s

def step (s : ServiceLoop) (e : ServiceEvent) : ServiceLoop :=
  if s.stopped.isSome then s
  else
    match e with
    | .done cause cleanup answer => session.done cause cleanup answer s
    | .receiveFailed error => s.stop (some error)
    | .renew answer => session.renew answer s
    | .captured output answer => session.captured output answer s
    | .tick processState answer => .orReturn (session.heartbeat processState answer s) id
    | .receive f now installed => session.receive f now installed s
    | .result result answer =>
      match s.executing with
      | some f => session.finish f result answer s
      | none => s

/-- `Serve`: `gate` is the lock of the call itself, `operation` those of the process
operations, which are tried after the capabilities. -/
def serve (gate operation : Bool) (events : List ServiceEvent) : Except Error ServiceLoop :=
  if !gate then .error errProcessBusy
  else if !session.welcome.capabilities.contains capability || (session.settings.executeTurn &&
      !session.welcome.capabilities.contains turnCapability) then .error errConfig
  else if !operation then .error errProcessBusy
  else .ok (Relational.run session.step .start events)

end ServiceSession
end ThinkPixelAR.App
