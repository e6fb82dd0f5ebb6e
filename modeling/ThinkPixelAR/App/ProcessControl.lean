import Mathlib.Data.List.AList
import ThinkPixelAR.Adapters.Control

/-!
`ProcessControl.execute` of agentd (`internal/app/agentd/control_linux.go`). The ledger of
operations lives as long as the supervisor. A call takes the operation mutex without
waiting, so a call that overlaps another fails at once; the others run from their frame to
the invocation of one process operation, and from its outcome to the recorded result.
What the processes answer is given with each event.
-/
namespace ThinkPixelAR.App

open Control
open Handshake (Bytes)

inductive ProcessFailure where
  | ok
  | launchFailed
  | exitFailed
  | cleanupFailed
  | outputFailed
deriving DecidableEq

/-- `ProcessStatus`; `state` is the number of the wire enumeration. -/
structure ProcessStatus where
  processID : String
  state : Int
  exitObserved : Bool
  exitCode : Int
  signal : Int
  failure : ProcessFailure
  protocolReady : Bool
deriving DecidableEq

def ProcessStatus.zero : ProcessStatus := ⟨"", 0, false, 0, 0, .ok, false⟩

structure ThreadStarted where
  processID : String
  threadID : String
deriving DecidableEq

def ThreadStarted.zero : ThreadStarted := ⟨"", ""⟩

structure CommandResult where
  digest : String
  failed : Bool
  status : ProcessStatus
  thread : ThreadStarted
deriving DecidableEq

/-- `commandResult{failed: true}`. -/
def CommandResult.failure : CommandResult := ⟨"", true, .zero, .zero⟩

/-- The operations of `Processes` that `execute` invokes. -/
inductive ProcessOperation where
  | start
  | stop (process : String)
  | restart (process : String)
  | startTurn (operation : String) (input : TurnInput)
  | interruptTurn (process : String)
deriving DecidableEq

/-- What the configuration fixes. -/
structure ProcessSettings where
  configuration : String
  executeTurn : Bool
  createThread : Bool

structure ProcessControl where
  handle : String
  operations : AList (fun _ : String => CommandResult)

/-- `NewProcessControl`. -/
def ProcessControl.new : ProcessControl := ⟨"", ∅⟩

/-- Where the switch of `execute` leads: to an operation, to an outcome without one, or to
an immediate return. -/
inductive Dispatch where
  | invoke (operation : ProcessOperation)
  | settle (failed : Bool)
  | returns (result : CommandResult)

section Execute
variable (lib : Library) (settings : ProcessSettings)

/-- `checkCommand`. -/
def checkCommand (now : Int) (f : Envelope) : Bool :=
  !(f.getCommand.any (·.kind = .execute) && !settings.executeTurn) &&
    accepts lib now f settings.configuration

/-- The entry made before the operation is invoked. -/
def reservation (f : Envelope) : CommandResult :=
  { digest := f.requestDigest, failed := true, status := .zero, thread := .zero }

/-- The result of a call that reached its end; only a START that creates a thread names one. -/
def outcome (f : Envelope) (failed : Bool) (status : ProcessStatus) (thread : ThreadStarted) :
    CommandResult :=
  { reservation f with
    failed := failed
    status := status
    thread :=
      if !failed && f.getCommand.any (·.kind = .start) && settings.createThread then thread
      else .zero }

namespace ProcessControl

/-- The switch on the kind of the command; `id` is the process of the status read before. -/
def dispatch (f : Envelope) (c : Command) (id : String) (p : ProcessControl) :
    ProcessControl × Dispatch :=
  match c.kind with
  | .start =>
    if p.handle ≠ "" then (p, .settle true)
    else ({ p with handle := f.harnessHandle }, .invoke .start)
  | .execute =>
    if p.handle ≠ f.harnessHandle then (p, .settle true)
    else
      match decodeTurnInput lib c.payload with
      | none => (p, .settle true)
      | some input => (p, .invoke (.startTurn f.operationID input))
  | .status => (p, .settle (p.handle ≠ "" && p.handle ≠ f.harnessHandle))
  | .stop =>
    if p.handle ≠ f.harnessHandle || id = "" then (p, .settle true) else (p, .invoke (.stop id))
  | .interrupt =>
    if p.handle ≠ f.harnessHandle || id = "" then (p, .settle true)
    else if settings.executeTurn then (p, .invoke (.interruptTurn id))
    else (p, .invoke (.stop id))
  | .restart =>
    if p.handle ≠ f.harnessHandle || id = "" then (p, .settle true)
    else (p, .invoke (.restart id))
  | _ => (p, .returns (reservation f))

/-- `execute` from its check to the switch. -/
def prepare (now : Int) (id : String) (f : Envelope) (p : ProcessControl) :
    ProcessControl × Dispatch :=
  if !checkCommand lib settings now f then (p, .returns .failure)
  else
    match p.operations.lookup f.operationID with
    | some old => (p, .returns (if old.digest ≠ f.requestDigest then .failure else old))
    | none =>
      if 128 ≤ p.operations.keys.length then (p, .returns .failure)
      else
        -- reserved before the operation: cancellation never authorises a replay
        let p := { p with operations := p.operations.insert f.operationID (reservation f) }
        match f.getCommand with
        | none => (p, .returns (reservation f))
        | some c => p.dispatch lib settings f c id

/-- `execute` after the switch. -/
def conclude (f : Envelope) (failed : Bool) (status : ProcessStatus) (thread : ThreadStarted)
    (p : ProcessControl) : ProcessControl × CommandResult :=
  -- a rejected handle must not look like a successful no-op
  if p.handle ≠ f.harnessHandle && !f.getCommand.any (·.kind = .status) then (p, reservation f)
  else
    ({ p with operations :=
        p.operations.insert f.operationID (outcome settings f failed status thread) },
      outcome settings f failed status thread)

end ProcessControl

/-! ### Overlapping calls -/

/-- A call that holds the operation mutex: before its check, or waiting for the outcome of
the operation it invoked. -/
structure HeldCall where
  call : Nat
  frame : Envelope
  waiting : Bool

/-- A call that has returned. `overlapped` calls did not get the mutex; of the others
`passed` tells whether their frame passed `checkCommand`. -/
structure ReturnedCall where
  call : Nat
  frame : Envelope
  overlapped : Bool
  passed : Bool
  result : CommandResult

/-- The control with the calls on it, and what they invoked, in order. -/
structure ControlRun where
  control : ProcessControl
  operation : Option HeldCall
  invoked : List (String × ProcessOperation)
  returned : List ReturnedCall

def ControlRun.new : ControlRun := ⟨.new, none, [], []⟩

inductive ControlEvent where
  | enter (call : Nat) (frame : Envelope)
  | proceed (now : Int) (id : String) (status : ProcessStatus)
  | finish (failed : Bool) (status : ProcessStatus) (thread : ThreadStarted)

/-- The mutex is released and the call returns. -/
def ControlRun.leave (s : ControlRun) (held : HeldCall) (passed : Bool)
    (answer : ProcessControl × CommandResult) : ControlRun :=
  { s with
    control := answer.1
    operation := none
    returned := s.returned ++ [⟨held.call, held.frame, false, passed, answer.2⟩] }

/-- The held call from its check on. -/
def ControlRun.proceed (s : ControlRun) (held : HeldCall) (now : Int) (id : String)
    (status : ProcessStatus) : ControlRun :=
  let passed := checkCommand lib settings now held.frame
  match s.control.prepare lib settings now id held.frame with
  | (p, .returns result) => s.leave held passed (p, result)
  | (p, .settle failed) => s.leave held passed (p.conclude settings held.frame failed status .zero)
  | (p, .invoke operation) =>
    { s with
      control := p
      operation := some { held with waiting := true }
      invoked := s.invoked ++ [(held.frame.operationID, operation)] }

/-- One event on the control. An event that does not fit the held call is none. -/
def ControlRun.step (s : ControlRun) : ControlEvent → ControlRun
  | .enter call frame =>
    match s.operation with
    | some _ => { s with returned := s.returned ++ [⟨call, frame, true, false, .failure⟩] }
    | none => { s with operation := some ⟨call, frame, false⟩ }
  | .proceed now id status =>
    match s.operation with
    | some held => if held.waiting then s else s.proceed lib settings held now id status
    | none => s
  | .finish failed status thread =>
    match s.operation with
    | some held =>
      if held.waiting then
        s.leave held true (s.control.conclude settings held.frame failed status thread)
      else s
    | none => s

end Execute
end ThinkPixelAR.App
