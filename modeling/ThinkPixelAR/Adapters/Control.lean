import ThinkPixelAR.Adapters.Handshake
import ThinkPixelAR.Ports.Agentd

/-!
The process-control capability (`internal/adapters/sandboxtransport/control`): the frames
of `api/agentd/v1`, which commands agentd accepts, and the sequence guard of one
direction of a connection. Hashing and the encodings of the Go libraries are parameters.
-/
namespace ThinkPixelAR.Control

open Handshake (Bytes Binding Hello Welcome isID)

def capability : String := "process-control.v1"
def turnCapability : String := "codex-turn.v1"
def threadCapability : String := "codex-thread.v1"
def shutdownSchema : String := "process-control.v1/shutdown"
def maxTurnTextBytes : Nat := 16384
def maxTurnPayloadBytes : Nat := 102400

def errControl : Error := .new "agentd process control rejected"

/-! ### Frames -/

/-- `Command.Kind`. The enumeration is open: a frame may carry any number. -/
inductive CommandKind where
  | unspecified
  | start
  | stop
  | restart
  | interrupt
  | status
  | prepareCheckpoint
  | execute
  | signal
  | unrecognized (number : Int)
deriving DecidableEq

def CommandKind.number : CommandKind → Int
  | .unspecified => 0
  | .start => 1
  | .stop => 2
  | .restart => 3
  | .interrupt => 4
  | .status => 5
  | .prepareCheckpoint => 6
  | .execute => 7
  | .signal => 8
  | .unrecognized n => n

structure Command where
  kind : CommandKind
  configurationDigest : String
  payloadSchema : String
  payload : Bytes
  artifactReference : String

inductive ObservationKind where
  | unspecified
  | processStatus
  | candidateEvent
  | checkpointPrepared
  | diagnostic
  | unrecognized (number : Int)

structure Observation where
  kind : ObservationKind
  payloadSchema : String
  payload : Bytes
  artifactReference : String

structure Acknowledgement where
  messageID : String
  requestDigest : String
  acceptedSequence : Nat
  eventCredit : Nat

/-- `processState` is the number of the wire enumeration. -/
structure Heartbeat where
  processState : Int
  lastAcceptedSequence : Nat
  lastProducedSequence : Nat
  activeOperationID : String

inductive RotationKind where
  | unspecified
  | request
  | issued
  | unrecognized (number : Int)

structure Rotation where
  kind : RotationKind
  certificatePem : Bytes
  privateKeyPem : Bytes
  expiresUnixMS : Int

inductive FailureCode where
  | unspecified
  | incompatible
  | stale
  | malformed
  | limitExceeded
  | unavailable
  | outcomeUnknown
  | unrecognized (number : Int)

inductive Body where
  | none
  | hello (m : Hello)
  | welcome (m : Welcome)
  | command (c : Command)
  | observation (o : Observation)
  | acknowledgement (a : Acknowledgement)
  | heartbeat (h : Heartbeat)
  | rotation (r : Rotation)
  | failure (code : FailureCode)

structure Envelope where
  major : Nat
  minor : Nat
  connectionID : String
  connectionEpoch : Nat
  messageID : String
  sequence : Nat
  binding : Option Binding
  harnessHandle : String
  operationID : String
  requestDigest : String
  sentUnixMS : Int
  deadlineUnixMS : Int
  body : Body

namespace Envelope

/-- An envelope of which only the body is set. -/
def of (body : Body) : Envelope where
  major := 0
  minor := 0
  connectionID := ""
  connectionEpoch := 0
  messageID := ""
  sequence := 0
  binding := none
  harnessHandle := ""
  operationID := ""
  requestDigest := ""
  sentUnixMS := 0
  deadlineUnixMS := 0
  body := body

def getCommand (f : Envelope) : Option Command :=
  match f.body with
  | .command c => some c
  | _ => none

def getAcknowledgement (f : Envelope) : Option Acknowledgement :=
  match f.body with
  | .acknowledgement a => some a
  | _ => none

def getRotation (f : Envelope) : Option Rotation :=
  match f.body with
  | .rotation r => some r
  | _ => none

def getFailure (f : Envelope) : Option FailureCode :=
  match f.body with
  | .failure code => some code
  | _ => none

/-- A heartbeat or an observation. -/
def isReport (f : Envelope) : Bool :=
  match f.body with
  | .heartbeat _ | .observation _ => true
  | _ => false

end Envelope

/-! ### Turn input -/

/-- `TurnInput`, as decoded: any texts. -/
structure TurnInput where
  inputID : String
  classification : String
  text : String
deriving DecidableEq

/-- `Validate`. -/
def TurnInput.validate (v : TurnInput) : Bool :=
  isID v.inputID &&
    (v.classification = "Public" || v.classification = "Internal" ||
      v.classification = "Confidential") &&
    v.text ≠ "" && v.text.utf8ByteSize ≤ maxTurnTextBytes

/-- What the capability takes from libraries: the text `sha256:` with the hexadecimal hash
of bytes, `encoding/json` at `TurnInput`, and the hash of a frame's deterministic protobuf
encoding, if it has one. -/
structure Library where
  sha256 : Bytes → String
  unmarshal : Bytes → Option TurnInput
  marshal : TurnInput → Bytes
  frameHash : Envelope → Option Bytes

/-- A library with one digest for everything, on which sessions can be run. -/
def Library.constant (digest : String) : Library where
  sha256 _ := digest
  unmarshal _ := none
  marshal _ := []
  frameHash _ := some []

def utf8 (text : String) : Bytes := text.toUTF8.toList

section Commands
variable (lib : Library)

/-- `DecodeTurnInput`: valid input in its canonical encoding. -/
def decodeTurnInput (raw : Bytes) : Option TurnInput :=
  if maxTurnPayloadBytes < raw.length then none
  else
    match lib.unmarshal raw with
    | none => none
    | some v => if !v.validate || lib.marshal v ≠ raw then none else some v

def turnDigest (configuration handle : String) (payload : Bytes) : String :=
  lib.sha256 (utf8 (turnCapability ++ "\x00" ++ configuration ++ "\x00" ++ handle ++ "\x00") ++
    payload)

/-- `Digest`. -/
def digest (kind : CommandKind) (configuration handle : String) : String :=
  lib.sha256 (utf8 (capability ++ "\x00" ++ toString kind.number ++ "\x00" ++ configuration ++
    "\x00" ++ handle))

/-- `turnCommand`. -/
def turnCommand (f : Envelope) (c : Command) (configuration : String) : Bool :=
  c.kind = .execute && c.configurationDigest = configuration &&
    c.payloadSchema = turnCapability && c.artifactReference = "" &&
    (decodeTurnInput lib c.payload).isSome &&
    f.requestDigest = turnDigest lib configuration f.harnessHandle c.payload

/-- The commands other than EXECUTE that `Command` lets through. -/
def plainCommand (c : Command) (configuration : String) : Bool :=
  c.configurationDigest = configuration && c.payloadSchema = capability && c.payload.isEmpty &&
    c.artifactReference = "" &&
    match c.kind with
    | .start | .stop | .restart | .interrupt | .status => true
    | _ => false

/-- `Command`; `now` is `time.Now().UnixMilli()`. -/
def accepts (now : Int) (f : Envelope) (configuration : String) : Bool :=
  match f.getCommand with
  | none => false
  | some c =>
    (if c.kind = .execute then turnCommand lib f c configuration
      else plainCommand c configuration) &&
    isID f.harnessHandle && isID f.operationID &&
    !((c.kind ≠ .execute && f.requestDigest ≠ digest lib c.kind configuration f.harnessHandle) ||
      f.sentUnixMS ≤ 0 || f.deadlineUnixMS ≤ f.sentUnixMS || f.deadlineUnixMS ≤ now)

end Commands

/-! ### Sequences -/

/-- `^uint64(0)`. -/
def maxUint64 : Nat := 2 ^ 64 - 1

structure Sequences where
  sequence : Nat
  last : Bytes

def Sequences.zero : Sequences := ⟨0, []⟩

/-- `Check`: the next frame, or the latest one again. -/
def Sequences.check (lib : Library) (s : Sequences) (f : Envelope) : Except Error Sequences :=
  match lib.frameHash f with
  | none => .error errControl
  | some sum =>
    if f.sequence = s.sequence && s.sequence ≠ 0 && sum = s.last then .ok s
    else if s.sequence = maxUint64 || f.sequence ≠ s.sequence + 1 then .error errControl
    else .ok { sequence := f.sequence, last := sum }

end ThinkPixelAR.Control
