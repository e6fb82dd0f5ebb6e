import ThinkPixelAR.Domain.JsonScan

/-!
Immutable, ordered runtime observations (`internal/domain/runtimeevent/event.go`).
-/
namespace ThinkPixelAR.RuntimeEvent

inductive Kind where
  | sessionCreated
  | sessionStateChanged
  | sessionDegraded
  | sessionClosed
  | executionAccepted
  | executionStarted
  | executionCompleted
  | executionFailed
  | executionCancelled
  | executionTimedOut
  | attemptStarted
  | attemptReplaced
  | attemptTerminal
  | sandboxStateChanged
  | sandboxHealthChanged
  | workspaceGenerationCommitted
  | checkpointCommitted
  | checkpointDeleted
  | assistantMessageDelta
  | assistantMessageCompleted
  | toolRequested
  | toolStatusChanged
  | artifactPublished
  | signalAccepted
  | permissionRequested
  | permissionResolved
  | streamGap
deriving DecidableEq

def Kind.text : Kind → String
  | .sessionCreated => "session.created"
  | .sessionStateChanged => "session.state_changed"
  | .sessionDegraded => "session.degraded"
  | .sessionClosed => "session.closed"
  | .executionAccepted => "execution.accepted"
  | .executionStarted => "execution.started"
  | .executionCompleted => "execution.completed"
  | .executionFailed => "execution.failed"
  | .executionCancelled => "execution.cancelled"
  | .executionTimedOut => "execution.timed_out"
  | .attemptStarted => "attempt.started"
  | .attemptReplaced => "attempt.replaced"
  | .attemptTerminal => "attempt.terminal"
  | .sandboxStateChanged => "sandbox.state_changed"
  | .sandboxHealthChanged => "sandbox.health_changed"
  | .workspaceGenerationCommitted => "workspace.generation_committed"
  | .checkpointCommitted => "checkpoint.committed"
  | .checkpointDeleted => "checkpoint.deleted"
  | .assistantMessageDelta => "assistant.message.delta"
  | .assistantMessageCompleted => "assistant.message.completed"
  | .toolRequested => "tool.requested"
  | .toolStatusChanged => "tool.status_changed"
  | .artifactPublished => "artifact.published"
  | .signalAccepted => "signal.accepted"
  | .permissionRequested => "permission.requested"
  | .permissionResolved => "permission.resolved"
  | .streamGap => "stream.gap"

inductive Source where
  | agentRuntime
  | agentd
  | harnessAdapter
  | sandboxProvider
  | workspaceProvider
  | runAuthority
  | gateway
deriving DecidableEq

inductive Classification where
  | isPublic
  | isInternal
  | isConfidential
deriving DecidableEq

def schemaVersion : String := "thinkpixel.runtime-event/v1"

def errInvalidEvent : Error := .new "invalid runtime event"

structure Correlation where
  requestID : Option ID
  traceID : Option String
  spanID : Option String
deriving DecidableEq

def maxPayloadBytes : Nat := 65536
def maxJSONDepth : Nat := 16
def maxJSONMembers : Nat := 256

/-- `unicode.IsControl`. -/
def isControl (c : Char) : Bool := c.toNat < 32 || (127 ≤ c.toNat && c.toNat < 160)

/-- The limits of `consumeJSON`; the root object has at most 64 members. -/
def payloadLimits : Json.ScanLimits where
  depth := maxJSONDepth
  members := maxJSONMembers
  early := true
  text s := !s.toList.any isControl
  root := some 64

/-- `consumeJSON`; the root is the value at depth 0. -/
def consumeJSON (fuel depth members : Nat) (d : Json.Decoder) : Option (Nat × Json.Decoder) :=
  Json.scan payloadLimits fuel depth members d

/-- `validatePayload` of so many bytes that decode to these characters. -/
def validateRunes (size : Nat) (cs : List Char) : Bool :=
  decide (2 ≤ size) && decide (size ≤ maxPayloadBytes) &&
    match consumeJSON (cs.length + 1) 0 0 (.new cs) with
    | some (_, d) => d.token = .eof
    | none => false

/-- `validatePayload` of a text. -/
def validatePayload (text : String) : Bool := validateRunes text.utf8ByteSize text.toList

def lowerHex (length : Nat) (s : String) : Bool :=
  decide (s.utf8ByteSize = length) &&
    s.toList.all fun c => c.isDigit || (97 ≤ c.toNat && c.toNat ≤ 102)

def validCorrelation (c : Correlation) : Bool :=
  c.requestID.all validID && c.traceID.all (lowerHex 32) && c.spanID.all (lowerHex 16) &&
    (c.spanID.isNone || c.traceID.isSome)

structure Event where
  eventID : ID
  sessionID : ID
  executionID : Option ID
  attemptID : Option ID
  sequence : Nat
  aggregateVersion : Nat
  kind : Kind
  occurredAt : Time
  recordedAt : Time
  source : Source
  classification : Classification
  payload : String
  correlation : Correlation
  retentionPolicy : String
  retainUntil : Option Time
deriving DecidableEq

/-- Version zero is reserved for the two creation events. -/
def zeroVersionAllowed (e : Event) : Bool :=
  (e.kind = .sessionCreated && e.executionID.isNone && e.attemptID.isNone && e.sequence = 1) ||
    (e.kind = .executionAccepted && e.executionID.isSome && e.attemptID.isNone)

/-- `New`. -/
def create (e : Event) : Except Error Event :=
  if !validID e.eventID || !validID e.sessionID || e.executionID.any (fun id => !validID id) ||
      e.attemptID.any (fun id => !validID id || e.executionID.isNone) || e.sequence = 0 ||
      (e.aggregateVersion = 0 && !zeroVersionAllowed e) || e.occurredAt = 0 ||
      e.recordedAt = 0 || !validCorrelation e.correlation ||
      !boundedString 128 e.retentionPolicy ||
      e.retainUntil.any (fun at_ => !(e.recordedAt < at_)) || !validatePayload e.payload then
    .error errInvalidEvent
  else .ok e

end ThinkPixelAR.RuntimeEvent
