import ThinkPixelAR.Domain.Json

/-!
The harness port (`internal/ports/harness`): capabilities, and the candidate events an
adapter returns with their payloads. Only the event types the Codex adapter emits are
here; a committed Runtime Event is another thing.
-/
namespace ThinkPixelAR.Harness

/-- The registered names of `HarnessCapability`. -/
inductive Capability where
  | structuredEvents
  | streaming
  | resume
  | interrupt
  | signals
  | checkpointPrepare
  | nativeFork
  | structuredToolEvents
  | structuredProcessEvents
  | usageObservation
  | localApprovalEvents
  | multiInput
deriving DecidableEq

inductive CapabilityLevel where
  | required
  | supported
  | unsupported

/-- A map of declared capabilities; `none` stands for a name or a level that is not
registered. -/
abbrev Capabilities := List (Option Capability × Option CapabilityLevel)

namespace Capabilities

/-- `Validate`. -/
def validate (c : Capabilities) : Bool := c.all fun entry => entry.1.isSome && entry.2.isSome

/-- `Supports`. -/
def supports (c : Capabilities) (name : Capability) : Bool :=
  match c.lookup (some name) with
  | some (some .required) | some (some .supported) => true
  | _ => false

/-- `Require` returns nil. -/
def require (c : Capabilities) (names : List Capability) : Bool :=
  c.validate && names.all c.supports

end Capabilities

/-- The types of the candidate events. -/
inductive EventType where
  | executionStarted
  | executionCompletionObserved
  | executionFailureObserved
  | messageDelta
  | messageCompleted
  | processStarted
  | processOutput
  | processCompleted
  | toolStarted
  | toolCompleted
  | toolFailed
  | usageObserved
deriving DecidableEq

/-- The capability of `EventRuleFor`. -/
def EventType.capability : EventType → Capability
  | .executionStarted | .executionCompletionObserved | .executionFailureObserved =>
    .structuredEvents
  | .messageDelta | .messageCompleted => .structuredEvents
  | .processStarted | .processOutput | .processCompleted => .structuredProcessEvents
  | .toolStarted | .toolCompleted | .toolFailed => .structuredToolEvents
  | .usageObserved => .usageObservation

/-- `ObservationPayload`. -/
structure Observation where
  reasonCode : String
  resultReference : String

/-- `UsagePayload`. -/
structure Usage where
  inputTokens : Nat
  outputTokens : Nat

/-- The closed payload shapes. References the adapter never sets are left out. -/
inductive Payload where
  | observation (o : Observation)
  | messageDelta (messageID : ID) (text : String)
  | messageCompleted (messageID : ID) (firstSequence lastSequence : Nat)
  | process (processID : ID) (outputReference : String) (exitCode : Option Int)
  | tool (toolCallID : ID)
  | usage (u : Usage)

/-- A member that is omitted when it is empty. -/
def omitEmpty (name value : String) : List (String × Json) :=
  if value = "" then [] else [(name, .string value)]

def Payload.json : Payload → Json
  | .observation o =>
    .object (omitEmpty "reason_code" o.reasonCode ++ omitEmpty "result_reference" o.resultReference)
  | .messageDelta messageID text =>
    .object [("message_id", .string messageID.text), ("text", .string text)]
  | .messageCompleted messageID first last =>
    .object [("message_id", .string messageID.text), ("first_sequence", .nat first),
      ("last_sequence", .nat last)]
  | .process processID outputReference exitCode =>
    .object ([("process_id", .string processID.text)] ++
      omitEmpty "output_reference" outputReference ++
      exitCode.toList.map fun n => ("exit_code", .number (toString n)))
  | .tool toolCallID => .object [("tool_call_id", .string toolCallID.text)]
  | .usage u =>
    .object [("input_tokens", .nat u.inputTokens), ("output_tokens", .nat u.outputTokens)]

/-- The length of the marshalled payload. -/
def Payload.size (p : Payload) : Nat := p.json.encode.utf8ByteSize

/-- `HarnessEvent`, without the correlation it copies and the times. -/
structure Event where
  streamID : ID
  eventID : ID
  sequence : Nat
  kind : EventType
  payload : Payload

end ThinkPixelAR.Harness
