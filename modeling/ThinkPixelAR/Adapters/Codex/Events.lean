import ThinkPixelAR.Domain.RuntimeEvent
import ThinkPixelAR.Ports.HarnessEvents
import ThinkPixelAR.Adapters.Codex.Interrupt

/-!
The event stream of an accepted turn (`events.go`, `event_mapping.go`, `completion.go`).
`Next` reads frames until one of them yields a candidate event. Vendor item identifiers are
private keys of the stream; the identifiers events carry are drawn by the stream.

Contexts do not expire and nobody closes the stream here, so waiting between reads does
not matter. Drawing an identifier may fail; a policy is trusted code with a state of its
own, and may do anything.
-/
namespace ThinkPixelAR.Codex

open Harness

/-! ### Items -/

/-- The item types that become events. -/
inductive ItemKind where
  | agentMessage
  | commandExecution
  | mcpToolCall
  | fileChange
  | webSearch
deriving DecidableEq

/-- What the `type` of an item stands for. -/
inductive ItemClass where
  | discarded
  | mapped (kind : ItemKind)
  | unsupported

def itemClass (type : String) : ItemClass :=
  if ["reasoning", "userMessage", "hookPrompt", "plan", "contextCompaction"].contains type then
    .discarded
  else if type = "agentMessage" then .mapped .agentMessage
  else if type = "commandExecution" then .mapped .commandExecution
  else if type = "mcpToolCall" then .mapped .mcpToolCall
  else if type = "fileChange" then .mapped .fileChange
  else if type = "webSearch" then .mapped .webSearch
  else .unsupported

/-- The members an item may have. -/
def ItemKind.members : ItemKind → List String
  | .agentMessage => ["id", "type", "text", "phase", "delivery", "memoryCitation", "questions"]
  | .commandExecution => ["id", "type", "command", "cwd", "commandActions", "aggregatedOutput",
      "exitCode", "durationMs", "processId", "status", "source", "pluginId", "scriptPath"]
  | .mcpToolCall => ["id", "type", "server", "tool", "arguments", "status", "result", "error",
      "durationMs", "appContext", "mcpAppResourceUri", "pluginId", "readOnlyHint"]
  | .fileChange => ["id", "type", "changes", "status"]
  | .webSearch => ["id", "type", "query", "action", "results"]

def ItemKind.capability : ItemKind → Capability
  | .agentMessage => .structuredEvents
  | .commandExecution => .structuredProcessEvents
  | .mcpToolCall | .fileChange | .webSearch => .structuredToolEvents

/-- `eventItem`. The running hash is kept as the text it is of. -/
structure EventItem where
  id : ID
  kind : ItemKind
  start : String
  completion : String
  done : Bool
  suppressed : Bool
  text : List Char
  first : Nat
  last : Nat

/-- `map[string]*eventItem`. -/
abbrev Items := List (String × EventItem)

/-- The map with the item under the name. -/
def Items.put (items : Items) (name : String) (item : EventItem) : Items :=
  (name, item) :: items.filter (·.1 ≠ name)

/-- `itemKey`. -/
def itemKey (id : String) : Bool :=
  decide (0 < id.utf8ByteSize) && decide (id.utf8ByteSize ≤ 256) &&
    id.toList.all fun c => c.isAlphanum || c = '-' || c = '_'

/-! ### The stream -/

/-- `EventPolicy`, and `ResultReferencePolicy` if it is one. `none` is an error. -/
structure EventPolicy (π : Type) where
  messageText : π → ID → String → Option String × π
  processOutput : π → ID → String → Option String × π
  resultReference : Option (π → ID → String → Option String × π)

/-- What a stream is opened with, and what it draws on. `newID n` is the result of the
`n`th draw. `sha256` is of the UTF-8 text. -/
structure Setup (π : Type) where
  operation : ID
  capabilities : Capabilities
  eventBytes : Nat
  policy : Option (EventPolicy π)
  newID : Nat → Option ID
  sha256 : List Char → String

/-- The fields of `eventStream` that change. -/
structure Stream (π : Type) where
  client : Client
  id : ID
  policyState : π
  sequence : Nat
  started : Bool
  ended : Bool
  failed : Option Error
  items : Items
  usage : Option Usage
  completion : Option Observation
  draws : Nat

section Stream
variable {π : Type} (u : Setup π)

/-- The answer of a step of the mapping: an error, an event, or no event. -/
abbrev Answer (π : Type) := Except Error (Option Event) × Stream π

/-- `emit`. -/
def emit (kind : EventType) (payload : Payload) (s : Stream π) : Answer π :=
  if u.eventBytes < payload.size || s.sequence = 2 ^ 64 - 1 then (.error errStreamIntegrity, s)
  else
    match u.newID s.draws with
    | none => (.error errOutcomeUnknown, { s with draws := s.draws + 1 })
    | some eventID =>
      if !u.capabilities.require [.structuredEvents, kind.capability] then
        (.error errUnsupported, { s with draws := s.draws + 1 })
      else
        (.ok (some { streamID := s.id, eventID, sequence := s.sequence + 1, kind, payload }),
          { s with draws := s.draws + 1, sequence := s.sequence + 1 })

/-- `eventText`; Lean strings are UTF-8. -/
def eventText (s : String) : Bool :=
  s.toList.all fun c => !RuntimeEvent.isControl c || c = '\n' || c = '\r' || c = '\t'

/-- `runtimeevent.ValidateReference`. -/
def validateReference (value : String) : Bool := boundedString 2048 value

/-- The text of a member that must not be null. -/
def requiredText (raw : Option Raw) : Option String :=
  if textOf raw = "null".toList then none
  else (unmarshalString raw).filter eventText

/-- A stamp that must be a number and not negative. -/
def stamped (raw : Option Raw) : Bool :=
  textOf raw ≠ "null".toList && (unmarshalInt64 raw).any fun n => 0 ≤ n

/-! ### Completion and usage -/

/-- `nonnegative`. -/
def nonnegative (raw : Option Raw) : Option Nat :=
  if textOf raw = "null".toList then none
  else (unmarshalInt64 raw).bind fun n => if n < 0 then none else some n.toNat

/-- One of the two breakdowns of a usage report. -/
def breakdown (raw : Option Raw) : Option Fields :=
  (objectOf raw).filter fun b =>
    keys b ["inputTokens", "outputTokens", "totalTokens", "cachedInputTokens",
        "cacheWriteInputTokens", "reasoningOutputTokens"] &&
      ["inputTokens", "outputTokens", "totalTokens", "cachedInputTokens",
        "reasoningOutputTokens"].all (fun key => (nonnegative (b.lookup key)).isSome) &&
      ((b.lookup "cacheWriteInputTokens").isNone ||
        (nonnegative (b.lookup "cacheWriteInputTokens")).isSome)

/-- The totals a usage report carries, if it is well formed. -/
def usageTotals (p : Fields) : Option Usage := do
  let report ← (objectOf (p.lookup "tokenUsage")).filter
    (keys · ["total", "last", "modelContextWindow"])
  let total ← breakdown (report.lookup "total")
  let _ ← breakdown (report.lookup "last")
  let window := report.lookup "modelContextWindow"
  if window.isSome && textOf window ≠ "null".toList && (nonnegative window).isNone then none
  let input ← nonnegative (total.lookup "inputTokens")
  let output ← nonnegative (total.lookup "outputTokens")
  return ⟨input, output⟩

/-- `captureUsage`. -/
def captureUsage (p : Fields) (s : Stream π) : Answer π :=
  if !u.capabilities.require [.usageObservation] then (.error errUnsupported, s)
  else if !keys p ["threadId", "turnId", "tokenUsage"] then (.error errProtocol, s)
  else
    match usageTotals p with
    | none => (.error errProtocol, s)
    | some totals =>
      if s.usage.any fun before =>
          totals.inputTokens < before.inputTokens || totals.outputTokens < before.outputTokens then
        (.error errStreamIntegrity, s)
      else (.ok none, { s with usage := some totals })

/-- `finish`. -/
def finishTurn (payload : Observation) (s : Stream π) : Answer π :=
  let kind := if payload.reasonCode = "failed" then .executionFailureObserved
    else .executionCompletionObserved
  match emit u kind (.observation payload) s with
  | (.ok event, s) => (.ok event, { s with ended := true, completion := none })
  | (.error e, s) => (.error e, s)

/-- The reference of `ResultReference`, if the policy has it; `none` is refused. -/
def resultReference (reason : String) (s : Stream π) : Option String × Stream π :=
  match u.policy.bind (·.resultReference) with
  | none => (some "", s)
  | some reference =>
    let (answer, policyState) := reference s.policyState u.operation reason
    (answer.filter fun ref => ref = "" || validateReference ref, { s with policyState })

/-- `complete`. -/
def complete (turn : Fields) (s : Stream π) : Answer π :=
  let reason := field turn "status"
  if !keys turn ["id", "items", "itemsView", "status", "error", "startedAt", "completedAt",
      "durationMs"] then (.error errProtocol, s)
  else if !(["completed", "interrupted", "failed"].contains reason) then (.error errProtocol, s)
  else if reason = "completed" && s.items.any fun entry => !entry.2.done then
    (.error errStreamIntegrity, s)
  else
    match resultReference u reason s with
    | (none, s) => (.error errProtocol, s)
    | (some ref, s) =>
      match s.usage with
      | some usage =>
        emit u .usageObserved (.usage usage) { s with completion := some ⟨reason, ref⟩ }
      | none => finishTurn u ⟨reason, ref⟩ s

/-! ### Content of items -/

/-- `item/agentMessage/delta` on an open item. -/
def messageDelta (name : String) (item : EventItem) (text : String) (s : Stream π) : Answer π :=
  if item.kind ≠ .agentMessage then (.error errStreamIntegrity, s)
  else
    let item := { item with text := item.text ++ text.toList }
    let s := { s with items := s.items.put name item }
    let suppress (s : Stream π) : Answer π :=
      (.ok none, { s with items := s.items.put name { item with suppressed := true } })
    match u.policy with
    | none => suppress s
    | some policy =>
      match policy.messageText s.policyState item.id text with
      | (none, policyState) => (.error errProtocol, { s with policyState })
      | (some safe, policyState) =>
        let s := { s with policyState }
        if !eventText safe then (.error errProtocol, s)
        else if safe = "" then suppress s
        else
          match emit u .messageDelta (.messageDelta item.id safe) s with
          | (.ok event, t) =>
            (.ok event, { t with
              items := t.items.put name { item with
                first := if item.first = 0 then t.sequence else item.first, last := t.sequence } })
          | (.error e, t) => (.error e, t)

/-- `item/commandExecution/outputDelta` on an open item. -/
def outputDelta (item : EventItem) (text : String) (s : Stream π) : Answer π :=
  if item.kind ≠ .commandExecution then (.error errStreamIntegrity, s)
  else
    match u.policy with
    | none => (.ok none, s)
    | some policy =>
      match policy.processOutput s.policyState item.id text with
      | (none, policyState) => (.error errProtocol, { s with policyState })
      | (some ref, policyState) =>
        let s := { s with policyState }
        if ref = "" then (.ok none, s)
        else if !validateReference ref then (.error errProtocol, s)
        else emit u .processOutput (.process item.id ref none) s

/-- The two delta methods. -/
def delta (message : Bool) (p : Fields) (s : Stream π) : Answer π :=
  let name := field p "itemId"
  if !keys p ["threadId", "turnId", "itemId", "delta"] then (.error errProtocol, s)
  else
    match s.items.lookup name with
    | none => (.error errStreamIntegrity, s)
    | some item =>
      if item.done then (.error errStreamIntegrity, s)
      else
        match requiredText (p.lookup "delta") with
        | none => (.error errProtocol, s)
        | some text =>
          if message then messageDelta u name item text s else outputDelta u item text s

/-! ### The life of an item -/

/-- `item/started` of a mapped item. -/
def itemStarted (kind : ItemKind) (name sum : String) (v : Fields) (s : Stream π) : Answer π :=
  match s.items.lookup name with
  | some item =>
    if !item.done && item.start = sum then (.ok none, s) else (.error errStreamIntegrity, s)
  | none =>
    if 1024 ≤ s.items.length then (.error errStreamIntegrity, s)
    else
      match u.newID s.draws with
      | none => (.error errOutcomeUnknown, { s with draws := s.draws + 1 })
      | some id =>
        let item : EventItem :=
          { id, kind, start := sum, completion := "", done := false, suppressed := false, text := []
            first := 0, last := 0 }
        let s := { s with draws := s.draws + 1, items := s.items.put name item }
        if kind = .agentMessage then
          if textOf (v.lookup "text") ≠ "\"\"".toList then (.error errStreamIntegrity, s)
          else (.ok none, s)
        else if kind ≠ .webSearch && field v "status" ≠ "inProgress" then
          (.error errStreamIntegrity, s)
        else if kind = .commandExecution then emit u .processStarted (.process id "" none) s
        else emit u .toolStarted (.tool id) s

/-- The exit code of a completed process: absent, null or a 32-bit integer. -/
def exitCode (raw : Option Raw) : Option (Option Int) :=
  match raw with
  | none => some none
  | some text =>
    if text = "null".toList then some none
    else ((unmarshalInt64 (some text)).filter fun n => -2 ^ 31 ≤ n && n < 2 ^ 31).map some

/-- The outcome of a completed tool call; a declined MCP call is not one. -/
def toolOutcome (kind : ItemKind) (status : String) : Option EventType :=
  if kind = .webSearch then some .toolCompleted
  else if status = "completed" then some .toolCompleted
  else if status = "failed" then some .toolFailed
  else if status = "declined" && kind ≠ .mcpToolCall then some .toolFailed
  else none

/-- The event of an item that has just been marked as done. -/
def itemDone (item : EventItem) (v : Fields) (s : Stream π) : Answer π :=
  match item.kind with
  | .agentMessage =>
    match requiredText (v.lookup "text") with
    | none => (.error errProtocol, s)
    | some text =>
      if u.sha256 text.toList ≠ u.sha256 item.text then (.error errStreamIntegrity, s)
      else if item.suppressed || item.first = 0 then (.ok none, s)
      else emit u .messageCompleted (.messageCompleted item.id item.first item.last) s
  | .commandExecution =>
    if !(["completed", "failed", "declined"].contains (field v "status")) then
      (.error errProtocol, s)
    else
      match exitCode (v.lookup "exitCode") with
      | none => (.error errProtocol, s)
      | some exit => emit u .processCompleted (.process item.id "" exit) s
  | kind =>
    match toolOutcome kind (field v "status") with
    | none => (.error errProtocol, s)
    | some outcome => emit u outcome (.tool item.id) s

/-- `item/completed` of a mapped item. -/
def itemCompleted (kind : ItemKind) (name sum : String) (v : Fields) (s : Stream π) : Answer π :=
  match s.items.lookup name with
  | none => (.error errStreamIntegrity, s)
  | some item =>
    if item.kind ≠ kind then (.error errStreamIntegrity, s)
    else if item.done then
      if item.completion = sum then (.ok none, s) else (.error errStreamIntegrity, s)
    else
      let item := { item with done := true, completion := sum }
      itemDone u item v { s with items := s.items.put name item }

/-- The checks on the members of a mapped item. -/
def wellFormed (kind : ItemKind) (v : Fields) : Bool :=
  keys v kind.members &&
    (kind ≠ .agentMessage || ["", "commentary", "final_answer"].contains (field v "phase"))

/-- `item`. -/
def item (completed : Bool) (p : Fields) (s : Stream π) : Answer π :=
  let stamp := if completed then "completedAtMs" else "startedAtMs"
  if !keys p ["threadId", "turnId", "item", stamp] || !stamped (p.lookup stamp) then
    (.error errProtocol, s)
  else
    match objectOf (p.lookup "item") with
    | none => (.error errProtocol, s)
    | some v =>
      if !itemKey (field v "id") then (.error errProtocol, s)
      else
        match itemClass (field v "type") with
        | .discarded => (.ok none, s)
        | .unsupported => (.error errUnsupported, s)
        | .mapped kind =>
          if !wellFormed kind v then (.error errProtocol, s)
          else if !u.capabilities.require [kind.capability] then (.error errUnsupported, s)
          else
            let sum := u.sha256 (textOf (p.lookup "item"))
            if completed then itemCompleted u kind (field v "id") sum v s
            else itemStarted u kind (field v "id") sum v s

/-! ### Frames -/

/-- `turn/started` and `turn/completed`. -/
def turnEvent (completed : Bool) (p : Fields) (s : Stream π) : Answer π :=
  if !keys p ["threadId", "turn"] || field p "threadId" ≠ s.client.threadID then
    (.error errProtocol, s)
  else
    match objectOf (p.lookup "turn") with
    | none => (.error errStreamIntegrity, s)
    | some turn =>
      if field turn "id" ≠ s.client.turnID then (.error errStreamIntegrity, s)
      else if completed then
        if !s.started then (.error errStreamIntegrity, s) else complete u turn s
      else if s.started || field turn "status" ≠ "inProgress" then (.error errStreamIntegrity, s)
      else emit u .executionStarted (.observation ⟨"", ""⟩) { s with started := true }

/-- Notifications that say nothing, before or after the turn started. -/
def statusHints : List String :=
  ["account/rateLimits/updated", "remoteControl/status/changed", "configWarning", "warning",
    "skills/changed", "mcpServer/startupStatus/updated", "thread/status/changed"]

/-- Notifications with private content. -/
def privateMethods : List String :=
  ["item/reasoning/textDelta", "item/reasoning/summaryTextDelta",
    "item/reasoning/summaryPartAdded", "item/plan/delta", "turn/plan/updated", "turn/diff/updated",
    "item/fileChange/outputDelta"]

/-- `error`: a diagnostic, never an outcome. -/
def diagnostic (p : Fields) (s : Stream π) : Answer π :=
  let retry := textOf (p.lookup "willRetry")
  if !keys p ["threadId", "turnId", "error", "willRetry"] ||
      !(retry = "true".toList || retry = "false".toList) ||
      (objectOf (p.lookup "error")).isNone then (.error errProtocol, s)
  else (.ok none, s)

/-- `item/mcpToolCall/progress`. -/
def toolProgress (p : Fields) (s : Stream π) : Answer π :=
  match s.items.lookup (field p "itemId") with
  | none => (.error errStreamIntegrity, s)
  | some item =>
    if item.done || item.kind ≠ .mcpToolCall then (.error errStreamIntegrity, s) else (.ok none, s)

/-- A notification of the turn in progress. -/
def turnNotified (method : String) (p : Fields) (s : Stream π) : Answer π :=
  if method = "thread/tokenUsage/updated" then captureUsage u p s
  else if method = "error" then diagnostic p s
  else if privateMethods.contains method then (.ok none, s)
  else if method = "item/started" then item u false p s
  else if method = "item/completed" then item u true p s
  else if method = "item/agentMessage/delta" then delta u true p s
  else if method = "item/commandExecution/outputDelta" then delta u false p s
  else if method = "item/mcpToolCall/progress" then toolProgress p s
  else (.error errProtocol, s)

/-- The notification is about another thread or turn. -/
def misdirected (p : Fields) (c : Client) : Bool :=
  ((p.lookup "threadId").any fun id => id = "null".toList || field p "threadId" ≠ c.threadID) ||
    ((p.lookup "turnId").isSome && field p "turnId" ≠ c.turnID)

/-- The part of `normalize` after the envelope. -/
def notified (method : String) (p : Fields) (s : Stream π) : Answer π :=
  if misdirected p s.client then (.error errStreamIntegrity, s)
  else if statusHints.contains method then (.ok none, s)
  else if method = "turn/started" then turnEvent u false p s
  else if method = "turn/completed" then turnEvent u true p s
  else if !s.started || field p "threadId" ≠ s.client.threadID ||
      field p "turnId" ≠ s.client.turnID then (.error errStreamIntegrity, s)
  else turnNotified u method p s

/-- A frame without an identifier. -/
def notification (f : Fields) (s : Stream π) : Answer π :=
  if !keys f ["method", "params", "emittedAtMs"] then (.error errProtocol, s)
  else if (f.lookup "emittedAtMs").isSome && !stamped (f.lookup "emittedAtMs") then
    (.error errProtocol, s)
  else
    match objectOf (f.lookup "params") with
    | none => (.error errProtocol, s)
    | some p => notified u (field f "method") p s

/-- `normalize`. -/
def normalize (raw : Bytes) (s : Stream π) : Answer π :=
  if !validVendorJSON raw then (.error errProtocol, s)
  else
    match object (runes raw) with
    | none => (.error errProtocol, s)
    | some f =>
      if (f.lookup "id").isSome then
        let (answer, client) := interruptResponse f s.client
        (answer.map fun _ => none, { s with client })
      else notification u f s

/-! ### Opening -/

/-- The members of `HarnessHandle` that `eventBinding` reads; `ids` are its identifiers and
those of its fence. -/
structure Handle where
  ids : List ID
  adapterKind : String
  generation : Nat
  attemptOrdinal : Nat
  adapterBuildDigest : String
  negotiationDigest : String
  vendorSessionReference : String

/-- `OperationIdentity`. -/
structure OperationIdentity where
  id : ID
  requestDigest : String

/-- The members of `AdapterLimits` that `Events` reads. -/
structure Limits where
  eventBytes : Nat
  eventsPerSecond : Nat
  bufferedEvents : Nat

/-- `eventDigest`. -/
def eventDigest (s : String) : Bool :=
  decide (s.utf8ByteSize = 71) && "sha256:".toList.isPrefixOf s.toList &&
    (s.toList.drop 7).all "0123456789abcdef".toList.contains

/-- `eventBinding`. -/
def eventBinding (h : Handle) (operation : OperationIdentity) : Bool :=
  h.ids.all validID && validID operation.id && h.adapterKind = "codex-app-server" &&
    decide (0 < h.generation) && decide (0 < h.attemptOrdinal) &&
    eventDigest operation.requestDigest && eventDigest h.adapterBuildDigest &&
    eventDigest h.negotiationDigest

/-- `Events`. The first draw is the identifier of the stream. -/
def openEvents (handle : Handle) (operation : OperationIdentity) (capabilities : Capabilities)
    (limits : Limits) (policy : Option (EventPolicy π)) (policyState : π) (newID : Nat → Option ID)
    (sha256 : List Char → String) (c : Client) : Except Error (Setup π × Stream π) :=
  if c.eventsOpened then .error errConflict
  else if c.turnID = "" || c.turnOperation ≠ some operation.id || !eventBinding handle operation ||
      handle.vendorSessionReference ≠ c.threadID then .error errInvalid
  else if !capabilities.require [.structuredEvents, .streaming] then .error errUnsupported
  else if limits.eventBytes < 256 || RuntimeEvent.maxPayloadBytes < limits.eventBytes ||
      limits.eventsPerSecond < 1 || 1000 < limits.eventsPerSecond || limits.bufferedEvents < 1 then
    .error errInvalid
  else
    match newID 0 with
    | none => .error errOutcomeUnknown
    | some id => .ok
      ({ operation := operation.id, capabilities, eventBytes := limits.eventBytes, policy, newID
         sha256 },
       { client := { c with eventsOpened := true }, id, policyState, sequence := 0, started := false
         ended := false, failed := none, items := [], usage := none, completion := none
         draws := 1 })

/-! ### Reading -/

/-- What `Next` returns. -/
inductive Outcome where
  | event (e : Event)
  | eof
  | error (e : Error)

/-- The handler of `Next`: an error is final. -/
def Stream.fail (e : Error) (s : Stream π) : Outcome × Stream π :=
  (.error e, { s with failed := some e })

/-- The loop of `Next`. Each round takes a frame, so `frames` rounds are enough if there are
fewer frames than that. -/
def pull : Nat → Stream π → Outcome × Stream π
  | 0, s => s.fail errStreamIntegrity
  | frames + 1, s =>
    match readEventFrame true s.client with
    | none => s.fail errStreamIntegrity
    | some (raw, client) =>
      match normalize u raw { s with client } with
      | (.error e, s) => s.fail e
      | (.ok (some event), s) => (.event event, s)
      | (.ok none, s) => if s.ended then (.eof, s) else pull frames s

/-- Frames that can still be read. -/
def Stream.frames (s : Stream π) : Nat := s.client.pending.length + s.client.lines.length

/-- `Next`. -/
def next (s : Stream π) : Outcome × Stream π :=
  match s.failed with
  | some e => (.error e, s)
  | none =>
    if s.ended then (.eof, s)
    else
      match s.completion with
      | some payload =>
        match finishTurn u payload s with
        | (.error e, s) => s.fail e
        | (.ok (some event), s) => (.event event, s)
        | (.ok none, s) => (.eof, s)
      | none => pull u (s.frames + 1) s

/-- The events that calls of `Next` return without an error, and the stream they leave. -/
def readEvents : Nat → Stream π → List Event × Stream π
  | 0, s => ([], s)
  | calls + 1, s =>
    match next u s with
    | (.event e, t) => ((e :: (readEvents calls t).1), (readEvents calls t).2)
    | (_, t) => readEvents calls t

end Stream

end ThinkPixelAR.Codex
