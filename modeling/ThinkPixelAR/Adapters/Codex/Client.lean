import ThinkPixelAR.Adapters.Codex.Frames

/-!
The Codex protocol client (`startup.go`, `thread.go`, `turn.go`): one child process,
one thread, one turn. The client writes a request, then reads frames until the answer;
it never writes a request again. What it knows about the outcome is in its fields.

A call's context may expire at any point. Expiry closes the pipes, now or later, so the
write and every read may fail; and the handler that runs when the call returns answers
with an unknown outcome if the context has expired by then.
-/
namespace ThinkPixelAR.Codex

open Harness

/-- A request as written to the child. -/
structure Request where
  id : Nat
  method : String
  params : Json

/-- The fields of `Client`. `lines` is what the child will still write, `requests` what
was written to it, with or without an error. -/
structure Client where
  initialized : Bool
  closed : Bool
  lines : List Bytes
  requests : List Request
  threadAttempted : Bool
  threadInfrastructure : Bool
  threadID : String
  threadCWD : String
  threadResumeID : String
  turnOperation : Option ID
  turnDigest : String
  turnID : String
  eventsOpened : Bool
  interruptTarget : Option (String × String)
  interruptSent : Bool
  interruptAcknowledged : Bool
  interruptAttempted : Bool
  interruptErr : Option Error
  pending : List Bytes
  pendingBytes : Nat

/-- What the world contributes to one call. -/
structure Conditions where
  /-- The context has expired when the call looks at it first. -/
  expired : Bool
  /-- The pipe takes the request. -/
  writes : Bool
  /-- How many reads succeed before the pipe is closed. -/
  readable : Nat
  /-- The context has expired when the call returns. -/
  expires : Bool

/-- `Initialize` succeeded and nothing else happened. -/
def Client.ready (lines : List Bytes) : Client :=
  { initialized := true, closed := false, lines, requests := [], threadAttempted := false
    threadInfrastructure := false, threadID := "", threadCWD := "", threadResumeID := ""
    turnOperation := none, turnDigest := "", turnID := "", eventsOpened := false
    interruptTarget := none
    interruptSent := false, interruptAcknowledged := false, interruptAttempted := false
    interruptErr := none, pending := [], pendingBytes := 0 }

/-- Requests with the given identifier that were written. -/
def Client.requested (id : Nat) (c : Client) : Nat := c.requests.countP (·.id = id)

/-- One read from the pipe. -/
def readLine : Nat → List Bytes → Option (Bytes × List Bytes)
  | 0, _ => none
  | _ + 1, lines => readSlice lines

/-- Startup hints that are discarded. -/
def startupHints : List String :=
  ["remoteControl/status/changed", "configWarning", "warning", "skills/changed",
    "mcpServer/startupStatus/updated"]

/-! ### The thread -/

/-- `threadIdentity`. -/
def threadIdentity (raw : Option Raw) (cwd : String) : Except Error String :=
  match objectOf raw with
  | none => .error errProtocol
  | some thread =>
    match unmarshalString (thread.lookup "id"), unmarshalString (thread.lookup "cwd"),
        unmarshalString (thread.lookup "cliVersion") with
    | some id, some directory, some cliVersion =>
      if !validThreadID id || directory ≠ cwd || cliVersion ≠ version ||
          textOf (thread.lookup "ephemeral") ≠ "false".toList then .error errProtocol
      else .ok id
    | _, _, _ => .error errProtocol

/-- What a frame tells the call that opens the thread. -/
inductive ThreadStep where
  | opened (id : String)
  | waiting (responseID notificationID : String)

/-- `string(status["type"])` is `"idle"` with its quotes. -/
def idleStatus (status : Option Raw) : Bool :=
  (objectOf status).any fun fields => textOf (fields.lookup "type") = "\"idle\"".toList

/-- The directory and the policy a response must repeat. -/
def threadPolicy (cwd : String) (result : Fields) : Bool :=
  (objectOf (result.lookup "sandbox")).any fun policy =>
    unmarshalString (result.lookup "cwd") = some cwd &&
      unmarshalString (result.lookup "approvalPolicy") = some "never" &&
      textOf (policy.lookup "type") = "\"readOnly\"".toList &&
      textOf (policy.lookup "networkAccess") = "false".toList

/-- The response to the request. -/
def threadResponse (cwd resumeID responseID notificationID : String) (frame : Fields) :
    Except Error ThreadStep :=
  if textOf (frame.lookup "id") ≠ ['2'] || frame.length ≠ 2 || responseID ≠ "" then
    .error errProtocol
  else
    match objectOf (frame.lookup "result") with
    | none => .error errProtocol
    | some result =>
      if !threadPolicy cwd result then .error errProtocol
      else
        match threadIdentity (result.lookup "thread") cwd with
        | .error e => .error e
        | .ok id =>
          if resumeID = "" then .ok (.waiting id notificationID)
          else if id ≠ resumeID ||
              !idleStatus ((objectOf (result.lookup "thread")).bind (·.lookup "status")) then
            .error errProtocol
          else .ok (.opened id)

/-- The pinned server adds emission timestamps to notifications. -/
def unstamped (frame : Fields) : Option Fields :=
  match frame.lookup "emittedAtMs" with
  | none => some frame
  | some stamp =>
    if (unmarshalInt64 (some stamp)).any fun milliseconds => 0 < milliseconds then
      some (frame.filter (·.1 ≠ "emittedAtMs"))
    else none

/-- What the notifications of a thread tell, by their method. -/
def threadNotified (cwd resumeID responseID notificationID method : String) (params : Raw) :
    Except Error ThreadStep :=
  if method = "thread/status/changed" then
    match object params with
    | none => .error errProtocol
    | some fields =>
      if resumeID = "" || unmarshalString (fields.lookup "threadId") ≠ some resumeID ||
          !idleStatus (fields.lookup "status") then .error errProtocol
      else .ok (.waiting responseID notificationID)
  else if method = "thread/started" then
    match object params with
    | none => .error errProtocol
    | some fields =>
      if notificationID ≠ "" || resumeID ≠ "" then .error errProtocol
      else
        match threadIdentity (fields.lookup "thread") cwd with
        | .error e => .error e
        | .ok id => .ok (.waiting responseID id)
  else if startupHints.contains method then .ok (.waiting responseID notificationID)
  else .error errProtocol

/-- A notification before the response, or between the two. -/
def threadNotification (cwd resumeID responseID notificationID : String) (frame : Fields) :
    Except Error ThreadStep :=
  match unstamped frame with
  | none => .error errProtocol
  | some frame =>
    match unmarshalString (frame.lookup "method"), frame.lookup "params" with
    | some method, some params =>
      if frame.length ≠ 2 then .error errProtocol
      else threadNotified cwd resumeID responseID notificationID method params
    | _, _ => .error errProtocol

/-- A new thread is open once the response and the notification agree. -/
def agreed : ThreadStep → Except Error ThreadStep
  | .opened id => .ok (.opened id)
  | .waiting responseID notificationID =>
    if responseID ≠ "" ∧ notificationID ≠ "" then
      if responseID ≠ notificationID then .error errProtocol else .ok (.opened responseID)
    else .ok (.waiting responseID notificationID)

/-- One frame. -/
def threadFrame (cwd resumeID responseID notificationID : String) (frame : Fields) :
    Except Error ThreadStep :=
  (if (frame.lookup "id").isSome then
      threadResponse cwd resumeID responseID notificationID frame
    else threadNotification cwd resumeID responseID notificationID frame).bind agreed

/-- The loop over at most `frames` frames. -/
def threadLoop (cwd resumeID : String) : Nat → Nat → String → String → List Bytes →
    Except Error String × List Bytes
  | 0, _, _, _, lines => (.error errProtocol, lines)
  | frames + 1, readable, responseID, notificationID, lines =>
    match readLine readable lines with
    | none => (.error errProtocol, lines)
    | some (raw, rest) =>
      match object (runes raw) with
      | none => (.error errProtocol, rest)
      | some frame =>
        match threadFrame cwd resumeID responseID notificationID frame with
        | .error e => (.error e, rest)
        | .ok (.opened id) => (.ok id, rest)
        | .ok (.waiting responseID notificationID) =>
          threadLoop cwd resumeID frames (readable - 1) responseID notificationID rest

/-- The request, with the members in the order `json.Marshal` sorts them. -/
def threadRequest (cwd resumeID : String) (infrastructure : Bool) : Request :=
  let policy : List (String × Json) := [("approvalPolicy", .string "never"), ("cwd", .string cwd)]
  if resumeID = "" then
    { id := 2, method := "thread/start"
      params := .object (policy ++ [("ephemeral", .bool false), ("sandbox", .string "read-only")]) }
  else
    { id := 2, method := "thread/resume"
      params := .object (policy ++ [("excludeTurns", .bool true)] ++
        (if infrastructure then [("modelProvider", .string "openai")] else []) ++
        [("sandbox", .string "read-only"), ("threadId", .string resumeID)]) }

/-- The working directory of a thread. -/
def validCWD (cwd : String) : Bool :=
  cleanAbsolute cwd && decide (cwd.utf8ByteSize ≤ 4096) &&
    cwd.toList.all fun c => c ≠ '\x00' && c ≠ '\r' && c ≠ '\n'

/-- The handler every call returns through: an expired context makes the outcome unknown,
and an error closes the pipes. -/
def finish (expires : Bool) (answer : Except Error String) (c : Client) :
    Except Error String × Client :=
  let answer := if expires then .error errOutcomeUnknown else answer
  (answer, if answer.isOk then c else { c with closed := true })

/-- `openThread`. -/
def openThread (w : Conditions) (cwd resumeID : String) (infrastructure : Bool) (c : Client) :
    Except Error String × Client :=
  if !c.initialized || !validCWD cwd then (.error errInvalid, c)
  else if c.threadAttempted then
    if c.threadCWD ≠ cwd || c.threadResumeID ≠ resumeID ||
        c.threadInfrastructure != infrastructure then
      (.error errConflict, c)
    else if c.threadID = "" then (.error errOutcomeUnknown, c)
    else (.ok c.threadID, c)
  else if w.expired then (.error errOutcomeUnknown, c)
  else
    let c := { c with
      threadAttempted := true, threadCWD := cwd, threadResumeID := resumeID
      threadInfrastructure := infrastructure
      requests := c.requests ++ [threadRequest cwd resumeID infrastructure] }
    if c.closed || !w.writes then finish w.expires (.error errOutcomeUnknown) c
    else
      match threadLoop cwd resumeID 32 w.readable "" "" c.lines with
      | (.error e, lines) => finish w.expires (.error e) { c with lines }
      | (.ok id, lines) => finish w.expires (.ok id) { c with lines, threadID := id }

/-! ### The turn -/

/-- What a frame tells the call that starts the turn. -/
inductive TurnStep where
  | accepted (id : String)
  | waiting

/-- The response to the request. -/
def turnResponse (frame : Fields) : Except Error TurnStep :=
  if textOf (frame.lookup "id") ≠ ['3'] || frame.length ≠ 2 then .error errProtocol
  else
    match (objectOf (frame.lookup "result")).bind fun result => objectOf (result.lookup "turn") with
    | none => .error errProtocol
    | some turn =>
      match unmarshalString (turn.lookup "id") with
      | none => .error errProtocol
      | some id =>
        if !validThreadID id || textOf (turn.lookup "status") ≠ "\"inProgress\"".toList then
          .error errProtocol
        else .ok (.accepted id)

/-- What may precede the response. Resuming emits hints about the past of the thread,
which are discarded. -/
def turnNotification (resumeID threadID : String) (frame : Fields) : Except Error TurnStep :=
  match unmarshalString (frame.lookup "method"), frame.lookup "params" with
  | some method, some params =>
    if method = "thread/tokenUsage/updated" || method = "thread/goal/cleared" then
      match object params with
      | none => .error errProtocol
      | some fields =>
        if resumeID = "" || unmarshalString (fields.lookup "threadId") ≠ some threadID then
          .error errProtocol
        else .ok .waiting
    else if startupHints.contains method || method = "thread/status/changed" then .ok .waiting
    else .error errProtocol
  | _, _ => .error errProtocol

def turnFrame (resumeID threadID : String) (frame : Fields) : Except Error TurnStep :=
  if (frame.lookup "id").isSome then turnResponse frame
  else turnNotification resumeID threadID frame

def turnLoop (resumeID threadID : String) : Nat → Nat → List Bytes →
    Except Error String × List Bytes
  | 0, _, lines => (.error errProtocol, lines)
  | frames + 1, readable, lines =>
    match readLine readable lines with
    | none => (.error errProtocol, lines)
    | some (raw, rest) =>
      match object (runes raw) with
      | none => (.error errProtocol, rest)
      | some frame =>
        match turnFrame resumeID threadID frame with
        | .error e => (.error e, rest)
        | .ok (.accepted id) => (.ok id, rest)
        | .ok .waiting => turnLoop resumeID threadID frames (readable - 1) rest

def turnRequest (threadID cwd : String) (text : Bytes) : Request :=
  { id := 3, method := "turn/start"
    params := .object [("approvalPolicy", .string "never"), ("cwd", .string cwd),
      ("input", .array [.object [("text", .string (String.ofList (runes text))),
        ("type", .string "text")]]),
      ("sandboxPolicy", .object [("networkAccess", .bool false), ("type", .string "readOnly")]),
      ("threadId", .string threadID)] }

/-- What the digest of a turn is computed of: the input's identifier, whose text is ASCII,
a zero byte and the text. -/
def turnInput (inputID : ID) (text : Bytes) : Bytes :=
  inputID.text.toList.map (fun c => UInt8.ofNat c.toNat) ++ 0 :: text

/-- `StartTurn`; `sha256` is the sum in hexadecimal digits. -/
def startTurn (sha256 : Bytes → String) (w : Conditions) (operation inputID : ID) (text : Bytes)
    (c : Client) : Except Error String × Client :=
  if c.threadInfrastructure || c.threadID = "" || text.isEmpty ||
      decide (16 * 1024 < text.length) || !validUTF8 text then (.error errInvalid, c)
  else if !validID operation || !validID inputID then (.error errInvalid, c)
  else if c.turnOperation.isSome then
    if c.turnOperation ≠ some operation || c.turnDigest ≠ sha256 (turnInput inputID text) then
      (.error errConflict, c)
    else if c.turnID = "" then (.error errOutcomeUnknown, c)
    else (.ok c.turnID, c)
  else if w.expired then (.error errOutcomeUnknown, c)
  else
    let c := { c with
      turnOperation := some operation, turnDigest := sha256 (turnInput inputID text)
      requests := c.requests ++ [turnRequest c.threadID c.threadCWD text] }
    if c.closed || !w.writes then finish w.expires (.error errOutcomeUnknown) c
    else
      match turnLoop c.threadResumeID c.threadID 32 w.readable c.lines with
      | (.error e, lines) => finish w.expires (.error e) { c with lines }
      | (.ok id, lines) => finish w.expires (.ok id)
          { c with lines, turnID := id, interruptTarget := some (c.threadID, id) }

/-! ### Calls -/

inductive Operation where
  | startThread (cwd : String)
  | resumeThread (cwd threadID : String)
  | resumeThreadForInfrastructure (cwd threadID : String)
  | startTurn (operation inputID : ID) (text : Bytes)

/-- One call of the client. -/
def Operation.perform (sha256 : Bytes → String) (w : Conditions) (c : Client) :
    Operation → Except Error String × Client
  | .startThread cwd => openThread w cwd "" false c
  | .resumeThread cwd threadID =>
    if !validThreadID threadID then (.error errInvalid, c) else openThread w cwd threadID false c
  | .resumeThreadForInfrastructure cwd threadID =>
    if !validThreadID threadID then (.error errInvalid, c) else openThread w cwd threadID true c
  | .startTurn operation inputID text => Codex.startTurn sha256 w operation inputID text c

end ThinkPixelAR.Codex
