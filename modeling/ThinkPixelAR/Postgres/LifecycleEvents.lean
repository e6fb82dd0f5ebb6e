import ThinkPixelAR.Postgres.Store

/-!
Runtime events that lifecycle transactions append together with their outbox
message. Two writers exist: one builds a domain event and publishes its full
envelope (`recordRecoveryEvent`, `replacementEvent`), the other writes both rows
directly and publishes the payload (`suspendedEvent`, `resumeEvent`,
`checkpointEvent`, `publishedCheckpointEvent`). Keys of a Go map are encoded in
ascending order.
-/
namespace ThinkPixelAR.Postgres

open Relational
open RuntimeEvent (Event Kind Classification schemaVersion create)

/-- The statements an event writer may submit. -/
inductive EventStatement : Stmt → Prop
  | stream (sessionID : ID) (now : Time) :
    EventStatement
      (.insert .runtimeEventStreams { sessionID, lastSequence := 0, updatedAt := now })
  | event (e : Event) : EventStatement (.insert .runtimeEvents e)
  | outbox (m : Outbox.Message) (pending : m.state = .pending) (fresh : m.claimFence = 0) :
    EventStatement (.insert .outboxMessages m)

/-- The stream row of a Session, created when missing, and its next sequence. -/
def allocateSequence (now : Time) (sessionID : ID) : Transaction Nat := do
  let db ← Tx.get
  Tx.onlyIf ((db .runtimeEventStreams).any (·.sessionID = sessionID) = false)
    (exec (.insert .runtimeEventStreams { sessionID, lastSequence := 0, updatedAt := now }))
  let db ← Tx.get
  let stream ← queryRow ((db .runtimeEventStreams).find? (·.sessionID = sessionID))
  return stream.lastSequence + 1

/-- A message of topic `topic` about the event `id`, available at once. -/
def pendingMessage (id : ID) (topic schemaVersion aggregateType : String) (aggregateID : ID)
    (version : Nat) (payload : String) (digest : Digest) (now : Time) : Outbox.Message :=
  { id, ownerID := none
    envelope :=
      { topic, schemaVersion, eventID := id, aggregateType, aggregateID
        aggregateVersion := version, payload := some payload, payloadReference := none
        payloadDigest := digest }
    state := .pending, attempts := 0, claimFence := 0, availableAt := now
    claimExpiresAt := none, lastErrorCode := none, deadLetter := none, createdAt := now
    updatedAt := now, deliveredAt := none }

/-- What an event is about. -/
structure EventSubject where
  sessionID : ID
  executionID : Option ID
  attemptID : Option ID
  aggregateType : String
  aggregateID : ID

def EventSubject.event (subject : EventSubject) (id : ID) (sequence version : Nat)
    (kind : Kind) (classification : Classification) (payload : String)
    (retentionPolicy : String) (now : Time) : Event :=
  { eventID := id, sessionID := subject.sessionID, executionID := subject.executionID
    attemptID := subject.attemptID, sequence, aggregateVersion := version, kind
    occurredAt := now, recordedAt := now, source := .agentRuntime, classification, payload
    correlation := ⟨none, none, none⟩, retentionPolicy, retainUntil := none }

/-- The envelope of an Internal event of the agent runtime. -/
def eventEnvelope (platform : Platform) (subject : EventSubject) (id : ID)
    (sequence version : Nat) (kind : Kind) (payload : Json) (now : Time) : Json :=
  .object [("aggregate_version", .nat version),
    ("attempt_id", .string (idText subject.attemptID)), ("classification", .string "Internal"),
    ("correlation", .object []), ("event_id", .string id.text),
    ("execution_id", .string (idText subject.executionID)),
    ("occurred_at", .string (platform.rfc3339 now)), ("payload", payload),
    ("recorded_at", .string (platform.rfc3339 now)),
    ("schema_version", .string schemaVersion), ("sequence", .nat sequence),
    ("session_id", .string subject.sessionID.text), ("source", .string "agent-runtime"),
    ("tenant_id", .string platform.tenantID.text), ("type", .string kind.text)]

/-- Append a domain event and publish its envelope on `runtime.events`. -/
def appendWithEnvelope (platform : Platform) (txNow : Time) (subject : EventSubject) (id : ID)
    (version : Nat) (kind : Kind) (payload : Json) (now : Time) :
    Transaction Unit := do
  let sequence ← allocateSequence txNow subject.sessionID
  let event ← Tx.lift (create
    (subject.event id sequence version kind .isInternal payload.encode "runtime-control" now))
  RuntimeEvents.append event
  let envelope := (eventEnvelope platform subject id sequence version kind payload now).encode
  exec (.insert .outboxMessages
    (pendingMessage id "runtime.events" schemaVersion subject.aggregateType
      subject.aggregateID version envelope (platform.sha256 envelope) now))

/-- Write an event and its message directly, both at the transaction's timestamp. -/
def insertWithPayload (platform : Platform) (now : Time) (subject : EventSubject) (id : ID)
    (version : Nat) (kind : Kind) (classification : Classification)
    (retentionPolicy topic schemaVersion : String) (payload : Json) : Transaction Unit := do
  let sequence ← allocateSequence now subject.sessionID
  let text := payload.encode
  exec (.insert .runtimeEvents
    (subject.event id sequence version kind classification text retentionPolicy now))
  exec (.insert .outboxMessages
    (pendingMessage id topic schemaVersion subject.aggregateType subject.aggregateID version text
      (platform.sha256 text) now))

/-! ### What the writers submit -/

variable {now : Time} {kind : Kind} {payload : Json} {platform : Platform}
  {subject : EventSubject} {version : Nat}

theorem allocateSequence_submits {sessionID : ID} :
    (allocateSequence now sessionID).Submits EventStatement := by
  unfold allocateSequence
  rw [Tx.submits_get_bind]
  intro db
  refine .bind ?_ fun _ => ?_
  · rw [Tx.submits_onlyIf, submits_exec]
    exact fun _ => .stream sessionID now
  · simp

theorem appendWithEnvelope_submits {txNow : Time} {id : ID} :
    (appendWithEnvelope platform txNow subject id version kind payload now).Submits
      EventStatement := by
  unfold appendWithEnvelope RuntimeEvents.append
  refine allocateSequence_submits.bind fun sequence => ?_
  rw [Tx.submits_lift_bind]
  intro event _
  refine .bind (submits_execWrapped.mpr (.event event)) fun _ => ?_
  exact submits_exec.mpr (.outbox _ rfl rfl)

theorem insertWithPayload_submits {id : ID} {classification : Classification}
    {retentionPolicy topic schemaVersion : String} :
    (insertWithPayload platform now subject id version kind classification retentionPolicy topic
      schemaVersion payload).Submits EventStatement := by
  unfold insertWithPayload
  refine allocateSequence_submits.bind fun sequence => ?_
  refine .bind (submits_exec.mpr (.event _)) fun _ => ?_
  exact submits_exec.mpr (.outbox _ rfl rfl)

/-- The tables event writers change. -/
def eventTables : List Table := [.runtimeEventStreams, .runtimeEvents, .outboxMessages]

theorem EventStatement.on {c : Stmt} (h : EventStatement c) : OnTables eventTables c := by
  cases h <;> simp [eventTables]

end ThinkPixelAR.Postgres
