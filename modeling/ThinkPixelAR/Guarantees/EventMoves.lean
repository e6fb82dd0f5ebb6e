import ThinkPixelAR.Adapters.Codex.Events

/-!
What one frame can do to the event stream. Every frame is refused, changes the stream
without an event, or yields one event; this module says once which changes and which
events there are, so that properties of whole streams need not look at frames again.
-/
namespace ThinkPixelAR.Codex

open Harness

section Moves
variable {π : Type} {u : Setup π} {s t : Stream π}

/-! ### Items by name -/

@[simp] theorem lookup_put_self (items : Items) (name : String) (item : EventItem) :
    (items.put name item).lookup name = some item := by
  simp [Items.put]

theorem lookup_put_other {items : Items} {name other : String} (item : EventItem)
    (differs : other ≠ name) : (items.put name item).lookup other = items.lookup other := by
  have skipped : (other == name) = false := by simpa using differs
  rw [Items.put, List.lookup_cons, skipped]
  induction items with
  | nil => rfl
  | cons entry rest ih =>
    obtain ⟨key, value⟩ := entry
    by_cases removed : key = name
    · have missed : (other == key) = false := by simpa [removed] using differs
      simpa [removed, List.lookup_cons, missed, skipped] using ih
    · by_cases found : other = key
      · simp [removed, found]
      · have missed : (other == key) = false := by simpa using found
        simpa [removed, List.lookup_cons, missed] using ih

/-! ### Events and what they say of an item -/

/-- The event that `emit` makes in a stream. -/
structure Emits (u : Setup π) (kind : EventType) (payload : Payload) (s : Stream π) (e : Event)
    (t : Stream π) : Prop where
  kind : e.kind = kind
  payload : e.payload = payload
  sequence : e.sequence = s.sequence + 1
  stream : t = { s with draws := s.draws + 1, sequence := s.sequence + 1 }

/-- `emit` refuses, or makes the event. -/
theorem emit_cases (u : Setup π) (kind : EventType) (payload : Payload) (s : Stream π) :
    (∃ e t, emit u kind payload s = (.error e, t) ∧ t.client = s.client) ∨
      ∃ e t, emit u kind payload s = (.ok (some e), t) ∧ Emits u kind payload s e t := by
  unfold emit
  split
  · exact .inl ⟨_, _, rfl, rfl⟩
  split
  · exact .inl ⟨_, _, rfl, rfl⟩
  split
  · exact .inl ⟨_, _, rfl, rfl⟩
  · exact .inr ⟨_, _, rfl, rfl, rfl, rfl, rfl⟩

/-- The event that introduces an item. Messages are not introduced. -/
inductive Introduces (item : EventItem) : EventType → Payload → Prop
  | process : item.kind = .commandExecution →
      Introduces item .processStarted (.process item.id "" none)
  | tool : item.kind ≠ .agentMessage → item.kind ≠ .commandExecution →
      Introduces item .toolStarted (.tool item.id)

/-- The event that closes an item. -/
inductive Closes (item : EventItem) : EventType → Payload → Prop
  | message : item.kind = .agentMessage → item.first ≠ 0 →
      Closes item .messageCompleted (.messageCompleted item.id item.first item.last)
  | process (exit : Option Int) : item.kind = .commandExecution →
      Closes item .processCompleted (.process item.id "" exit)
  | tool {outcome : EventType} : item.kind ≠ .agentMessage → item.kind ≠ .commandExecution →
      outcome = .toolCompleted ∨ outcome = .toolFailed → Closes item outcome (.tool item.id)

/-- The types of the terminal events. -/
def Terminal (kind : EventType) : Prop :=
  kind = .executionCompletionObserved ∨ kind = .executionFailureObserved

/-- An item as `item/started` makes it. -/
structure Fresh (u : Setup π) (s : Stream π) (item : EventItem) : Prop where
  drawn : u.newID s.draws = some item.id
  undone : item.done = false
  first : item.first = 0

/-- What a frame does, where `report` are the totals it reports. -/
inductive Moves (u : Setup π) (s : Stream π) : Option Usage → Answer π → Prop
  | refused {report : Option Usage} (e : Error) (t : Stream π) : Moves u s report (.error e, t)
  /-- Nothing that an event could tell. -/
  | quiet (client : Client) (policyState : π) : client.pending = s.client.pending →
      client.lines = s.client.lines → Moves u s none (.ok none, { s with client, policyState })
  | captured (totals : Usage) : Moves u s (some totals) (.ok none, { s with usage := some totals })
  | started {e : Event} {t : Stream π} {outcome : Observation} : s.started = false →
      Emits u .executionStarted (.observation outcome) { s with started := true } e t →
      Moves u s none (.ok (some e), t)
  /-- A message begins. -/
  | opened {name : String} {item : EventItem} : s.started = true → s.items.lookup name = none →
      Fresh u s item → item.kind = .agentMessage →
      Moves u s none
        (.ok none, { s with draws := s.draws + 1, items := s.items.put name item })
  /-- A process or a tool call begins. -/
  | introduced {name : String} {item : EventItem} {kind : EventType} {payload : Payload} {e : Event}
      {t : Stream π} : s.started = true → s.items.lookup name = none → Fresh u s item →
      Introduces item kind payload →
      Emits u kind payload { s with draws := s.draws + 1, items := s.items.put name item } e t →
      Moves u s none (.ok (some e), t)
  /-- A fragment of a message is suppressed, or the message ends without an event. -/
  | noted {name : String} {item changed : EventItem} (policyState : π) : s.started = true →
      s.items.lookup name = some item → item.done = false → changed.id = item.id →
      changed.kind = item.kind → changed.first = item.first → changed.last = item.last →
      item.kind = .agentMessage →
      Moves u s none (.ok none, { s with policyState, items := s.items.put name changed })
  | delta {name : String} {item changed : EventItem} {text : String} {policyState : π}
      {items : Items} {e : Event} {t : Stream π} : items = s.items.put name changed →
      s.started = true → s.items.lookup name = some item → item.done = false →
      item.kind = .agentMessage → changed.id = item.id → changed.kind = item.kind →
      changed.done = false →
      changed.first = (if item.first = 0 then s.sequence + 1 else item.first) →
      changed.last = s.sequence + 1 →
      Emits u .messageDelta (.messageDelta item.id text) { s with policyState } e t →
      Moves u s none (.ok (some e), { t with items })
  | output {name : String} {item : EventItem} {ref : String} {policyState : π} {e : Event}
      {t : Stream π} : s.started = true → s.items.lookup name = some item → item.done = false →
      item.kind = .commandExecution →
      Emits u .processOutput (.process item.id ref none) { s with policyState } e t →
      Moves u s none (.ok (some e), t)
  | closed {name : String} {item changed : EventItem} {kind : EventType} {payload : Payload}
      {e : Event} {t : Stream π} :
      Emits u kind payload { s with items := s.items.put name changed } e t → s.started = true →
      s.items.lookup name = some item → item.done = false → changed.id = item.id →
      changed.kind = item.kind → changed.first = item.first → changed.last = item.last →
      changed.done = true → Closes item kind payload → Moves u s none (.ok (some e), t)
  | usage {totals : Usage} {outcome : Observation} {policyState : π} {e : Event} {t : Stream π} :
      s.started = true → s.usage = some totals →
      Emits u .usageObserved (.usage totals)
        { s with policyState, completion := some outcome } e t →
      Moves u s none (.ok (some e), t)
  | finished {kind : EventType} {outcome : Observation} {policyState : π} {e : Event}
      {t : Stream π} : s.started = true → Terminal kind →
      Emits u kind (.observation outcome) { s with policyState } e t →
      Moves u s none (.ok (some e), { t with ended := true, completion := none })

/-- The stream as it is. -/
theorem Moves.same : Moves u s none (.ok none, s) := .quiet s.client s.policyState rfl rfl

/-! ### One function after another -/

@[simp] theorem put_put (items : Items) (name : String) (first second : EventItem) :
    (items.put name first).put name second = items.put name second := by
  simp [Items.put, List.filter_filter]

theorem captureUsage_moves (p : Fields) : Moves u s (usageTotals p) (captureUsage u p s) := by
  unfold captureUsage
  split
  · exact .refused _ _
  split
  · exact .refused _ _
  cases read : usageTotals p with
  | none => exact .refused _ _
  | some totals =>
    dsimp only
    split
    · exact .refused _ _
    · exact .captured totals

/-- The turn ends, or the stream is left to read no further. -/
theorem finishTurn_cases (u : Setup π) (outcome : Observation) (s : Stream π) :
    (∃ e t, finishTurn u outcome s = (.error e, t) ∧ t.client = s.client) ∨
      ∃ kind e t, finishTurn u outcome s =
        (.ok (some e), { t with ended := true, completion := none }) ∧ Terminal kind ∧
          Emits u kind (.observation outcome) s e t := by
  unfold finishTurn
  have kinds : Terminal (if outcome.reasonCode = "failed" then EventType.executionFailureObserved
      else .executionCompletionObserved) := by
    split
    · exact .inr rfl
    · exact .inl rfl
  dsimp only
  generalize (if outcome.reasonCode = "failed" then EventType.executionFailureObserved
    else .executionCompletionObserved) = kind at kinds ⊢
  rcases emit_cases u kind (.observation outcome) s with ⟨e, t, refused, same⟩ | ⟨e, t, made, emits⟩
  · rw [refused]
    exact .inl ⟨e, t, rfl, same⟩
  · rw [made]
    exact .inr ⟨kind, e, t, rfl, kinds, emits⟩

theorem finishTurn_moves (running : s.started = true) (outcome : Observation) (policyState : π) :
    Moves u s none (finishTurn u outcome { s with policyState }) := by
  rcases finishTurn_cases u outcome { s with policyState } with
    ⟨e, t, refused, -⟩ | ⟨kind, e, t, made, terminal, emits⟩
  · rw [refused]
    exact .refused _ _
  · rw [made]
    exact .finished running terminal emits

theorem resultReference_state (reason : String) :
    ∃ answer policyState, resultReference u reason s = (answer, { s with policyState }) := by
  unfold resultReference
  split
  · exact ⟨_, s.policyState, rfl⟩
  · exact ⟨_, _, rfl⟩

theorem complete_moves (running : s.started = true) (turn : Fields) :
    Moves u s none (complete u turn s) := by
  unfold complete
  dsimp only
  split
  · exact .refused _ _
  split
  · exact .refused _ _
  split
  · exact .refused _ _
  obtain ⟨answer, policyState, called⟩ := resultReference_state (u := u) (s := s)
    (field turn "status")
  rw [called]
  cases answer with
  | none => exact .refused _ _
  | some ref =>
    dsimp only
    split
    · rename_i totals known
      rcases emit_cases u .usageObserved (.usage totals)
          { s with policyState, completion := some ⟨field turn "status", ref⟩ } with
        ⟨e, t, refused, -⟩ | ⟨e, t, made, emits⟩
      · rw [refused]
        exact .refused _ _
      · rw [made]
        exact .usage running known emits
    · exact finishTurn_moves running _ policyState

theorem messageDelta_moves {name : String} {item : EventItem} (running : s.started = true)
    (found : s.items.lookup name = some item) (undone : item.done = false) (text : String) :
    Moves u s none (messageDelta u name item text s) := by
  unfold messageDelta
  split
  · exact .refused _ _
  rename_i message
  have message : item.kind = .agentMessage := by simpa using message
  dsimp only
  split
  · rw [put_put]
    exact .noted s.policyState running found undone rfl rfl rfl rfl message
  split
  · exact .refused _ _
  rename_i safe policyState called
  split
  · exact .refused _ _
  split
  · rw [put_put]
    exact .noted policyState running found undone rfl rfl rfl rfl message
  rcases emit_cases u .messageDelta (.messageDelta item.id safe)
      { s with
        policyState, items := s.items.put name { item with text := item.text ++ text.toList } } with
    ⟨e, t, refused, -⟩ | ⟨e, t, made, emits⟩
  · rw [refused]
    exact .refused _ _
  · rw [made]
    obtain ⟨kind, payload, sequence, rfl⟩ := emits
    dsimp only
    rw [put_put]
    let changed : EventItem := { item with
      text := item.text ++ text.toList, last := s.sequence + 1
      first := if item.first = 0 then s.sequence + 1 else item.first }
    have kept : s.items.put name changed = s.items.put name changed := rfl
    exact .delta kept running found undone message rfl rfl undone rfl rfl
      ⟨kind, payload, sequence, rfl⟩

theorem outputDelta_moves {name : String} {item : EventItem} (running : s.started = true)
    (found : s.items.lookup name = some item) (undone : item.done = false) (text : String) :
    Moves u s none (outputDelta u item text s) := by
  unfold outputDelta
  split
  · exact .refused _ _
  rename_i process
  have process : item.kind = .commandExecution := by simpa using process
  split
  · exact .same
  split
  · exact .refused _ _
  rename_i ref policyState called
  dsimp only
  split
  · exact .quiet s.client policyState rfl rfl
  split
  · exact .refused _ _
  rcases emit_cases u .processOutput (.process item.id ref none) { s with policyState } with
    ⟨e, t, refused, -⟩ | ⟨e, t, made, emits⟩
  · rw [refused]
    exact .refused _ _
  · rw [made]
    exact .output running found undone process emits

theorem delta_moves (running : s.started = true) (message : Bool) (p : Fields) :
    Moves u s none (delta u message p s) := by
  unfold delta
  dsimp only
  split
  · exact .refused _ _
  split
  · exact .refused _ _
  rename_i item found
  split
  · exact .refused _ _
  rename_i undone
  have undone : item.done = false := by simpa using undone
  split
  · exact .refused _ _
  split
  · exact messageDelta_moves running found undone _
  · exact outputDelta_moves running found undone _

theorem itemStarted_moves (running : s.started = true) (kind : ItemKind) (name sum : String)
    (v : Fields) : Moves u s none (itemStarted u kind name sum v s) := by
  unfold itemStarted
  split
  · split
    · exact .same
    · exact .refused _ _
  rename_i unknown
  split
  · exact .refused _ _
  split
  · exact .refused _ _
  rename_i id drawn
  dsimp only
  have fresh : Fresh u s
      { id, kind, start := sum, completion := "", done := false, suppressed := false, text := []
        first := 0, last := 0 } := ⟨drawn, rfl, rfl⟩
  split
  · rename_i message
    split
    · exact .refused _ _
    · exact .opened running unknown fresh message
  rename_i other
  split
  · exact .refused _ _
  split
  · rename_i process
    rcases emit_cases u .processStarted (.process id "" none) _ with
      ⟨e, t, refused, -⟩ | ⟨e, t, made, emits⟩
    · rw [refused]
      exact .refused _ _
    · rw [made]
      exact .introduced running unknown fresh (.process process) emits
  · rename_i tool
    rcases emit_cases u .toolStarted (.tool id) _ with ⟨e, t, refused, -⟩ | ⟨e, t, made, emits⟩
    · rw [refused]
      exact .refused _ _
    · rw [made]
      exact .introduced running unknown fresh (.tool other tool) emits

theorem toolOutcome_cases {kind : ItemKind} {status : String} {outcome : EventType}
    (told : toolOutcome kind status = some outcome) :
    outcome = .toolCompleted ∨ outcome = .toolFailed := by
  unfold toolOutcome at told
  repeat' split at told
  all_goals cases told
  all_goals simp

theorem itemCompleted_moves (running : s.started = true) (kind : ItemKind) (name sum : String)
    (v : Fields) : Moves u s none (itemCompleted u kind name sum v s) := by
  unfold itemCompleted
  split
  · exact .refused _ _
  rename_i item found
  split
  · exact .refused _ _
  split
  · split
    · exact .same
    · exact .refused _ _
  rename_i undone
  have undone : item.done = false := by simpa using undone
  dsimp only
  -- the event of the item, once it is known which one closes it
  have closes {kind : EventType} {payload : Payload} (closing : Closes item kind payload) :
      Moves u s none (emit u kind payload { s with
        items := s.items.put name { item with done := true, completion := sum } }) := by
    rcases emit_cases u kind payload { s with
        items := s.items.put name { item with done := true, completion := sum } } with
      ⟨e, t, refused, -⟩ | ⟨e, t, made, emits⟩
    · rw [refused]
      exact .refused _ _
    · rw [made]
      exact .closed emits running found undone rfl rfl rfl rfl rfl closing
  unfold itemDone
  dsimp only
  split
  · rename_i message
    split
    · exact .refused _ _
    split
    · exact .refused _ _
    split
    · exact .noted s.policyState running found undone rfl rfl rfl rfl message
    · rename_i kept
      simp only [Bool.or_eq_true, decide_eq_true_eq, not_or] at kept
      exact closes (.message message kept.2)
  · rename_i process
    split
    · exact .refused _ _
    split
    · exact .refused _ _
    · exact closes (.process _ process)
  · rename_i notMessage notProcess
    split
    · exact .refused _ _
    · rename_i outcome told
      exact closes (.tool notMessage notProcess (toolOutcome_cases told))

theorem item_moves (running : s.started = true) (completed : Bool) (p : Fields) :
    Moves u s none (item u completed p s) := by
  unfold item
  dsimp only
  generalize (if completed = true then "completedAtMs" else "startedAtMs") = stamp
  split
  · exact .refused _ _
  split
  · exact .refused _ _
  split
  · exact .refused _ _
  split
  · exact .same
  · exact .refused _ _
  split
  · exact .refused _ _
  split
  · exact .refused _ _
  split
  · exact itemCompleted_moves running _ _ _ _
  · exact itemStarted_moves running _ _ _ _

theorem turnEvent_moves (completed : Bool) (p : Fields) :
    Moves u s none (turnEvent u completed p s) := by
  unfold turnEvent
  split
  · exact .refused _ _
  split
  · exact .refused _ _
  split
  · exact .refused _ _
  split
  · split
    · exact .refused _ _
    · rename_i running
      exact complete_moves (by simpa using running) _
  split
  · exact .refused _ _
  rename_i checked
  simp only [Bool.or_eq_true, not_or, Bool.not_eq_true] at checked
  rcases emit_cases u .executionStarted (.observation ⟨"", ""⟩) { s with started := true } with
    ⟨e, t, refused, -⟩ | ⟨e, t, made, emits⟩
  · rw [refused]
    exact .refused _ _
  · rw [made]
    exact .started checked.1 emits

theorem diagnostic_moves (p : Fields) : Moves u s none (diagnostic p s) := by
  unfold diagnostic
  dsimp only
  split
  · exact .refused _ _
  · exact .same

theorem toolProgress_moves (p : Fields) : Moves u s none (toolProgress p s) := by
  unfold toolProgress
  split
  · exact .refused _ _
  split
  · exact .refused _ _
  · exact .same

/-- The totals a notification reports. -/
def reportedBy (method : String) (p : Fields) : Option Usage :=
  if method = "thread/tokenUsage/updated" then usageTotals p else none

theorem turnNotified_moves (running : s.started = true) (method : String) (p : Fields) :
    Moves u s (reportedBy method p) (turnNotified u method p s) := by
  unfold turnNotified reportedBy
  split
  · exact captureUsage_moves p
  split
  · exact diagnostic_moves p
  split
  · exact .same
  split
  · exact item_moves running false p
  split
  · exact item_moves running true p
  split
  · exact delta_moves running true p
  split
  · exact delta_moves running false p
  split
  · exact toolProgress_moves p
  · exact .refused _ _

theorem notified_moves (method : String) (p : Fields) :
    Moves u s (reportedBy method p) (notified u method p s) := by
  have unreported (other : method ≠ "thread/tokenUsage/updated") : reportedBy method p = none :=
    if_neg other
  unfold notified
  split
  · exact .refused _ _
  split
  · rename_i hint
    rw [unreported (by rintro rfl; exact absurd hint (by decide))]
    exact .same
  split
  · rename_i begins
    rw [unreported (by rw [begins]; decide)]
    exact turnEvent_moves false p
  split
  · rename_i ends
    rw [unreported (by rw [ends]; decide)]
    exact turnEvent_moves true p
  split
  · exact .refused _ _
  rename_i checked
  simp only [Bool.or_eq_true, not_or, Bool.not_eq_true', Bool.not_eq_false] at checked
  exact turnNotified_moves checked.1.1 method p

theorem interruptResponse_state (f : Fields) (c : Client) :
    (∃ e client, interruptResponse f c = (.error e, client)) ∨
      ∃ client, interruptResponse f c = (.ok (), client) ∧ client.pending = c.pending ∧
        client.lines = c.lines := by
  unfold interruptResponse
  split
  · exact .inl ⟨_, _, rfl⟩
  split
  · exact .inr ⟨_, rfl, rfl, rfl⟩
  · exact .inl ⟨_, _, rfl⟩

/-- The totals a line reports, if it is a usage notification. -/
def reported (raw : Bytes) : Option Usage :=
  (object (runes raw)).bind fun f =>
    if (f.lookup "id").isSome then none
    else (objectOf (f.lookup "params")).bind (reportedBy (field f "method"))

/-- What one frame does. -/
theorem normalize_moves (raw : Bytes) : Moves u s (reported raw) (normalize u raw s) := by
  unfold normalize
  split
  · exact .refused _ _
  split
  · exact .refused _ _
  rename_i f parsed
  split
  · rename_i responds
    have unreported : reported raw = none := by
      simp only [reported, parsed, Option.bind_some, responds, if_true]
    rw [unreported]
    rcases interruptResponse_state f s.client with
      ⟨e, client, same⟩ | ⟨client, same, pending, lines⟩
    · rw [same]
      exact .refused _ _
    · rw [same]
      exact .quiet client s.policyState pending lines
  rename_i silent
  unfold notification
  split
  · exact .refused _ _
  split
  · exact .refused _ _
  split
  · exact .refused _ _
  rename_i p found
  have told : reported raw = reportedBy (field f "method") p := by
    simp only [reported, parsed, Option.bind_some, found, if_neg silent]
  rw [told]
  exact notified_moves _ p

end Moves

end ThinkPixelAR.Codex
