import ThinkPixelAR.Guarantees.EventMoves

/-!
The grammar of the Codex event stream: which event may follow which, for every sequence of
vendor lines and every policy. `Admits` says what an event owes to the events before it;
the stream keeps enough of them in its fields to answer for each new one.
-/
namespace ThinkPixelAR.Codex

open Harness

variable {kind : EventType} {e : Event} {payload : Payload}

/-! ### What an event is about -/

/-- The item an event refers to. -/
def subject (e : Event) : Option ID :=
  match e.payload with
  | .messageDelta id _ | .messageCompleted id _ _ | .process id _ _ | .tool id => some id
  | .observation _ | .usage _ => none

/-- The event has the type and refers to the item. -/
def about (kind : EventType) (id : ID) (e : Event) : Bool :=
  decide (e.kind = kind) && decide (subject e = some id)

theorem about_iff {id : ID} : about kind id e = true ↔ e.kind = kind ∧ subject e = some id := by
  simp [about]

/-- The types of the events that close an item. -/
def Closing (kind : EventType) : Prop :=
  kind = .messageCompleted ∨ kind = .processCompleted ∨ kind = .toolCompleted ∨ kind = .toolFailed

/-- The fragments of a message. -/
def deltas (events : List Event) (id : ID) : List Event := events.filter (about .messageDelta id)

/-- The event may follow the events. -/
structure Admits (events : List Event) (e : Event) : Prop where
  numbered : e.sequence = events.length + 1
  begins : e.kind = .executionStarted ↔ events = []
  /-- Nothing follows a terminal event. -/
  live : ∀ d ∈ events, ¬ Terminal d.kind
  /-- Only a terminal event follows the usage. -/
  usage : (∃ d ∈ events, d.kind = .usageObserved) → Terminal e.kind
  process : e.kind = .processOutput ∨ e.kind = .processCompleted →
    ∃ id, subject e = some id ∧ events.countP (about .processStarted id) = 1 ∧
      ∀ d ∈ events, about .processCompleted id d = false
  tool : e.kind = .toolCompleted ∨ e.kind = .toolFailed →
    ∃ id, subject e = some id ∧ events.countP (about .toolStarted id) = 1 ∧
      ∀ d ∈ events, about .toolCompleted id d = false ∧ about .toolFailed id d = false
  /-- A message ends once, with the numbers of its first and its last fragment. -/
  completed : e.kind = .messageCompleted →
    ∃ id first last, e.payload = .messageCompleted id first last ∧
      (deltas events id).head?.map (·.sequence) = some first ∧
      (deltas events id).getLast?.map (·.sequence) = some last ∧
      ∀ d ∈ events, about .messageCompleted id d = false
  /-- No fragment follows the end of its message. -/
  delta : e.kind = .messageDelta →
    ∃ id, subject e = some id ∧ ∀ d ∈ events, about .messageCompleted id d = false

/-! ### What the stream remembers -/

/-- What the fields of an item say about the events. -/
structure Linked (events : List Event) (item : EventItem) : Prop where
  introduced : ∀ kind payload, Introduces item kind payload →
    events.countP (about kind item.id) = 1
  undone : item.done = false → ∀ d ∈ events, subject d = some item.id → ¬ Closing d.kind
  first : item.kind = .agentMessage → (deltas events item.id).head?.map (·.sequence) =
    if item.first = 0 then none else some item.first
  last : item.kind = .agentMessage → item.first ≠ 0 →
    (deltas events item.id).getLast?.map (·.sequence) = some item.last

/-- The items are those the events are about, each with its own identifier. -/
structure Catalogue {π : Type} (u : Setup π) (draws : Nat) (find : String → Option EventItem)
    (events : List Event) : Prop where
  known : ∀ e ∈ events, ∀ id, subject e = some id →
    ∃ name item, find name = some item ∧ item.id = id
  distinct : ∀ {name other item second}, find name = some item → find other = some second →
    item.id = second.id → name = other
  drawn : ∀ {name item}, find name = some item → ∃ n < draws, u.newID n = some item.id
  linked : ∀ {name item}, find name = some item → Linked events item

/-- The item under a name. -/
def Stream.find {π : Type} (s : Stream π) (name : String) : Option EventItem := s.items.lookup name

/-- No two draws give the same identifier. -/
def Unrepeated {π : Type} (u : Setup π) : Prop :=
  ∀ i j id, u.newID i = some id → u.newID j = some id → i = j

section Items
variable {π : Type} {u : Setup π} {events more : List Event} {item changed : EventItem}

theorem deltas_append (events more : List Event) (id : ID) :
    deltas (events ++ more) id = deltas events id ++ deltas more id := List.filter_append ..

theorem not_about {id : ID} (other : subject e ≠ some id) : about kind id e = false := by
  simp [about, other]

/-- Events that neither introduce an item nor are fragments of it, nor close it unless done. -/
theorem Linked.extend (before : Linked events item)
    (introduced : ∀ kind payload, Introduces item kind payload →
      ∀ e ∈ more, about kind item.id e = false)
    (fragments : ∀ e ∈ more, about .messageDelta item.id e = false)
    (closes : item.done = false → ∀ e ∈ more, subject e = some item.id → ¬ Closing e.kind) :
    Linked (events ++ more) item := by
  have same : deltas (events ++ more) item.id = deltas events item.id := by
    rw [deltas_append, deltas, deltas, List.append_right_eq_self, List.filter_eq_nil_iff]
    intro e found
    simp [fragments e found]
  refine ⟨fun kind payload how => ?_, fun undone d found told => ?_, fun message => ?_,
    fun message told => ?_⟩
  · rw [List.countP_append, before.introduced kind payload how, Nat.add_eq_left,
      List.countP_eq_zero]
    intro e found
    simp [introduced kind payload how e found]
  · rcases List.mem_append.mp found with earlier | later
    · exact before.undone undone d earlier told
    · exact closes undone d later told
  · rw [same]
    exact before.first message
  · rw [same]
    exact before.last message told

/-- Events about other items change nothing. -/
theorem Linked.append (before : Linked events item)
    (other : ∀ e ∈ more, subject e ≠ some item.id) : Linked (events ++ more) item :=
  before.extend (fun _ _ _ e found => not_about (other e found))
    (fun e found => not_about (other e found)) fun _ e found told => absurd told (other e found)

/-- Only these fields are about the events. -/
theorem Linked.congr (before : Linked events item) (id : changed.id = item.id)
    (kind : changed.kind = item.kind) (first : changed.first = item.first)
    (last : changed.last = item.last) (undone : changed.done = false → item.done = false) :
    Linked events changed where
  introduced k payload how := by
    rw [id]
    cases how with
    | process process => exact before.introduced _ _ (.process (kind ▸ process))
    | tool message process => exact before.introduced _ _ (.tool (kind ▸ message) (kind ▸ process))
  undone still := by
    rw [id]
    exact before.undone (undone still)
  first message := by
    rw [id, first]
    exact before.first (kind ▸ message)
  last message told := by
    rw [id, last]
    exact before.last (kind ▸ message) (first ▸ told)

/-- One item changes or is new, and the new events are about it. -/
theorem Catalogue.update {draws next : Nat} {find : String → Option EventItem} {name : String}
    (before : Catalogue u draws find events) (unrepeated : Unrepeated u) (grows : draws ≤ next)
    (mine : ∀ e ∈ more, subject e = some changed.id)
    (owner : (∃ item, find name = some item ∧ changed.id = item.id) ∨
      (find name = none ∧ u.newID draws = some changed.id ∧ draws < next))
    (linked : Linked (events ++ more) changed) :
    Catalogue u next (Function.update find name (some changed)) (events ++ more) := by
  -- another item has another identifier: it was drawn before, or it is another entry
  have apart {other : String} {second : EventItem} (found : find other = some second)
      (differs : other ≠ name) : second.id ≠ changed.id := by
    intro same
    rcases owner with ⟨item, held, kept⟩ | ⟨-, drawn, -⟩
    · exact differs (before.distinct found held (same.trans kept))
    · obtain ⟨n, earlier, told⟩ := before.drawn found
      have repeated := unrepeated n draws changed.id (same ▸ told) drawn
      omega
  have here : Function.update find name (some changed) name = some changed :=
    Function.update_self ..
  have there {other : String} (differs : other ≠ name) :
      Function.update find name (some changed) other = find other :=
    Function.update_of_ne differs ..
  refine ⟨fun e found id told => ?_, fun {one two item second} first other same => ?_,
    fun {other second} found => ?_, fun {other second} found => ?_⟩
  · rcases List.mem_append.mp found with earlier | later
    · obtain ⟨other, item, held, identified⟩ := before.known e earlier id told
      by_cases same : other = name
      · rcases owner with ⟨owned, held', kept⟩ | ⟨absent, -, -⟩
        · rw [same, held'] at held
          cases held
          exact ⟨name, changed, here, kept.trans identified⟩
        · rw [same, absent] at held
          cases held
      · exact ⟨other, item, (there same).trans held, identified⟩
    · have about := mine e later
      exact ⟨name, changed, here, Option.some.inj (about.symm.trans told)⟩
  · by_cases oneHere : one = name
    · by_cases twoHere : two = name
      · exact oneHere.trans twoHere.symm
      · rw [oneHere, here] at first
        rw [there twoHere] at other
        cases first
        exact absurd same.symm (apart other twoHere)
    · rw [there oneHere] at first
      by_cases twoHere : two = name
      · rw [twoHere, here] at other
        cases other
        exact absurd same (apart first oneHere)
      · rw [there twoHere] at other
        exact before.distinct first other same
  · by_cases same : other = name
    · rw [same, here] at found
      cases found
      rcases owner with ⟨item, held, kept⟩ | ⟨-, drawn, room⟩
      · obtain ⟨n, earlier, told⟩ := before.drawn held
        exact ⟨n, by omega, kept ▸ told⟩
      · exact ⟨draws, room, drawn⟩
    · rw [there same] at found
      obtain ⟨n, earlier, told⟩ := before.drawn found
      exact ⟨n, by omega, told⟩
  · by_cases same : other = name
    · rw [same, here] at found
      cases found
      exact linked
    · rw [there same] at found
      refine (before.linked found).append fun e later told => ?_
      exact apart found same (Option.some.inj (told.symm.trans (mine e later)))

/-- An event that is about no item. -/
theorem Catalogue.append {draws next : Nat} {find : String → Option EventItem}
    (before : Catalogue u draws find events) (grows : draws ≤ next) (none : subject e = none) :
    Catalogue u next find (events ++ [e]) := by
  refine ⟨fun d found id told => ?_, before.distinct, fun found => ?_, fun found => ?_⟩
  · rcases List.mem_append.mp found with earlier | later
    · exact before.known d earlier id told
    · rw [List.mem_singleton.mp later, none] at told
      cases told
  · obtain ⟨n, earlier, told⟩ := before.drawn found
    exact ⟨n, by omega, told⟩
  · refine (before.linked found).append fun d later => ?_
    rw [List.mem_singleton.mp later, none]
    exact fun absurd => by cases absurd

end Items

/-! ### One step -/

/-- What the stream remembers of the events it has emitted. -/
structure Records {π : Type} (u : Setup π) (s : Stream π) (events : List Event) : Prop where
  sequence : s.sequence = events.length
  started : s.started = true ↔ events ≠ []
  live : s.ended = false → ∀ d ∈ events, ¬ Terminal d.kind
  unused : s.ended = false → s.completion = none → ∀ d ∈ events, d.kind ≠ .usageObserved
  items : Catalogue u s.draws s.find events

/-- The stream takes frames. -/
structure Stream.Open {π : Type} (s : Stream π) : Prop where
  running : s.ended = false
  undecided : s.completion = none

section Step
variable {π : Type} {u : Setup π} {s t : Stream π} {events : List Event} {item changed : EventItem}
  {name : String}

theorem find_put (items : Items) (name : String) (item : EventItem) :
    (fun other => (items.put name item).lookup other) =
      Function.update (fun other => items.lookup other) name (some item) := by
  funext other
  by_cases same : other = name
  · rw [same, Function.update_self, lookup_put_self]
  · rw [Function.update_of_ne same, lookup_put_other item same]

/-- What the events before owe to no item. -/
theorem Records.admits (r : Records u s events) (running : s.ended = false)
    (undecided : s.completion = none ∨ Terminal e.kind)
    (numbered : e.sequence = s.sequence + 1)
    (begins : if e.kind = .executionStarted then s.started = false else s.started = true)
    (process : e.kind = .processOutput ∨ e.kind = .processCompleted →
      ∃ id, subject e = some id ∧ events.countP (about .processStarted id) = 1 ∧
        ∀ d ∈ events, about .processCompleted id d = false)
    (tool : e.kind = .toolCompleted ∨ e.kind = .toolFailed →
      ∃ id, subject e = some id ∧ events.countP (about .toolStarted id) = 1 ∧
        ∀ d ∈ events, about .toolCompleted id d = false ∧ about .toolFailed id d = false)
    (completed : e.kind = .messageCompleted →
      ∃ id first last, e.payload = .messageCompleted id first last ∧
        (deltas events id).head?.map (·.sequence) = some first ∧
        (deltas events id).getLast?.map (·.sequence) = some last ∧
        ∀ d ∈ events, about .messageCompleted id d = false)
    (delta : e.kind = .messageDelta →
      ∃ id, subject e = some id ∧ ∀ d ∈ events, about .messageCompleted id d = false) :
    Admits events e where
  numbered := by rw [numbered, r.sequence]
  begins := by
    have told := r.started
    split at begins
    · rename_i first
      simp only [begins, Bool.false_eq_true, false_iff, ne_eq, not_not] at told
      simp only [first, told]
    · rename_i later
      simp only [begins, true_iff] at told
      simp only [later, told]
  live := r.live running
  usage := fun told => by
    obtain ⟨d, found, used⟩ := told
    rcases undecided with undecided | ends
    · exact absurd used (r.unused running undecided d found)
    · exact ends
  process := process
  tool := tool
  completed := completed
  delta := delta

/-- An item that is not done has no closing event. -/
theorem Linked.unclosed (linked : Linked events item) (undone : item.done = false)
    (closing : Closing kind) : ∀ d ∈ events, about kind item.id d = false := by
  intro d found
  by_contra told
  simp only [Bool.not_eq_false, about_iff] at told
  exact linked.undone undone d found told.2 (told.1 ▸ closing)

/-- The first fragment stays the first, the new one is the last. -/
theorem Linked.fragment (linked : Linked events item) (message : item.kind = .agentMessage)
    (undone : item.done = false) (id : changed.id = item.id) (kind : changed.kind = item.kind)
    (first : changed.first = if item.first = 0 then e.sequence else item.first)
    (last : changed.last = e.sequence) (delta : e.kind = .messageDelta)
    (mine : subject e = some item.id) (positive : e.sequence ≠ 0) :
    Linked (events ++ [e]) changed := by
  have heard : about .messageDelta item.id e = true := about_iff.mpr ⟨delta, mine⟩
  have fragments : deltas (events ++ [e]) changed.id = deltas events item.id ++ [e] := by
    rw [id, deltas_append]
    simp [deltas, heard]
  refine ⟨fun k payload how => ?_, fun _ d found _ => ?_, fun _ => ?_, fun _ _ => ?_⟩
  · cases how with
    | process process => rw [kind, message] at process; cases process
    | tool agent _ => exact absurd (kind.trans message) agent
  · rcases List.mem_append.mp found with earlier | later
    · rename_i same
      exact linked.undone undone d earlier (id ▸ same)
    · rw [List.mem_singleton.mp later, delta]
      rintro (never | never | never | never) <;> cases never
  · have before := linked.first message
    rw [fragments, first]
    split at before
    · rename_i none
      simp only [Option.map_eq_none_iff, List.head?_eq_none_iff] at before
      simp [before, none, positive]
    · rename_i some
      cases held : deltas events item.id with
      | nil => rw [held] at before; cases before
      | cons d rest =>
        rw [held] at before
        simpa [some] using before
  · rw [fragments, last]
    simp

/-- An event about an item that is neither a fragment nor an introduction. -/
theorem Linked.told (linked : Linked events item) (id : changed.id = item.id)
    (kind : changed.kind = item.kind) (first : changed.first = item.first)
    (last : changed.last = item.last) (undone : changed.done = false → item.done = false)
    (closes : changed.done = false → ¬ Closing e.kind) (fragment : e.kind ≠ .messageDelta)
    (process : e.kind ≠ .processStarted) (tool : e.kind ≠ .toolStarted) :
    Linked (events ++ [e]) changed := by
  refine (linked.congr id kind first last undone).extend (fun k payload how => ?_) ?_
    fun still => ?_
  · cases how with
    | process => simp [about, process]
    | tool => simp [about, tool]
  · simp [about, fragment]
  · simp [closes still]

/-- No event is about an identifier that was not drawn yet. -/
theorem Catalogue.unheard {draws : Nat} {find : String → Option EventItem} {id : ID}
    (items : Catalogue u draws find events) (unrepeated : Unrepeated u)
    (drawn : u.newID draws = some id) : ∀ d ∈ events, subject d ≠ some id := by
  intro d found told
  obtain ⟨name, item, held, same⟩ := items.known d found id told
  obtain ⟨n, earlier, before⟩ := items.drawn held
  have repeated := unrepeated n draws id (same ▸ before) drawn
  omega

/-- The new item with the events that introduce it, if any. -/
theorem Linked.fresh {more : List Event} (unheard : ∀ d ∈ events, subject d ≠ some item.id)
    (first : item.first = 0) (fragments : deltas more item.id = [])
    (introduced : ∀ kind payload, Introduces item kind payload →
      more.countP (about kind item.id) = 1)
    (unclosed : ∀ d ∈ more, ¬ Closing d.kind) : Linked (events ++ more) item := by
  have none : deltas (events ++ more) item.id = [] := by
    rw [deltas_append, fragments, List.append_nil, deltas, List.filter_eq_nil_iff]
    intro d found
    simp [not_about (unheard d found)]
  refine ⟨fun kind payload how => ?_, fun _ d found same => ?_, fun _ => ?_, fun _ told => ?_⟩
  · have silent : events.countP (about kind item.id) = 0 := by
      rw [List.countP_eq_zero]
      intro d found
      simp [not_about (unheard d found)]
    rw [List.countP_append, silent, introduced kind payload how]
  · rcases List.mem_append.mp found with earlier | later
    · exact absurd same (unheard d earlier)
    · exact unclosed d later
  · rw [none, if_pos first]
    rfl
  · exact absurd first told

/-- The fields of the stream that count events, after one more. -/
theorem Records.advance (r : Records u s events) (sequence : t.sequence = s.sequence + 1)
    (started : t.started = true)
    (live : t.ended = false → s.ended = false ∧ ¬ Terminal e.kind)
    (unused : t.ended = false → t.completion = none →
      s.completion = none ∧ e.kind ≠ .usageObserved)
    (items : Catalogue u t.draws t.find (events ++ [e])) : Records u t (events ++ [e]) where
  sequence := by rw [sequence, r.sequence, List.length_append, List.length_singleton]
  started := by simp [started]
  live running d found := by
    obtain ⟨before, alive⟩ := live running
    rcases List.mem_append.mp found with earlier | later
    · exact r.live before d earlier
    · exact (List.mem_singleton.mp later) ▸ alive
  unused running undecided d found := by
    obtain ⟨before, other⟩ := unused running undecided
    rcases List.mem_append.mp found with earlier | later
    · exact r.unused (live running).1 before d earlier
    · exact (List.mem_singleton.mp later) ▸ other
  items := items

end Step

/-- What a step owes to the events before it. -/
def Continues {π : Type} (u : Setup π) (events : List Event) : Answer π → Prop
  | (.error _, _) => True
  | (.ok none, t) => Records u t events ∧ t.Open
  | (.ok (some e), t) => Admits events e ∧ Records u t (events ++ [e])

section Run
variable {π : Type} {u : Setup π} {s t : Stream π} {events : List Event} {item changed : EventItem}
  {name : String}

theorem Stream.find_put (s : Stream π) (name : String) (item : EventItem) :
    Stream.find { s with items := s.items.put name item } =
      Function.update s.find name (some item) := Codex.find_put s.items name item

/-- The event begins the stream, or it introduces an item, reports usage or ends the turn. -/
theorem Records.admits_plain (r : Records u s events) (running : s.ended = false)
    (undecided : s.completion = none ∨ Terminal e.kind)
    (numbered : e.sequence = s.sequence + 1)
    (begins : if e.kind = .executionStarted then s.started = false else s.started = true)
    (plain : e.kind ∉ [EventType.processOutput, .processCompleted, .toolCompleted, .toolFailed,
      .messageCompleted, .messageDelta]) : Admits events e := by
  refine r.admits running undecided numbered begins (fun which => ?_) (fun which => ?_)
    (fun which => ?_) (fun which => ?_)
  · exact absurd (by rcases which with same | same <;> simp [same]) plain
  · exact absurd (by rcases which with same | same <;> simp [same]) plain
  · exact absurd (by simp [which]) plain
  · exact absurd (by simp [which]) plain

theorem Terminal.plain (terminal : Terminal kind) :
    kind ≠ .executionStarted ∧ kind ∉ [EventType.processOutput, .processCompleted, .toolCompleted,
      .toolFailed, .messageCompleted, .messageDelta] := by
  rcases terminal with rfl | rfl <;> decide

theorem Terminal.ne_usage (terminal : Terminal kind) : kind ≠ .usageObserved := by
  rcases terminal with rfl | rfl <;> decide

theorem Introduces.spec (how : Introduces item kind payload) (told : e.payload = payload) :
    kind ≠ .executionStarted ∧ kind ∉ [EventType.processOutput,
      .processCompleted, .toolCompleted, .toolFailed, .messageCompleted, .messageDelta] ∧
      ¬ Closing kind ∧ ¬ Terminal kind ∧ kind ≠ .usageObserved ∧ subject e = some item.id := by
  cases how with
  | process | tool => simp [Closing, Terminal, subject, told]

/-- An item is introduced in one way. -/
theorem Introduces.unique {other : EventType} {second : Payload}
    (how : Introduces item kind payload) (also : Introduces item other second) : other = kind := by
  cases how with
  | process process =>
    cases also with
    | process => rfl
    | tool _ never => exact absurd process never
  | tool _ never =>
    cases also with
    | process process => exact absurd process never
    | tool => rfl

theorem Closes.spec (how : Closes item kind payload) (told : e.payload = payload) :
    kind ≠ .executionStarted ∧ kind ≠ .messageDelta ∧
      kind ≠ .processStarted ∧ kind ≠ .toolStarted ∧ ¬ Terminal kind ∧ kind ≠ .usageObserved ∧
      subject e = some item.id := by
  cases how with
  | message | process => simp [Terminal, subject, told]
  | tool _ _ outcome => rcases outcome with rfl | rfl <;> simp [Terminal, subject, told]

/-- A message is closed with what its item remembers, a process and a tool call after their
introduction. -/
theorem Records.admits_closing (r : Records u s events) (ready : s.Open)
    (numbered : e.sequence = s.sequence + 1) (begun : s.started = true)
    (linked : Linked events item) (undone : item.done = false) (told : e.payload = payload)
    (how : Closes item e.kind payload) : Admits events e := by
  obtain ⟨late, fragment, -, -, -, -, mine⟩ := how.spec told
  refine r.admits ready.running (.inl ready.undecided) numbered (by rw [if_neg late]; exact begun)
    (fun which => ?_) (fun which => ?_) (fun which => ?_) (fun which => absurd which fragment)
  · generalize e.kind = kind at how which
    cases how with
    | message => simp at which
    | process _ process =>
      exact ⟨item.id, mine, linked.introduced _ _ (.process process),
        linked.unclosed undone (.inr (.inl rfl))⟩
    | tool _ _ outcome => rcases outcome with rfl | rfl <;> simp at which
  · generalize e.kind = kind at how which
    cases how with
    | message => simp at which
    | process => simp at which
    | tool message process =>
      have completed := linked.unclosed undone (.inr (.inr (.inl rfl)))
      have failed := linked.unclosed undone (.inr (.inr (.inr rfl)))
      exact ⟨item.id, mine, linked.introduced _ _ (.tool message process),
        fun d found => ⟨completed d found, failed d found⟩⟩
  · generalize e.kind = kind at how which
    cases how with
    | message message spoken =>
      have first := linked.first message
      rw [if_neg spoken] at first
      exact ⟨item.id, item.first, item.last, told, first, linked.last message spoken,
        linked.unclosed undone (.inl rfl)⟩
    | process => cases which
    | tool _ _ outcome => rcases outcome with rfl | rfl <;> cases which

/-- A turn ends once, whether its usage was told or not. -/
theorem Records.finished (r : Records u s events) (running : s.ended = false)
    (started : s.started = true) {outcome : Observation} (terminal : Terminal kind)
    (emits : Emits u kind (.observation outcome) s e t) :
    Admits events e ∧ Records u { t with ended := true, completion := none } (events ++ [e]) := by
  obtain ⟨told, payload, sequence, rfl⟩ := emits
  have ends : Terminal e.kind := told ▸ terminal
  obtain ⟨late, plain⟩ := ends.plain
  refine ⟨r.admits_plain running (.inr ends) sequence ?_ plain,
    r.advance rfl started (fun never => by cases never) (fun never => by cases never)
      (r.items.append (Nat.le_succ _) (by simp [subject, payload]))⟩
  rw [if_neg late]
  exact started

/-- Every frame continues the grammar. -/
theorem Moves.continues {report : Option Usage} {answer : Answer π}
    (moves : Moves u s report answer) (r : Records u s events) (ready : s.Open)
    (unrepeated : Unrepeated u) :
    Continues u events answer := by
  have begun (started : s.started = true) {kind : EventType} (late : kind ≠ .executionStarted) :
      if kind = .executionStarted then s.started = false else s.started = true := by
    rw [if_neg late]
    exact started
  have running := ready.running
  have undecided {e : Event} : s.completion = none ∨ Terminal e.kind := .inl ready.undecided
  cases moves with
  | refused => trivial
  | quiet client policyState pending lines | captured totals =>
    exact ⟨{ r with }, { ready with }⟩
  | @started e t outcome fresh emits =>
    obtain ⟨kind, payload, sequence, rfl⟩ := emits
    have none : subject e = none := by simp [subject, payload]
    refine ⟨r.admits_plain running undecided sequence (by rw [if_pos kind]; exact fresh)
      (by rw [kind]; decide),
      r.advance rfl rfl (fun running => ⟨running, ?_⟩) (fun _ undecided => ⟨undecided, ?_⟩)
        (r.items.append (Nat.le_succ _) none)⟩
    · simp [Terminal, kind]
    · simp [kind]
  | @opened name item started absent fresh message =>
    have unheard := r.items.unheard unrepeated fresh.drawn
    have linked : Linked (events ++ []) item := by
      refine Linked.fresh unheard fresh.first rfl (fun kind payload how => ?_) (by simp)
      cases how with
      | process process => rw [message] at process; cases process
      | tool never => exact absurd message never
    have items := r.items.update unrepeated (Nat.le_succ _) (by simp)
      (.inr ⟨absent, fresh.drawn, Nat.lt_succ_self _⟩) linked
    rw [← s.find_put name, List.append_nil] at items
    exact ⟨{ r with items }, { ready with }⟩
  | @introduced name item kind payload e t started absent fresh how emits =>
    obtain ⟨told, payload, sequence, rfl⟩ := emits
    obtain ⟨late, plain, open_, alive, used, mine⟩ := how.spec payload
    have unheard := r.items.unheard unrepeated fresh.drawn
    have linked : Linked (events ++ [e]) item := by
      refine Linked.fresh unheard fresh.first ?_ (fun other second also => ?_) ?_
      · have silent : e.kind ≠ .messageDelta := by
          intro same
          rw [told] at same
          exact plain (by simp [same])
        simp [deltas, about, silent]
      · simp [about, told, mine, how.unique also]
      · simpa [told] using open_
    have items := r.items.update unrepeated (Nat.le_add_right s.draws 2) (by simpa using mine)
      (.inr ⟨absent, fresh.drawn, by omega⟩) linked
    rw [← s.find_put name] at items
    exact ⟨r.admits_plain running undecided sequence (begun started (told ▸ late)) (told ▸ plain),
      r.advance rfl started (fun running => ⟨running, told ▸ alive⟩)
        (fun _ undecided => ⟨undecided, told ▸ used⟩) items⟩
  | @noted name item changed policyState started held undone id kind first last message =>
    have linked : Linked (events ++ []) changed := by
      rw [List.append_nil]
      exact (r.items.linked held).congr id kind first last fun _ => undone
    have items := r.items.update unrepeated (Nat.le_refl _) (by simp) (.inl ⟨item, held, id⟩) linked
    rw [← s.find_put name, List.append_nil] at items
    exact ⟨{ r with items }, { ready with }⟩
  | @delta name item changed text policyState _ e t put started held undone message id kind still
      first last emits =>
    obtain ⟨told, payload, sequence, rfl⟩ := emits
    have mine : subject e = some item.id := by simp [subject, payload]
    have before := r.items.linked held
    have linked : Linked (events ++ [e]) changed :=
      before.fragment message undone id kind (sequence ▸ first) (sequence ▸ last) told mine
        (by rw [sequence]; exact Nat.succ_ne_zero _)
    have items := r.items.update unrepeated (Nat.le_succ _) (by simpa [id] using mine)
      (.inl ⟨item, held, id⟩) linked
    rw [← s.find_put name, ← put] at items
    refine ⟨r.admits running undecided sequence (begun started (by rw [told]; decide)) ?_ ?_ ?_
        fun _ =>
      ⟨item.id, mine, before.unclosed undone (.inl rfl)⟩,
      r.advance rfl started (fun running => ⟨running, by simp [Terminal, told]⟩)
        (fun _ undecided => ⟨undecided, by simp [told]⟩) items⟩
    all_goals simp [told]
  | @output name item ref policyState e t started held undone process emits =>
    obtain ⟨told, payload, sequence, rfl⟩ := emits
    have mine : subject e = some item.id := by simp [subject, payload]
    have before := r.items.linked held
    have linked : Linked (events ++ [e]) item :=
      before.told rfl rfl rfl rfl (fun same => same) (fun _ => by simp [Closing, told])
        (by simp [told]) (by simp [told]) (by simp [told])
    have items := r.items.update unrepeated (Nat.le_succ _) (by simpa using mine)
      (.inl ⟨item, held, rfl⟩) linked
    have kept : Function.update s.find name (some item) = s.find := by
      rw [← held]
      exact Function.update_eq_self name s.find
    rw [kept] at items
    refine ⟨r.admits running undecided sequence (begun started (by rw [told]; decide)) (fun _ =>
      ⟨item.id, mine, before.introduced _ _ (.process process),
        before.unclosed undone (.inr (.inl rfl))⟩) ?_ ?_ ?_,
      r.advance rfl started (fun running => ⟨running, by simp [Terminal, told]⟩)
        (fun _ undecided => ⟨undecided, by simp [told]⟩) items⟩
    all_goals simp [told]
  | @closed name item changed kind payload e t emits started held undone id same first last done
      how =>
    obtain ⟨rfl, payload, sequence, rfl⟩ := emits
    obtain ⟨late, fragment, process, tool, alive, used, mine⟩ := how.spec payload
    have before := r.items.linked held
    have linked : Linked (events ++ [e]) changed :=
      before.told id same first last (fun _ => undone)
        (fun never => by rw [done] at never; cases never)
        fragment process tool
    have items := r.items.update unrepeated (Nat.le_succ _) (by simpa [id] using mine)
      (.inl ⟨item, held, id⟩) linked
    rw [← s.find_put name] at items
    exact ⟨r.admits_closing ready sequence started before undone payload how,
      r.advance rfl started (fun running => ⟨running, alive⟩) (fun _ undecided => ⟨undecided, used⟩)
        items⟩
  | usage started held emits =>
    obtain ⟨told, payload, sequence, rfl⟩ := emits
    refine ⟨r.admits_plain running undecided sequence (begun started (by rw [told]; decide))
      (by rw [told]; decide),
      r.advance rfl started (fun running => ⟨running, by simp [Terminal, told]⟩)
        (fun _ undecided => by cases undecided)
        (r.items.append (Nat.le_succ _) (by simp [subject, payload]))⟩
  | @finished kind outcome policyState e t started terminal emits =>
    have same : Records u { s with policyState } events := { r with }
    exact same.finished ready.running started terminal emits

end Run

/-! ### Whole runs -/

/-- The lines that were not read yet. -/
def Stream.unread {π : Type} (s : Stream π) : List Bytes := s.client.pending ++ s.client.lines

/-- The last totals that the lines report. -/
def lastReported (lines : List Bytes) : Option Usage := (lines.filterMap reported).getLast?

/-- The lines were read up to where the stream is, and it holds the last totals of them. -/
def Accounted {π : Type} (lines : List Bytes) (s : Stream π) : Prop :=
  ∃ consumed, lines = consumed ++ s.unread ∧ s.usage = lastReported consumed

/-- The event tells the last totals of the lines that were read. -/
def Told {π : Type} (lines : List Bytes) (s : Stream π) (e : Event) : Prop :=
  ∃ consumed totals, lines = consumed ++ s.unread ∧ lastReported consumed = some totals ∧
    e.payload = .usage totals

/-- What holds between two calls of `Next`. -/
structure Reading {π : Type} (u : Setup π) (lines : List Bytes) (s : Stream π)
    (events : List Event) : Prop where
  told : ∀ e ∈ events, e.kind = .usageObserved → Told lines s e
  records : s.failed = none → Records u s events
  accounted : s.failed = none → s.ended = false → s.completion = none → Accounted lines s
  failed : s.failed ≠ none → ∀ d ∈ events, ¬ Terminal d.kind
  begun : s.failed = none → s.completion ≠ none → s.started = true

section Calls
variable {π : Type} {u : Setup π} {s t : Stream π} {events : List Event} {lines : List Bytes}

theorem lastReported_append (lines : List Bytes) (raw : Bytes) :
    lastReported (lines ++ [raw]) = (reported raw).or (lastReported lines) := by
  rw [lastReported, List.filterMap_append]
  cases told : reported raw with
  | none => simp [told, lastReported]
  | some totals => simp [told]

/-- What a step that is not refused keeps, and the totals it holds after it. -/
def Keeps (s : Stream π) (report : Option Usage) : Answer π → Prop
  | (.error _, _) => True
  | (.ok event, t) => t.failed = s.failed ∧ t.unread = s.unread ∧ t.usage = report.or s.usage ∧
      (t.completion ≠ none → s.completion ≠ none ∨ t.started = true) ∧
      ∀ e, event = some e → e.kind = .usageObserved → t.usage.map Payload.usage = some e.payload

theorem Moves.keeps {report : Option Usage} {answer : Answer π} (moves : Moves u s report answer) :
    Keeps s report answer := by
  have other {e : Event} {kind : EventType} (told : e.kind = kind) (never : kind ≠ .usageObserved)
      {P : Event → Prop} : ∀ d, some e = some d → d.kind = .usageObserved → P d := by
    intro d same used
    cases same
    exact absurd (told.symm.trans used) never
  cases moves with
  | refused => trivial
  | quiet client policyState pending lines =>
    refine ⟨rfl, ?_, rfl, .inl, fun _ never => by cases never⟩
    rw [Stream.unread, Stream.unread, pending, lines]
  | captured totals | opened | noted => exact ⟨rfl, rfl, rfl, .inl, fun _ never => by cases never⟩
  | started fresh emits =>
    obtain ⟨kind, payload, sequence, rfl⟩ := emits
    exact ⟨rfl, rfl, rfl, .inl, other kind (by decide)⟩
  | introduced started absent fresh how emits =>
    obtain ⟨told, payload, sequence, rfl⟩ := emits
    exact ⟨rfl, rfl, rfl, .inl, other told (how.spec payload).2.2.2.2.1⟩
  | delta put started held undone message id kind still first last emits
  | output started held undone process emits =>
    obtain ⟨told, payload, sequence, rfl⟩ := emits
    exact ⟨rfl, rfl, rfl, .inl, other told (by decide)⟩
  | closed emits started held undone id same first last done how =>
    obtain ⟨told, payload, sequence, rfl⟩ := emits
    exact ⟨rfl, rfl, rfl, .inl, other told (how.spec payload).2.2.2.2.2.1⟩
  | usage started held emits =>
    obtain ⟨told, payload, sequence, rfl⟩ := emits
    refine ⟨rfl, rfl, rfl, fun _ => .inr started, fun e same _ => ?_⟩
    cases same
    simp [held, payload]
  | finished started terminal emits =>
    obtain ⟨told, payload, sequence, rfl⟩ := emits
    exact ⟨rfl, rfl, rfl, fun never => absurd rfl never, other told terminal.ne_usage⟩

theorem readEventFrame_unread {raw : Bytes} {client : Client}
    (read : readEventFrame true s.client = some (raw, client)) :
    s.unread = raw :: Stream.unread { s with client } := by
  unfold readEventFrame at read
  unfold Stream.unread
  split at read
  · rename_i none
    cases rest : s.client.lines with
    | nil => rw [rest] at read; cases read
    | cons line more =>
      rw [rest] at read
      simp only [Bool.toNat_true, readLine, readSlice] at read
      split at read
      · cases read
        simp [none]
      · cases read
  · rename_i first more pending
    cases read
    simp [pending]

/-- The answer of a call of `Next`, and what holds after it. -/
def Returns (u : Setup π) (lines : List Bytes) (events : List Event) : Outcome × Stream π → Prop
  | (.event e, t) => Admits events e ∧ Reading u lines t (events ++ [e])
  | (_, t) => Reading u lines t events

/-- While frames are taken no event has told the usage, so a failure says nothing of it. -/
theorem Records.fails (r : Records u s events) (ready : s.Open) (e : Error) (t : Stream π) :
    Returns u lines events (t.fail e) where
  told d found used := absurd used (r.unused ready.running ready.undecided d found)
  records never := by cases never
  accounted never := by cases never
  failed _ := r.live ready.running
  begun never := by cases never

theorem pull_returns (unrepeated : Unrepeated u) (frames : Nat) :
    ∀ s : Stream π, s.failed = none → Records u s events → s.Open → Accounted lines s →
      Returns u lines events (pull u frames s) := by
  induction frames with
  | zero => exact fun s _ r ready _ => r.fails ready _ s
  | succ frames ih =>
    intro s sound r ready accounted
    unfold pull
    split
    · exact r.fails ready _ s
    rename_i raw client read
    have unread := readEventFrame_unread read
    have same : Records u { s with client } events := { r with }
    have moves := normalize_moves (u := u) (s := { s with client }) raw
    have continues := moves.continues same ⟨ready.running, ready.undecided⟩ unrepeated
    have keeps := moves.keeps
    obtain ⟨consumed, split, totals⟩ := accounted
    -- the frame is read, whatever it says
    have consumes {t : Stream π} (rest : t.unread = Stream.unread { s with client })
        (usage : t.usage = (reported raw).or s.usage) : lines = (consumed ++ [raw]) ++ t.unread ∧
          t.usage = lastReported (consumed ++ [raw]) := by
      rw [lastReported_append, ← totals, rest, List.append_assoc, List.singleton_append, ← unread]
      exact ⟨split, usage⟩
    split
    · exact r.fails ready _ _
    · rename_i e t made
      rw [made] at continues keeps
      obtain ⟨kept, rest, usage, begun, told⟩ := keeps
      obtain ⟨admits, after⟩ := continues
      have read := consumes rest usage
      refine ⟨admits, ?_, fun _ => after, fun _ _ _ => ⟨_, read⟩, fun never => ?_,
        fun _ decided => ?_⟩
      · intro d found used
        rcases List.mem_append.mp found with earlier | later
        · exact absurd used (r.unused ready.running ready.undecided d earlier)
        · cases List.mem_singleton.mp later
          obtain ⟨value, held, payload⟩ := Option.map_eq_some_iff.mp (told e rfl used)
          exact ⟨_, value, read.1, read.2.symm.trans held, payload.symm⟩
      · exact absurd (kept.trans sound) never
      · exact (begun decided).resolve_left fun never => never ready.undecided
    · rename_i t made
      rw [made] at continues keeps
      obtain ⟨kept, rest, usage, -, -⟩ := keeps
      obtain ⟨after, still⟩ := continues
      have going : ¬ t.ended = true := by
        rw [still.running]
        decide
      rw [if_neg going]
      exact ih t (kept.trans sound) after still ⟨_, consumes rest usage⟩

/-- Every call of `Next` continues the grammar. -/
theorem next_returns (unrepeated : Unrepeated u) (before : Reading u lines s events) :
    Returns u lines events (next u s) := by
  unfold next
  split
  · exact before
  rename_i sound
  have r := before.records sound
  split
  · exact before
  rename_i running
  simp only [Bool.not_eq_true] at running
  split
  · rename_i outcome decided
    have started := before.begun sound (by rw [decided]; exact Option.some_ne_none _)
    have spec := finishTurn_cases u outcome s
    generalize finishTurn u outcome s = answer at spec ⊢
    rcases spec with ⟨e, t, rfl, same⟩ | ⟨kind, e, t, rfl, terminal, emits⟩
    · have unread : Stream.unread { t with failed := some e } = s.unread := by
        rw [Stream.unread, same, Stream.unread]
      refine ⟨fun d found used => ?_, fun never => (by cases never), fun never => (by cases never),
        fun _ => r.live running, fun never => (by cases never)⟩
      obtain ⟨consumed, totals, split, rest⟩ := before.told d found used
      exact ⟨consumed, totals, unread ▸ split, rest⟩
    · obtain ⟨admits, after⟩ := r.finished running started terminal emits
      obtain ⟨told, payload, sequence, rfl⟩ := emits
      refine ⟨admits, fun d found used => ?_, fun _ => after, fun _ never => (by cases never),
        fun never => absurd sound never, fun _ never => absurd rfl never⟩
      rcases List.mem_append.mp found with earlier | later
      · exact before.told d earlier used
      · rw [List.mem_singleton.mp later] at used
        exact absurd (told.symm.trans used) terminal.ne_usage
  · rename_i undecided
    exact pull_returns unrepeated _ s sound r ⟨running, undecided⟩
      (before.accounted sound running undecided)

theorem readEvents_reading (unrepeated : Unrepeated u) (calls : Nat) :
    ∀ (s : Stream π) (events : List Event), Reading u lines s events →
      (∀ before e after, (readEvents u calls s).1 = before ++ e :: after →
        Admits (events ++ before) e) ∧
      Reading u lines (readEvents u calls s).2 (events ++ (readEvents u calls s).1) := by
  induction calls with
  | zero =>
    intro s events reading
    refine ⟨fun before e after same => ?_, by rw [readEvents, List.append_nil]; exact reading⟩
    cases before <;> cases same
  | succ calls ih =>
    intro s events reading
    have returns := next_returns unrepeated reading
    unfold readEvents
    split
    · rename_i e t made
      rw [made] at returns
      obtain ⟨admits, after⟩ := returns
      obtain ⟨later, final⟩ := ih t _ after
      refine ⟨fun before d rest same => ?_, by simpa using final⟩
      cases before with
      | nil =>
        cases same
        simpa using admits
      | cons first more =>
        simp only [List.cons_append, List.cons.injEq] at same
        obtain ⟨rfl, same⟩ := same
        simpa using later more d rest same
    · rename_i outcome t quiet made
      have after : Reading u lines t events := by
        rw [made] at returns
        cases outcome with
        | event e => exact absurd rfl (quiet e)
        | eof => exact returns
        | error => exact returns
      exact ih t events after

end Calls

/-! ### Streams as they are opened -/

section Opened
variable {π : Type} {u : Setup π} {s : Stream π}

/-- A stream as `Events` returns it. -/
theorem openEvents_reading {handle : Handle} {operation : OperationIdentity}
    {capabilities : Capabilities} {limits : Limits} {policy : Option (EventPolicy π)}
    {policyState : π} {newID : Nat → Option ID} {sha256 : List Char → String} {c : Client}
    (opened : openEvents handle operation capabilities limits policy policyState newID sha256 c =
      .ok (u, s)) : u.newID = newID ∧ Reading u s.unread s [] := by
  unfold openEvents at opened
  split at opened
  · cases opened
  split at opened
  · cases opened
  split at opened
  · cases opened
  split at opened
  · cases opened
  split at opened
  · cases opened
  cases opened
  refine ⟨rfl, ?_, fun _ => ⟨rfl, by simp, ?_, ?_, ?_⟩, ?_, ?_, ?_⟩
  · exact fun _ never => by cases never
  · exact fun _ _ never => by cases never
  · exact fun _ _ _ never => by cases never
  · exact ⟨fun _ never => (by cases never), fun never => (by cases never),
      fun never => (by cases never), fun never => (by cases never)⟩
  · exact fun _ _ _ => ⟨[], rfl, rfl⟩
  · exact fun _ _ never => by cases never
  · exact fun _ never => absurd rfl never

end Opened

section Failed
variable {π : Type} {u : Setup π}

theorem readEvents_failed {s : Stream π} {e : Error} (failed : s.failed = some e) (calls : Nat) :
    readEvents u calls s = ([], s) := by
  have stuck : next u s = (.error e, s) := by rw [next, failed]
  induction calls with
  | zero => rfl
  | succ calls ih =>
    rw [readEvents, stuck]
    exact ih

/-- After a call that failed no call returns an event. -/
theorem readEvents_final {calls : Nat} :
    ∀ {s : Stream π} {e : Error}, (readEvents u calls s).2.failed = some e →
      ∀ more, (readEvents u (calls + more) s).1 = (readEvents u calls s).1 := by
  induction calls with
  | zero =>
    intro s e failed more
    have stays : readEvents u more s = ([], s) := readEvents_failed failed more
    rw [Nat.zero_add, stays, readEvents]
  | succ calls ih =>
    intro s e failed more
    rw [Nat.succ_add, readEvents, readEvents]
    rw [readEvents] at failed
    split
    · rename_i event t made
      rw [made] at failed
      rw [ih failed more]
    · rename_i outcome t quiet made
      have same : (readEvents u calls t).2.failed = some e := by
        rw [made] at failed
        cases outcome with
        | event e => exact absurd rfl (quiet e)
        | eof => exact failed
        | error => exact failed
      exact ih same more

end Failed

/-- What a run owes: `events` were returned, from the stream `s` to the stream `t`. -/
structure Grammatical {π : Type} (u : Setup π) (s t : Stream π) (events : List Event) : Prop where
  admits : ∀ before e after, events = before ++ e :: after → Admits before e
  ends : ∀ e ∈ events, Terminal e.kind → next u t = (.eof, t)
  usage : ∀ e ∈ events, e.kind = .usageObserved → Told s.unread t e

/-- Whatever the vendor writes and the policy answers, the events that `Next` returns follow
the grammar. -/
theorem event_stream_grammar {π : Type} {handle : Handle} {operation : OperationIdentity}
    {capabilities : Capabilities} {limits : Limits} {policy : Option (EventPolicy π)}
    {policyState : π} {newID : Nat → Option ID} {sha256 : List Char → String} {c : Client}
    {u : Setup π} {s : Stream π}
    (opened : openEvents handle operation capabilities limits policy policyState newID sha256 c =
      .ok (u, s))
    (unrepeated : ∀ i j id, newID i = some id → newID j = some id → i = j) (calls : Nat) :
    Grammatical u s (readEvents u calls s).2 (readEvents u calls s).1 := by
  obtain ⟨same, reading⟩ := openEvents_reading opened
  have fresh : Unrepeated u := by
    unfold Unrepeated
    rw [same]
    exact unrepeated
  obtain ⟨admits, final⟩ := readEvents_reading fresh calls s [] reading
  refine ⟨admits, fun e found terminal => ?_, final.told⟩
  have sound : (readEvents u calls s).2.failed = none := by
    by_contra failed
    exact final.failed failed e found terminal
  have ended : (readEvents u calls s).2.ended = true := by
    by_contra running
    exact (final.records sound).live (Bool.eq_false_of_not_eq_true running) e found terminal
  rw [next, sound]
  simp only [ended, if_true]

namespace Sample

/-- The totals of two messages. -/
def counts : Bytes :=
  bytesOf "\x7b\"inputTokens\":2,\"outputTokens\":1,\"totalTokens\":3," ++
    bytesOf "\"cachedInputTokens\":0,\"reasoningOutputTokens\":0\x7d"

/-- A turn that starts, reports its usage and completes. -/
def measured : List Bytes :=
  [bytesOf "\x7b\"method\":\"turn/started\",\"params\":\x7b\"threadId\":\"t\",\"turn\":" ++
      bytesOf "\x7b\"id\":\"u\",\"status\":\"inProgress\"\x7d\x7d\x7d\n",
    bytesOf "\x7b\"method\":\"thread/tokenUsage/updated\",\"params\":\x7b\"threadId\":\"t\"," ++
      bytesOf "\"turnId\":\"u\",\"tokenUsage\":\x7b\"total\":" ++ counts ++
      bytesOf ",\"last\":" ++ counts ++ bytesOf "\x7d\x7d\x7d\n",
    bytesOf "\x7b\"method\":\"turn/completed\",\"params\":\x7b\"threadId\":\"t\",\"turn\":" ++
      bytesOf "\x7b\"id\":\"u\",\"status\":\"completed\"\x7d\x7d\x7d\n"]

/-- A notification about the turn. -/
def told (method params : String) : Bytes :=
  bytesOf "\x7b\"method\":\"" ++ bytesOf method ++
    bytesOf "\",\"params\":\x7b\"threadId\":\"t\",\"turnId\":\"u\"," ++ bytesOf params ++
    bytesOf "\x7d\x7d\n"

/-- A notification about an item, with the name of its time stamp. -/
def itemTold (method members stamp : String) : Bytes :=
  bytesOf "\x7b\"method\":\"item/" ++ bytesOf method ++
    bytesOf "\",\"params\":\x7b\"threadId\":\"t\",\"turnId\":\"u\",\"item\":\x7b" ++
    bytesOf members ++ bytesOf "\x7d,\"" ++ bytesOf stamp ++ bytesOf "\":0\x7d\x7d\n"

/-- The same turn with a message of two fragments, a process with output and a search. -/
def worked : List Bytes :=
  measured.take 1 ++
  [itemTold "started" "\"id\":\"m\",\"type\":\"agentMessage\",\"text\":\"\"" "startedAtMs",
    told "item/agentMessage/delta" "\"itemId\":\"m\",\"delta\":\"h\"",
    told "item/agentMessage/delta" "\"itemId\":\"m\",\"delta\":\"i\"",
    itemTold "completed" "\"id\":\"m\",\"type\":\"agentMessage\",\"text\":\"hi\"" "completedAtMs",
    itemTold "started" "\"id\":\"p\",\"type\":\"commandExecution\",\"status\":\"inProgress\""
      "startedAtMs",
    told "item/commandExecution/outputDelta" "\"itemId\":\"p\",\"delta\":\"o\"",
    itemTold "completed" "\"id\":\"p\",\"type\":\"commandExecution\",\"status\":\"completed\""
      "completedAtMs",
    itemTold "started" "\"id\":\"w\",\"type\":\"webSearch\"" "startedAtMs",
    itemTold "completed" "\"id\":\"w\",\"type\":\"webSearch\"" "completedAtMs"] ++
  measured.drop 1

def turning (lines : List Bytes) : Client :=
  { Client.ready lines with threadID := "t", turnOperation := some (.v7 1), turnID := "u" }

def bound : Handle :=
  { ids := [.v7 1], adapterKind := "codex-app-server", generation := 1, attemptOrdinal := 1
    adapterBuildDigest := "sha256:" ++ String.ofList (List.replicate 64 'a')
    negotiationDigest := "sha256:" ++ String.ofList (List.replicate 64 'a')
    vendorSessionReference := "t" }

/-- Sixteen identifiers, then no more. -/
def draws (n : Nat) : Option ID := if n < 16 then some (.v7 n) else none

def capabilities : Capabilities :=
  [(some .structuredEvents, some .supported), (some .streaming, some .supported),
    (some .usageObservation, some .supported), (some .structuredProcessEvents, some .supported),
    (some .structuredToolEvents, some .supported)]

/-- The lines are read with the policy, by so many calls. A text is its own digest. -/
structure Unread (lines : List Bytes) (policy : EventPolicy Unit) (calls : Nat)
    (kinds : List EventType) (failure : Option Error) where
  u : Setup Unit
  s : Stream Unit
  opens : openEvents bound ⟨.v7 1, bound.negotiationDigest⟩ capabilities ⟨256, 1, 1⟩ (some policy)
    () draws String.ofList (turning lines) = .ok (u, s)
  unrepeated : ∀ i < 16, ∀ j < 16, draws i = draws j → i = j
  ran : (readEvents u calls s).1.map (·.kind) = kinds ∧ (readEvents u calls s).2.failed = failure

theorem Unread.distinct {lines : List Bytes} {policy : EventPolicy Unit} {calls : Nat}
    {kinds : List EventType} {failure : Option Error}
    (r : Unread lines policy calls kinds failure) :
    ∀ i j id, draws i = some id → draws j = some id → i = j := by
  intro i j id first second
  have bounded {n : Nat} (told : draws n = some id) : n < 16 := by
    by_contra beyond
    rw [draws, if_neg beyond] at told
    cases told
  exact r.unrepeated i (bounded first) j (bounded second) (first.trans second.symm)

/-- The setup and the stream that the calls return. -/
def begun (lines : List Bytes) (policy : EventPolicy Unit) : Setup Unit × Stream Unit :=
  ({ operation := .v7 1, capabilities, eventBytes := 256, policy := some policy, newID := draws
     sha256 := String.ofList },
   { client := { turning lines with eventsOpened := true }, id := .v7 0, policyState := ()
     sequence := 0, started := false, ended := false, failed := none, items := [], usage := none
     completion := none, draws := 1 })

theorem opens_begun (lines : List Bytes) (policy : EventPolicy Unit) :
    openEvents bound ⟨.v7 1, bound.negotiationDigest⟩ capabilities ⟨256, 1, 1⟩ (some policy) ()
      draws String.ofList (turning lines) = .ok (begun lines policy) := by
  have binding : eventBinding bound ⟨.v7 1, bound.negotiationDigest⟩ = true := by decide +kernel
  have required : capabilities.require [.structuredEvents, .streaming] = true := by decide
  unfold openEvents
  rw [binding, required]
  rfl

/-- A policy that shows messages and keeps the output of processes elsewhere. -/
def showing : EventPolicy Unit where
  messageText _ _ text := (some text, ())
  processOutput _ _ _ := (some "output", ())
  resultReference := none

/-- A policy whose reference is larger than an event may be, once it is escaped. -/
def referring : EventPolicy Unit :=
  { showing with
    resultReference := some fun _ _ _ => (some (String.ofList (List.replicate 43 '<')), ()) }

def finished : Unread worked showing 12
    [.executionStarted, .messageDelta, .messageDelta, .messageCompleted, .processStarted,
      .processOutput, .processCompleted, .toolStarted, .toolCompleted, .usageObserved,
      .executionCompletionObserved] none where
  u := (begun worked showing).1
  s := (begun worked showing).2
  opens := opens_begun ..
  unrepeated := by decide +kernel
  ran := by decide +kernel

def unfinished : Unread measured referring 3 [.executionStarted, .usageObserved]
    (some errStreamIntegrity) where
  u := (begun measured referring).1
  s := (begun measured referring).2
  opens := opens_begun ..
  unrepeated := finished.unrepeated
  ran := by decide +kernel

end Sample

open Sample

/-- The usage is told and no terminal event follows: the reference does not fit in it. -/
theorem usage_without_terminal :
    openEvents bound ⟨.v7 1, bound.negotiationDigest⟩ Sample.capabilities ⟨256, 1, 1⟩
        (some referring) () draws String.ofList (turning measured) =
      .ok (unfinished.u, unfinished.s) ∧
    ∀ more, (readEvents unfinished.u (3 + more) unfinished.s).1.map (·.kind) =
      [.executionStarted, .usageObserved] := by
  refine ⟨unfinished.opens, fun more => ?_⟩
  rw [readEvents_final unfinished.ran.2 more]
  exact unfinished.ran.1

theorem event_stream_grammar_sample :
    (∀ i j id, draws i = some id → draws j = some id → i = j) ∧
    (readEvents finished.u 12 finished.s).1.map (·.kind) =
      [.executionStarted, .messageDelta, .messageDelta, .messageCompleted, .processStarted,
        .processOutput, .processCompleted, .toolStarted, .toolCompleted, .usageObserved,
        .executionCompletionObserved] ∧
    Grammatical finished.u finished.s (readEvents finished.u 12 finished.s).2
      (readEvents finished.u 12 finished.s).1 :=
  ⟨finished.distinct, finished.ran.1, event_stream_grammar finished.opens finished.distinct 12⟩

end ThinkPixelAR.Codex
