import ThinkPixelAR.Adapters.Codex.Interrupt

/-!
Interrupting a turn while its events are read, for every schedule of the two readers:
no notification is lost, repeated or reordered, the frames kept stay bounded, one request
is written, and an interrupt that succeeds was acknowledged.
-/
namespace ThinkPixelAR.Codex

open Harness

variable {raw : Bytes} {lines : List Bytes} {marks : List Mark}

/-- The lines read from the pipe, in order. -/
def reads (log : List Mark) : List Bytes :=
  log.filterMap fun
    | .read raw => some raw
    | _ => none

/-- The frames handed to `normalize`, in order. -/
def handed (log : List Mark) : List Bytes :=
  log.filterMap fun
    | .handed raw => some raw
    | _ => none

/-- The line is an object with a member `id`. -/
def identified (raw : Bytes) : Bool :=
  (object (runes raw)).any fun f => (f.lookup "id").isSome

/-- The line is the response with identifier 4 and an empty result. -/
def Acknowledges (raw : Bytes) : Prop :=
  ∃ f, object (runes raw) = some f ∧ f.length = 2 ∧ textOf (f.lookup "id") = ['4'] ∧
    objectOf (f.lookup "result") = some []

/-- The response was taken after the attempt began, and the request is written. -/
def Answered (log : List Mark) : Prop :=
  (∃ raw, Acknowledges raw ∧ [.stored, .accepted raw].Sublist log) ∧ .written ∈ log

/-- What the call of `InterruptTurn` has done when it is in its phase. -/
def Progress (s : System) : Prop :=
  match s.phase with
  | .idle => s.log.count .written ≤ 1 ∧
      (s.client.interruptAttempted = false → s.log.count .written = 0) ∧
      (s.client.interruptAttempted = true → s.client.interruptErr = none → Answered s.log)
  | .attempted | .sent => s.client.interruptAttempted = true ∧ s.log.count .written = 0
  | .polling | .trying => s.client.interruptAttempted = true ∧ s.log.count .written = 1

/-- What every schedule keeps. -/
structure Interleaved (lines : List Bytes) (s : System) : Prop where
  vendor : reads s.log ++ s.client.lines = lines
  ordered : s.failed = false →
    (handed s.log).filter (!identified ·) ++ s.client.pending = (reads s.log).filter (!identified ·)
  anonymous : ∀ raw ∈ s.client.pending, identified raw = false
  bytes : s.client.pendingBytes = (s.client.pending.map List.length).sum
  frames : s.client.pending.length ≤ 32
  bounded : s.client.pendingBytes ≤ maxHandshakeBytes
  sent : s.client.interruptSent = true → .stored ∈ s.log
  acknowledged : s.client.interruptAcknowledged = true →
    ∃ raw, Acknowledges raw ∧ [.stored, .accepted raw].Sublist s.log
  requested : s.client.requested 4 = s.log.count .written
  progress : Progress s
  returned : ∀ before, (before ++ [.returned]) <+: s.log → Answered before

/-! ### The record grows at its end -/

section Record
variable {log before : List Mark}

@[simp] theorem reads_append : reads (log ++ marks) = reads log ++ reads marks :=
  List.filterMap_append

@[simp] theorem handed_append : handed (log ++ marks) = handed log ++ handed marks :=
  List.filterMap_append

theorem Answered.append (answered : Answered log) : Answered (log ++ marks) := by
  obtain ⟨⟨raw, response, taken⟩, written⟩ := answered
  exact ⟨⟨raw, response, taken.trans (List.sublist_append_left _ _)⟩,
    List.mem_append_left _ written⟩

/-- A call that had returned had returned before other marks were made. -/
theorem returned_before (other : .returned ∉ marks)
    (found : (before ++ [.returned]) <+: (log ++ marks)) : (before ++ [.returned]) <+: log := by
  induction marks using List.reverseRecOn with
  | nil => simpa using found
  | append_singleton marks mark ih =>
    have last : mark ≠ .returned := fun same => other (by simp [same])
    have rest : Mark.returned ∉ marks := fun inside => other (by simp [inside])
    rw [← List.append_assoc, List.prefix_concat_iff] at found
    rcases found with whole | earlier
    · have same := (List.append_inj' whole rfl).2
      exact absurd (List.singleton_inj.mp same).symm last
    · exact ih rest earlier

end Record

/-! ### What one read does -/

/-- A frame with an identifier is refused or it is the response. -/
theorem interruptResponse_cases {f : Fields} (parsed : object (runes raw) = some f) (c : Client) :
    (∃ e, interruptResponse f c = (.error e, c)) ∨
      (c.interruptSent = true ∧ c.interruptAcknowledged = false ∧ Acknowledges raw ∧
        interruptResponse f c = (.ok (), { c with interruptAcknowledged := true })) := by
  unfold interruptResponse
  split
  · exact .inl ⟨_, rfl⟩
  rename_i checked
  simp only [ne_eq, Bool.or_eq_true, Bool.not_eq_true', decide_eq_true_eq, not_or, not_not,
    Bool.not_eq_false, Bool.not_eq_true] at checked
  obtain ⟨⟨⟨sent, fresh⟩, two⟩, four⟩ := checked
  split
  · rename_i empty
    exact .inr ⟨sent, fresh, ⟨f, parsed, two, four, empty⟩, rfl⟩
  · exact .inl ⟨_, rfl⟩

theorem identified_eq {f : Fields} (parsed : object (runes raw) = some f) :
    identified raw = (f.lookup "id").isSome := by
  simp [identified, parsed]

theorem readLine_eq {readable : Bool} {rest : List Bytes}
    (read : readLine readable.toNat lines = some (raw, rest)) : lines = raw :: rest := by
  cases readable with
  | false => cases read
  | true =>
    change readSlice lines = some (raw, rest) at read
    cases lines with
    | nil => cases read
    | cons line more =>
      simp only [readSlice] at read
      split at read
      · cases read
        rfl
      · cases read

/-- What `InterruptTurn` does with a line. -/
inductive FrameRead (raw : Bytes) (c : Client) : Except Error Unit × Client → Prop
  | refused (e : Error) : FrameRead raw c (.error e, c)
  | accepted : Acknowledges raw → identified raw = true → c.interruptSent = true →
      c.interruptAcknowledged = false →
      FrameRead raw c (.ok (), { c with interruptAcknowledged := true })
  | kept : identified raw = false → c.pending.length < 32 →
      c.pendingBytes + raw.length ≤ maxHandshakeBytes →
      FrameRead raw c (.ok (), { c with
        pending := c.pending ++ [raw], pendingBytes := c.pendingBytes + raw.length })

theorem interruptFrame_reads (raw : Bytes) (c : Client) :
    FrameRead raw c (interruptFrame raw c) := by
  unfold interruptFrame
  split
  · exact .refused _
  split
  · exact .refused _
  rename_i f parsed
  have told := identified_eq parsed
  split
  · rename_i responds
    rcases interruptResponse_cases parsed c with ⟨e, same⟩ | ⟨sent, fresh, response, same⟩
    · rw [same]
      exact .refused e
    · rw [same]
      exact .accepted response (told.trans responds) sent fresh
  rename_i silent
  split
  · exact .refused _
  split
  · exact .refused _
  rename_i room
  simp only [Bool.or_eq_true, decide_eq_true_eq, not_or, Nat.not_le, Nat.not_lt] at room
  exact .kept (told.trans (Bool.eq_false_iff.mpr silent)) room.1 room.2

/-- `readInterruptFrame` and the marks it leaves. -/
inductive InterruptRead (c : Client) : Except Error Unit × Client → List Mark → Prop
  | already : InterruptRead c (.ok (), c) []
  | unreadable (e : Error) : InterruptRead c (.error e, c) []
  | refused {raw : Bytes} {lines : List Bytes} (e : Error) : c.lines = raw :: lines →
      InterruptRead c (.error e, { c with lines }) [.read raw]
  | accepted {raw : Bytes} {lines : List Bytes} : c.lines = raw :: lines → Acknowledges raw →
      identified raw = true → c.interruptSent = true →
      InterruptRead c (.ok (), { c with lines, interruptAcknowledged := true })
        [.read raw, .accepted raw]
  | kept {raw : Bytes} {lines : List Bytes} : c.lines = raw :: lines → identified raw = false →
      c.pending.length < 32 → c.pendingBytes + raw.length ≤ maxHandshakeBytes →
      InterruptRead c (.ok (), { c with
        lines, pending := c.pending ++ [raw], pendingBytes := c.pendingBytes + raw.length })
        [.read raw]

theorem readInterruptFrame_reads (readable : Bool) (c : Client) :
    InterruptRead c (readInterruptFrame readable c)
      (interruptMarks readable c (readInterruptFrame readable c).2) := by
  by_cases known : c.interruptAcknowledged = true
  · simp only [readInterruptFrame, interruptMarks, known, if_true]
    exact .already
  have fresh : c.interruptAcknowledged = false := by simpa using known
  cases read : readLine readable.toNat c.lines with
  | none =>
    simp only [readInterruptFrame, interruptMarks, known, read]
    exact .unreadable _
  | some line =>
  obtain ⟨raw, lines⟩ := line
  have first := readLine_eq read
  have called : readInterruptFrame readable c = interruptFrame raw { c with lines } := by
    simp [readInterruptFrame, known, read]
  have marked (after : Client) :
      interruptMarks readable c after = .read raw :: acceptance raw c after := by
    simp [interruptMarks, known, read]
  rw [called, marked]
  have spec := interruptFrame_reads raw { c with lines }
  generalize interruptFrame raw { c with lines } = result at spec ⊢
  cases spec with
  | refused e => simpa [acceptance, fresh] using InterruptRead.refused e first
  | accepted response told sent =>
    simpa [acceptance, fresh] using InterruptRead.accepted first response told sent
  | kept told room fits => simpa [acceptance, fresh] using InterruptRead.kept first told room fits

/-- How `normalize` takes a frame: refused, the response, or for the stream. -/
inductive Normalized (raw : Bytes) (c : Client) : Except Error Unit × Client → Prop
  | refused (e : Error) : Normalized raw c (.error e, c)
  | accepted : Acknowledges raw → c.interruptSent = true → c.interruptAcknowledged = false →
      Normalized raw c (.ok (), { c with interruptAcknowledged := true })
  | streamed : Normalized raw c (.ok (), c)

theorem normalizeResponse_normalizes (verdict : Option Error) (raw : Bytes) (c : Client) :
    Normalized raw c (normalizeResponse verdict raw c) := by
  unfold normalizeResponse
  split
  · exact .refused _
  split
  · exact .refused _
  rename_i f parsed
  split
  · rcases interruptResponse_cases parsed c with ⟨e, same⟩ | ⟨sent, fresh, response, same⟩
    · rw [same]
      exact .refused e
    · rw [same]
      exact .accepted response sent fresh
  split
  · exact .refused _
  · exact .streamed

/-! ### One step -/

section Step
variable {vendorLines : List Bytes} {s : System}

/-- A sublist of two marks, the first of which was made earlier. -/
theorem stored_accepted {log : List Mark} (stored : .stored ∈ log) (taken : .accepted raw ∈ marks) :
    [.stored, .accepted raw].Sublist (log ++ marks) :=
  (List.singleton_sublist.mpr stored).append (List.singleton_sublist.mpr taken)

theorem Progress.extend {t : System} (before : Progress s) (unwritten : .written ∉ marks)
    (logged : t.log = s.log ++ marks)
    (attempted : t.client.interruptAttempted = s.client.interruptAttempted)
    (err : t.client.interruptErr = s.client.interruptErr)
    (phase : t.phase = s.phase ∨ (s.phase = .trying ∧ t.phase = .polling)) : Progress t := by
  have count : t.log.count .written = s.log.count .written := by
    rw [logged, List.count_append, List.count_eq_zero.mpr unwritten, Nat.add_zero]
  unfold Progress at before ⊢
  rw [count, attempted, err]
  rcases phase with same | ⟨trying, polling⟩
  · rw [same]
    cases at_ : s.phase with
    | idle =>
      rw [at_] at before
      exact ⟨before.1, before.2.1, fun tried silent => logged ▸ (before.2.2 tried silent).append⟩
    | attempted | sent | polling | trying =>
      rw [at_] at before
      exact before
  · rw [polling]
    rw [trying] at before
    exact before

/-- The error is what makes the run fail. -/
theorem conclude_failed (e : Error) :
    s.conclude (some e) = System.conclude (some e) { s with failed := true } := by
  simp [System.conclude]

variable (before : Interleaved vendorLines s)
include before

/-- A step of either reader: lines move from the pipe to `pending` or to the stream. -/
theorem Interleaved.reader {pending : List Bytes} {pendingBytes : Nat} {ack : Bool} {phase : Phase}
    {streaming streamFailed failed : Bool} {frame : Option Bytes}
    (quiet : .returned ∉ marks) (unwritten : .written ∉ marks)
    (vendor : reads marks ++ lines = s.client.lines) (ordered : failed = false → s.failed = false ∧
      (handed marks).filter (!identified ·) ++ pending =
        s.client.pending ++ (reads marks).filter (!identified ·))
    (anonymous : ∀ raw ∈ pending, identified raw = false)
    (bytes : pendingBytes = (pending.map List.length).sum) (frames : pending.length ≤ 32)
    (bounded : pendingBytes ≤ maxHandshakeBytes)
    (acknowledged : ack = true → s.client.interruptAcknowledged = true ∨
      ∃ raw, Acknowledges raw ∧ .accepted raw ∈ marks ∧ s.client.interruptSent = true)
    (phases : phase = s.phase ∨ (s.phase = .trying ∧ phase = .polling)) :
    Interleaved vendorLines
      { s with
        client := { s.client with lines, pending, pendingBytes, interruptAcknowledged := ack }
        phase, streaming, frame, streamFailed, failed, log := s.log ++ marks } where
  vendor := by
    have whole := before.vendor
    simp only [reads_append, List.append_assoc, vendor]
    exact whole
  ordered whole := by
    obtain ⟨earlier, moved⟩ := ordered whole
    have kept := before.ordered earlier
    simp only [reads_append, handed_append, List.filter_append, List.append_assoc, moved]
    rw [← List.append_assoc, kept]
  anonymous := anonymous
  bytes := bytes
  frames := frames
  bounded := bounded
  sent stored := List.mem_append_left _ (before.sent stored)
  acknowledged known := by
    rcases acknowledged known with earlier | ⟨raw, response, taken, sent⟩
    · obtain ⟨raw, response, order⟩ := before.acknowledged earlier
      exact ⟨raw, response, order.trans (List.sublist_append_left _ _)⟩
    · exact ⟨raw, response, stored_accepted (before.sent sent) taken⟩
  requested := by
    have same := before.requested
    simp only [List.count_append, List.count_eq_zero.mpr unwritten, Nat.add_zero]
    exact same
  progress := before.progress.extend unwritten rfl rfl rfl phases
  returned earlier found := before.returned earlier (returned_before quiet found)

/-- `InterruptTurn` returns an error. -/
theorem Interleaved.conclude_error (e : Error) (attempted : s.client.interruptAttempted = true)
    (once : s.log.count .written ≤ 1) : Interleaved vendorLines (s.conclude (some e)) :=
  { before with
    ordered := fun whole => by simp [System.conclude] at whole
    progress := ⟨once, fun never => absurd attempted (by simpa [System.conclude] using never),
      fun _ silent => by cases silent⟩ }

/-- `InterruptTurn` returns nil, now or again. -/
theorem Interleaved.returns (answered : Answered s.log) (once : s.log.count .written ≤ 1)
    (attempted : s.client.interruptAttempted = true) {phase : Phase} (idle : phase = .idle)
    (interruptErr : Option Error) :
    Interleaved vendorLines { s with
      client := { s.client with interruptErr }, phase, log := s.log ++ [.returned] } :=
  { before with
    vendor := by simpa [reads] using before.vendor
    ordered := fun whole => by simpa [reads, handed] using before.ordered whole
    sent := fun stored => List.mem_append_left _ (before.sent stored)
    acknowledged := fun _ => by
      obtain ⟨raw, response, order⟩ := answered.1
      exact ⟨raw, response, order.trans (List.sublist_append_left _ _)⟩
    requested := by simpa [Client.requested] using before.requested
    progress := by
      subst idle
      refine ⟨by simpa using once, fun never => ?_, fun _ _ => answered.append⟩
      exact absurd attempted (by simpa using never)
    returned := fun earlier found => by
      rw [List.prefix_concat_iff] at found
      rcases found with whole | earlier'
      · obtain ⟨same, -⟩ := List.append_inj' whole rfl
        exact same ▸ answered
      · exact before.returned earlier earlier' }

/-- A call that returns an error and does nothing else. -/
theorem Interleaved.failing : Interleaved vendorLines { s with failed := true } :=
  { before with ordered := fun whole => by cases whole }

theorem Interleaved.call (expired : Bool) :
    Interleaved vendorLines (s.step (.call expired)) := by
  simp only [System.step]
  split
  · exact before
  rename_i free
  have idle : s.phase = .idle := by simpa using free
  have progress := before.progress
  simp only [Progress, idle] at progress
  obtain ⟨once, unwritten, answered⟩ := progress
  split
  · exact before.failing
  split
  · rename_i attempted
    split
    · rename_i silent
      exact before.returns (answered attempted silent) once attempted idle _
    · exact before.failing
  · rename_i fresh
    have fresh : s.client.interruptAttempted = false := by simpa using fresh
    split
    · exact before.failing
    · exact { before with progress := ⟨rfl, unwritten fresh⟩ }

theorem Interleaved.store : Interleaved vendorLines (s.step .store) := by
  simp only [System.step]
  split
  · exact before
  rename_i reached
  have phase : s.phase = .attempted := by simpa using reached
  have progress := before.progress
  simp only [Progress, phase] at progress
  exact { before with
    vendor := by simpa [reads] using before.vendor
    ordered := fun whole => by simpa [reads, handed] using before.ordered whole
    sent := fun _ => by simp
    acknowledged := fun known => by
      obtain ⟨raw, response, order⟩ := before.acknowledged known
      exact ⟨raw, response, order.trans (List.sublist_append_left _ _)⟩
    requested := by
      have same := before.requested
      simpa [Client.requested] using same
    progress := ⟨progress.1, by simpa using progress.2⟩
    returned := fun earlier found => before.returned earlier (returned_before (by simp) found) }

theorem Interleaved.write (succeeds : Bool) :
    Interleaved vendorLines (s.step (.write succeeds)) := by
  simp only [System.step]
  split
  · exact before
  rename_i reached
  have phase : s.phase = .sent := by simpa using reached
  have progress := before.progress
  simp only [Progress, phase] at progress
  split
  · exact before
  rename_i target _
  have count : (s.log ++ [Mark.written]).count .written = 1 := by
    simp [List.count_append, progress.2]
  have written : Interleaved vendorLines { s with
      client := { s.client with requests := s.client.requests ++ [interruptRequest target] }
      phase := .polling, log := s.log ++ [.written] } :=
    { before with
      vendor := by simpa [reads] using before.vendor
      ordered := fun whole => by simpa [reads, handed] using before.ordered whole
      sent := fun stored => List.mem_append_left _ (before.sent stored)
      acknowledged := fun known => by
        obtain ⟨raw, response, order⟩ := before.acknowledged known
        exact ⟨raw, response, order.trans (List.sublist_append_left _ _)⟩
      requested := by
        have same := before.requested
        simp only [Client.requested, List.countP_append, List.count_append] at same ⊢
        simpa [interruptRequest] using same
      progress := ⟨progress.1, count⟩
      returned := fun earlier found => before.returned earlier (returned_before (by simp) found) }
  split
  · exact written
  · exact written.conclude_error _ progress.1 count.le

theorem Interleaved.look (expired : Bool) :
    Interleaved vendorLines (s.step (.look expired)) := by
  simp only [System.step]
  split
  · exact before
  rename_i reached
  have phase : s.phase = .polling := by simpa using reached
  have progress := before.progress
  simp only [Progress, phase] at progress
  split
  · exact before.conclude_error _ progress.1 (by omega)
  split
  · rename_i known
    have written : Mark.written ∈ s.log := List.count_pos_iff.mp (by omega)
    simpa [System.conclude] using
      before.returns ⟨before.acknowledged known, written⟩ (by omega) progress.1 rfl none
  · exact { before with progress := progress }

/-- `InterruptTurn` reads a line, or finds the response acknowledged. -/
theorem Interleaved.tryRead (expired readable : Bool) :
    Interleaved vendorLines (s.step (.tryRead expired readable)) := by
  simp only [System.step]
  split
  · exact before
  rename_i reached
  have phase : s.phase = .trying := by simpa using reached
  have progress := before.progress
  simp only [Progress, phase] at progress
  have once : s.log.count .written ≤ 1 := progress.2.le
  split
  · split
    · exact before.conclude_error _ progress.1 once
    · exact { before with progress := progress }
  have polling : Interleaved vendorLines { s with phase := .polling } :=
    { before with progress := progress }
  have spec := readInterruptFrame_reads readable s.client
  generalize interruptMarks readable s.client (readInterruptFrame readable s.client).2 = marks
    at spec ⊢
  generalize readInterruptFrame readable s.client = result at spec ⊢
  cases spec with
  | already => simpa using polling
  | unreadable e => simpa using polling.conclude_error e progress.1 once
  | @refused raw lines e first =>
    -- the line is lost, which is why the run has failed from here on
    have lost : Interleaved vendorLines
        { s with
          client := { s.client with lines }, phase := .polling, failed := true
          log := s.log ++ [.read raw] } :=
      before.reader (by simp) (by simp) (by simp [reads, first]) (fun whole => by cases whole)
        before.anonymous before.bytes before.frames before.bounded .inl (.inr ⟨phase, rfl⟩)
    dsimp only
    rw [conclude_failed]
    exact lost.conclude_error e progress.1 (by simpa [List.count_append] using once)
  | @accepted raw lines first response told sent =>
    exact before.reader (by simp) (by simp) (by simp [reads, first])
      (fun whole => ⟨whole, by simp [reads, handed, told]⟩) before.anonymous before.bytes
      before.frames before.bounded (fun _ => .inr ⟨raw, response, by simp, sent⟩)
      (.inr ⟨phase, rfl⟩)
  | @kept raw lines first told room fits =>
    have anonymous : ∀ other ∈ s.client.pending ++ [raw], identified other = false := by
      intro other found
      rcases List.mem_append.mp found with old | new
      · exact before.anonymous other old
      · rw [List.mem_singleton.mp new]
        exact told
    exact before.reader (by simp) (by simp) (by simp [reads, first])
      (fun whole => ⟨whole, by simp [reads, handed, told]⟩) anonymous (by simp [before.bytes])
      (by simpa [Nat.succ_le_iff, Nat.lt_succ_iff] using Nat.le_of_lt_succ room) fits .inl
      (.inr ⟨phase, rfl⟩)

/-- `Next` takes a frame: the oldest that was kept, or else a line. -/
theorem Interleaved.take (readable : Bool) :
    Interleaved vendorLines (s.step (.take readable)) := by
  simp only [System.step]
  split
  · exact before
  cases kept : s.client.pending with
  | nil =>
    cases read : readLine readable.toNat s.client.lines with
    | none =>
      simp only [readEventFrame, kept, read, Option.map_none]
      exact { before.failing with }
    | some line =>
      obtain ⟨raw, lines⟩ := line
      have first := readLine_eq read
      simp only [readEventFrame, kept, read, Option.map_some, List.isEmpty_nil, if_true]
      have bytes := before.bytes
      rw [kept] at bytes
      exact before.reader (by simp) (by simp) (by simp [reads, first])
        (fun whole => ⟨whole, by simp [reads, handed, kept]⟩) (by simp) bytes (by simp)
        before.bounded .inl (.inl rfl)
  | cons raw pending =>
    simp only [readEventFrame, kept, List.isEmpty_cons]
    have told := before.anonymous raw (by simp [kept])
    have bytes := before.bytes
    have frames := before.frames
    have bounded := before.bounded
    simp only [kept, List.map_cons, List.sum_cons, List.length_cons] at bytes frames
    refine before.reader (by simp) (by simp) (by simp [reads])
      (fun whole => ⟨whole, by simp [reads, handed, kept, told]⟩) ?_ (by omega) (by omega)
      (by omega) .inl (.inl rfl)
    intro other found
    exact before.anonymous other (by simp [kept, found])

/-- `Next` normalizes the frame it holds. -/
theorem Interleaved.normalize (verdict : Option Error) :
    Interleaved vendorLines (s.step (.normalize verdict)) := by
  simp only [System.step]
  split
  · rename_i raw _ _
    generalize normalizeResponse verdict raw s.client = result,
      normalizeResponse_normalizes verdict raw s.client = normalized
    cases normalized with
    | refused e =>
      simpa [acceptance, System.fail] using ({ before.failing with } : Interleaved vendorLines
        { s with streaming := false, frame := none, streamFailed := true, failed := true })
    | accepted response sent fresh =>
      simp only [acceptance, fresh]
      exact before.reader (by simp) (by simp) (by simp [reads])
        (fun whole => ⟨whole, by simp [reads, handed]⟩) before.anonymous before.bytes
        before.frames before.bounded (fun _ => .inr ⟨raw, response, by simp, sent⟩) (.inl rfl)
    | streamed =>
      simpa [acceptance] using ({ before with } : Interleaved vendorLines { s with frame := none })
  · exact before

theorem Interleaved.step (action : Action) :
    Interleaved vendorLines (s.step action) := by
  cases action with
  | call expired => exact before.call expired
  | store => exact before.store
  | write succeeds => exact before.write succeeds
  | look expired => exact before.look expired
  | tryRead expired readable => exact before.tryRead expired readable
  | take readable => exact before.take readable
  | normalize verdict => exact before.normalize verdict
  | next =>
    simp only [System.step]
    split
    · exact before
    · exact { before with }
  | release expired =>
    simp only [System.step]
    split
    · exact before
    split
    · exact { before.failing with }
    · exact { before with }

end Step

theorem interleaved_start (target : Option (String × String)) (lines : List Bytes) :
    Interleaved lines (.start target lines) where
  vendor := rfl
  ordered _ := rfl
  anonymous raw found := by cases found
  bytes := rfl
  frames := Nat.zero_le _
  bounded := Nat.zero_le _
  sent stored := by cases stored
  acknowledged known := by cases known
  requested := rfl
  progress := ⟨Nat.zero_le _, fun _ => rfl, fun attempted => by cases attempted⟩
  returned earlier found := by simp [System.start] at found

theorem Interleaved.run {vendorLines : List Bytes} {s : System}
    (before : Interleaved vendorLines s) (schedule : List Action) :
    Interleaved vendorLines (s.run schedule) := by
  induction schedule generalizing s with
  | nil => exact before
  | cons action rest ih => exact ih (before.step action)

/-- What a schedule guarantees at any point: frames in vendor order, a bounded queue, a
response behind every success, and one request. -/
structure Orderly (lines : List Bytes) (s : System) : Prop where
  vendor : reads s.log ++ s.client.lines = lines
  ordered : s.failed = false →
    (handed s.log).filter (!identified ·) ++ s.client.pending = (reads s.log).filter (!identified ·)
  bytes : s.client.pendingBytes = (s.client.pending.map List.length).sum
  frames : s.client.pending.length ≤ 32
  bounded : s.client.pendingBytes ≤ maxHandshakeBytes
  acknowledged : ∀ before, (before ++ [.returned]) <+: s.log →
    (∃ raw, Acknowledges raw ∧ [.stored, .accepted raw].Sublist before) ∧ .written ∈ before
  once : s.client.requested 4 ≤ 1
  exactly : .returned ∈ s.log → s.client.requested 4 = 1

theorem Interleaved.once {s : System} (kept : Interleaved lines s) : s.client.requested 4 ≤ 1 := by
  have progress := kept.progress
  rw [kept.requested]
  unfold Progress at progress
  split at progress
  · exact progress.1
  all_goals omega

/-- For every vendor line sequence and every schedule of the two readers. -/
theorem interrupt_interleaving (target : Option (String × String)) (lines : List Bytes)
    (schedule : List Action) : Orderly lines ((System.start target lines).run schedule) := by
  have kept := (interleaved_start target lines).run schedule
  refine ⟨kept.vendor, kept.ordered, kept.bytes, kept.frames, kept.bounded, kept.returned,
    kept.once, fun returned => ?_⟩
  obtain ⟨before, after, split⟩ := List.append_of_mem returned
  have answered := kept.returned before ⟨after, by simp [split]⟩
  have written : 0 < ((System.start target lines).run schedule).log.count .written := by
    rw [List.count_pos_iff, split]
    exact List.mem_append_left _ answered.2
  have once := kept.once
  have counted := kept.requested
  omega

namespace Sample

/-- A response nobody asked for yet. -/
def unsolicited : Bytes := bytesOf "\x7b\"id\":4,\"result\":\x7b\x7d\x7d\n"

/-- `Next` holds the line while `InterruptTurn` stores its flag, takes it for the response,
and only then the request is written. -/
def early : List Action :=
  [.next, .take true, .call false, .store, .normalize none, .write true, .look false]

/-- A run of that schedule. -/
structure EarlyRun where
  system : System
  ran : system = (System.start (some ("", "")) [unsolicited]).run early
  succeeded : system.failed = false
  logged : system.log =
    [.read unsolicited, .handed unsolicited, .stored, .accepted unsolicited, .written, .returned]

def earlyRun : EarlyRun where
  system := (System.start (some ("", "")) [unsolicited]).run early
  ran := rfl
  succeeded := by decide +kernel
  logged := by decide +kernel

end Sample

/-- `InterruptTurn` returns nil although no line was read after the request was written,
nor after the attempt began. -/
theorem early_response_succeeds :
    Sample.earlyRun.system = (System.start (some ("", "")) [Sample.unsolicited]).run Sample.early ∧
    Sample.earlyRun.system.failed = false ∧ .returned ∈ Sample.earlyRun.system.log ∧
    ∀ raw, ¬ [.written, .read raw].Sublist Sample.earlyRun.system.log ∧
      ¬ [.stored, .read raw].Sublist Sample.earlyRun.system.log := by
  refine ⟨Sample.earlyRun.ran, Sample.earlyRun.succeeded, ?_, fun raw => ⟨?_, ?_⟩⟩
  · rw [Sample.earlyRun.logged]
    simp
  · rw [Sample.earlyRun.logged]
    simp [List.sublist_cons_iff]
  · rw [Sample.earlyRun.logged]
    simp [List.sublist_cons_iff]

end ThinkPixelAR.Codex
