import ThinkPixelAR.App.Capture

/-!
Line capture over every way of splitting a stream into writes. A write is the same as
feeding its bytes one at a time, so only the stream counts; the fed stream is then compared
with its lines.
-/
namespace ThinkPixelAR.App

open Handshake (Bytes)

/-! ### The lines of a stream -/

/-- The pieces between newlines; the last one is not terminated. -/
def linesOf (stream : Bytes) : List Bytes := stream.splitOn newline

/-- The lines before the first one that is too long. -/
def shortLines (maxDiagnostic : Nat) (stream : Bytes) : List Bytes :=
  (linesOf stream).takeWhile (·.length ≤ maxDiagnostic)

/-- Those lines, without the rest after the last newline if it is empty. -/
def capturedLines (maxDiagnostic : Nat) (stream : Bytes) : List Bytes :=
  if (shortLines maxDiagnostic stream).length = (linesOf stream).length ∧
      (linesOf stream).getLast? = some [] then (shortLines maxDiagnostic stream).dropLast
  else shortLines maxDiagnostic stream

namespace CaptureWriter

/-- Every emit succeeds. -/
def succeeds : Bytes → Option Error := fun _ => none

/-! ### One byte at a time -/

/-- A failed writer takes no more bytes. -/
def feed (maxDiagnostic : Nat) (w : CaptureWriter) (b : UInt8) : CaptureWriter :=
  if w.failure.isSome then w
  else if b = newline then { w with pending := [], emitted := w.emitted ++ [w.pending] }
  else if w.pending.length + 1 > maxDiagnostic then
    { w with pending := [], failure := some errOutputLimit }
  else { w with pending := w.pending ++ [b] }

variable {maxDiagnostic : Nat}

theorem feed_failed {w : CaptureWriter} (failed : w.failure.isSome) (raw : Bytes) :
    raw.foldl (feed maxDiagnostic) w = w := by
  induction raw with
  | nil => rfl
  | cons b rest ih =>
    rw [List.foldl_cons, feed, if_pos failed]
    exact ih

/-- Bytes of one line are pending, or the line is already too long. -/
theorem feed_line {w : CaptureWriter} (running : w.failure = none)
    (bound : w.pending.length ≤ maxDiagnostic) (line : Bytes) (open_ : ∀ b ∈ line, b ≠ newline) :
    line.foldl (feed maxDiagnostic) w =
      if w.pending.length + line.length > maxDiagnostic then
        { w with pending := [], failure := some errOutputLimit }
      else { w with pending := w.pending ++ line } := by
  induction line generalizing w with
  | nil => simp [Nat.not_lt.mpr bound]
  | cons b rest ih =>
    have other : b ≠ newline := open_ b List.mem_cons_self
    rw [List.foldl_cons, feed, if_neg (by simp [running]), if_neg other]
    by_cases long : w.pending.length + 1 > maxDiagnostic
    · rw [if_pos long, feed_failed rfl, if_pos]
      rw [List.length_cons]
      omega
    · have longer : (w.pending ++ [b]).length = w.pending.length + 1 := by simp
      have total : (w.pending ++ [b]).length + rest.length =
          w.pending.length + (b :: rest).length := by
        rw [longer, List.length_cons]
        omega
      have fed := ih (w := { w with pending := w.pending ++ [b] }) running
        (by simp only [longer]; omega) fun c member => open_ c (List.mem_cons_of_mem b member)
      rw [if_neg long, fed]
      simp only [total, List.append_assoc, List.singleton_append]

/-- The bytes before the first newline hold none. -/
theorem takeWhile_line (raw : Bytes) : ∀ b ∈ raw.takeWhile (· ≠ newline), b ≠ newline := by
  intro b member
  simpa using List.all_eq_true.mp List.all_takeWhile b member

theorem take_line (raw : Bytes) :
    raw.take (raw.takeWhile (· ≠ newline)).length = raw.takeWhile (· ≠ newline) :=
  List.prefix_iff_eq_take.mp (List.takeWhile_prefix _) |>.symm

/-- What follows those bytes begins with the newline. -/
theorem drop_line {raw rest : Bytes} {b : UInt8}
    (found : raw.drop (raw.takeWhile (· ≠ newline)).length = b :: rest) : b = newline := by
  induction raw with
  | nil => simp at found
  | cons c more ih =>
    by_cases same : c = newline
    · simp only [same, ne_eq, not_true_eq_false, decide_false, Bool.false_eq_true,
        not_false_eq_true, List.takeWhile_cons_of_neg, List.length_nil, List.drop_zero,
        List.cons.injEq] at found
      exact found.1.symm
    · rw [List.takeWhile_cons_of_pos (by simpa using same), List.length_cons,
        List.drop_succ_cons] at found
      exact ih found

/-- A write returns an error exactly when its bytes fail the writer. -/
structure Feeds (maxDiagnostic : Nat) (w : CaptureWriter) (raw : Bytes)
    (result : CaptureWriter × Option Error) : Prop where
  writer : result.1 = raw.foldl (feed maxDiagnostic) w
  error : result.2 = none ↔ result.1.failure = none
  bound : result.1.pending.length ≤ maxDiagnostic

/-- The loop of `Write` looks at a whole line of the write at once; it fails before the
line where the bytes fail within it. -/
theorem write_feeds (w : CaptureWriter) (raw : Bytes) (running : w.failure = none)
    (bound : w.pending.length ≤ maxDiagnostic) :
    Feeds maxDiagnostic w raw (w.write maxDiagnostic succeeds raw) := by
  fun_induction write maxDiagnostic succeeds w raw with
  | case1 w => exact ⟨rfl, by simp [running], bound⟩
  | case2 w raw nonempty n long =>
    have split := List.takeWhile_append_dropWhile (p := (· ≠ newline)) (l := raw)
    have fed := feed_line running bound _ (takeWhile_line raw)
    rw [if_pos long] at fed
    refine ⟨?_, by simp, Nat.zero_le _⟩
    rw [← split, List.foldl_append, fed, feed_failed rfl]
  | case3 w raw nonempty n short line ended =>
    have whole : raw.takeWhile (· ≠ newline) = raw := by
      rw [← take_line, List.take_of_length_le (List.drop_eq_nil_iff.mp ended)]
    have fed := feed_line running bound raw (whole ▸ takeWhile_line raw)
    have length : n = raw.length := congrArg List.length whole
    rw [if_neg (length ▸ short)] at fed
    refine ⟨?_, by simp [running], ?_⟩
    · simp only [line, length, List.take_length]
      exact fed.symm
    · simp only [line, length, List.take_length, List.length_append]
      omega
  | case4 w raw nonempty n short line head rest found next e failed => cases failed
  | case5 w raw nonempty n short line head rest found next _ ih =>
    have fed := feed_line running bound _ (takeWhile_line raw)
    rw [if_neg short] at fed
    have split : raw = raw.takeWhile (· ≠ newline) ++ newline :: rest := by
      have whole := List.take_append_drop n raw
      rw [found, drop_line found, take_line] at whole
      exact whole.symm
    have stepped : raw.foldl (feed maxDiagnostic) w = rest.foldl (feed maxDiagnostic) next := by
      conv_lhs => rw [split]
      rw [List.foldl_append, fed, List.foldl_cons, feed, if_neg (by simp [running]), if_pos rfl]
      simp only [next, line, n, take_line]
    have later := ih running (Nat.zero_le _)
    exact ⟨stepped ▸ later.writer, later.error, later.bound⟩

/-- Any sequence of writes feeds the whole stream. -/
theorem writes_feed (w : CaptureWriter) (chunks : List Bytes) (running : w.failure = none)
    (bound : w.pending.length ≤ maxDiagnostic) :
    w.writes maxDiagnostic succeeds chunks = chunks.flatten.foldl (feed maxDiagnostic) w := by
  induction chunks generalizing w with
  | nil => rfl
  | cons raw rest ih =>
    have feeds := write_feeds w raw running bound
    rw [writes, List.flatten_cons, List.foldl_append, ← feeds.writer]
    generalize w.write maxDiagnostic succeeds raw = result at feeds
    obtain ⟨next, error⟩ := result
    cases error with
    | none => exact ih next (feeds.error.mp rfl) feeds.bound
    | some e =>
      have failed : next.failure.isSome := by
        rw [Option.isSome_iff_ne_none]
        exact fun none => nomatch feeds.error.mpr none
      exact (feed_failed failed _).symm

/-! ### The fed stream and its lines -/

section Lines
variable {line : Bytes}

theorem linesOf_line (open_ : ∀ b ∈ line, b ≠ newline) : linesOf line = [line] :=
  List.splitOnP_eq_singleton fun b member => by simpa using open_ b member

theorem linesOf_append (open_ : ∀ b ∈ line, b ≠ newline) (rest : Bytes) :
    linesOf (line ++ newline :: rest) = line :: linesOf rest := by
  have split := List.splitOnP_append_cons (p := (· == newline)) line rest (beq_self_eq_true newline)
  rw [show List.splitOnP (· == newline) line = [line] from linesOf_line open_] at split
  exact split

theorem linesOf_ne_nil (stream : Bytes) : linesOf stream ≠ [] := List.splitOnP_ne_nil _ _

/-- The first line begins with the bytes before the first newline. -/
theorem linesOf_head (open_ : ∀ b ∈ line, b ≠ newline) (rest : Bytes) :
    ∃ more later, linesOf (line ++ rest) = (line ++ more) :: later := by
  have opens : ∀ b ∈ line ++ rest.takeWhile (· ≠ newline), b ≠ newline := by
    intro b member
    rcases List.mem_append.mp member with before | after
    · exact open_ b before
    · exact takeWhile_line rest b after
  have split := List.take_append_drop (rest.takeWhile (· ≠ newline)).length rest
  rw [take_line] at split
  cases found : rest.drop (rest.takeWhile (· ≠ newline)).length with
  | nil =>
    rw [found, List.append_nil] at split
    refine ⟨rest, [], ?_⟩
    rw [split] at opens
    exact linesOf_line opens
  | cons b later =>
    rw [found, drop_line found] at split
    refine ⟨rest.takeWhile (· ≠ newline), linesOf later, ?_⟩
    conv_lhs => rw [← split]
    rw [← List.append_assoc]
    exact linesOf_append opens later

theorem capturedLines_append (open_ : ∀ b ∈ line, b ≠ newline)
    (short : line.length ≤ maxDiagnostic) (rest : Bytes) :
    capturedLines maxDiagnostic (line ++ newline :: rest) =
      line :: capturedLines maxDiagnostic rest := by
  unfold capturedLines shortLines
  obtain ⟨first, later, lines⟩ := List.exists_cons_of_ne_nil (linesOf_ne_nil rest)
  rw [linesOf_append open_, List.takeWhile_cons_of_pos (by simpa using short)]
  simp only [List.length_cons, Nat.add_right_cancel_iff, lines, List.getLast?_cons_cons]
  split
  · rename_i all
    rw [List.dropLast_cons_of_ne_nil]
    exact List.ne_nil_of_length_eq_add_one all.1
  · rfl

theorem capturedLines_long (open_ : ∀ b ∈ line, b ≠ newline)
    (long : maxDiagnostic < line.length) (rest : Bytes) :
    capturedLines maxDiagnostic (line ++ rest) = [] := by
  obtain ⟨more, later, lines⟩ := linesOf_head open_ rest
  have first : ¬ (line ++ more).length ≤ maxDiagnostic := by
    rw [List.length_append]
    omega
  unfold capturedLines shortLines
  rw [lines, List.takeWhile_cons_of_neg (by simpa using first)]
  simp

theorem capturedLines_line (open_ : ∀ b ∈ line, b ≠ newline)
    (short : line.length ≤ maxDiagnostic) :
    capturedLines maxDiagnostic line = if line = [] then [] else [line] := by
  unfold capturedLines shortLines
  rw [linesOf_line open_, List.takeWhile_cons_of_pos (by simpa using short)]
  simp only [List.takeWhile_nil, List.getLast?_singleton, Option.some.injEq, true_and]
  split <;> simp

/-- Some line of the stream is too long. -/
def Overlong (maxDiagnostic : Nat) (stream : Bytes) : Prop :=
  ∃ line ∈ linesOf stream, maxDiagnostic < line.length

theorem overlong_append (open_ : ∀ b ∈ line, b ≠ newline) (short : line.length ≤ maxDiagnostic)
    (rest : Bytes) :
    Overlong maxDiagnostic (line ++ newline :: rest) ↔ Overlong maxDiagnostic rest := by
  unfold Overlong
  rw [linesOf_append open_, List.exists_mem_cons_iff]
  exact or_iff_right (Nat.not_lt.mpr short)

end Lines

/-- What the writer holds and what is still to come make up the lines left to capture. -/
theorem fed_lines (stream : Bytes) (w : CaptureWriter) (running : w.failure = none)
    (bound : w.pending.length ≤ maxDiagnostic) (open_ : ∀ b ∈ w.pending, b ≠ newline) :
    (stream.foldl (feed maxDiagnostic) w).finish.emitted =
        w.emitted ++ capturedLines maxDiagnostic (w.pending ++ stream) ∧
      ((stream.foldl (feed maxDiagnostic) w).finish.failure = some errOutputLimit ↔
        Overlong maxDiagnostic (w.pending ++ stream)) := by
  -- the pending bytes are the open line; each byte ends it, overflows it or joins it
  induction stream generalizing w with
  | nil =>
    have whole : ¬ Overlong maxDiagnostic w.pending := by
      rintro ⟨line, member, long⟩
      rw [linesOf_line open_, List.mem_singleton] at member
      subst member
      omega
    rw [List.foldl_nil, List.append_nil, capturedLines_line open_ bound]
    unfold finish
    split
    · simp [running, whole]
    · simp [running, whole]
  | cons b rest ih =>
    rw [List.foldl_cons, feed, if_neg (by simp [running])]
    by_cases ends : b = newline
    · subst ends
      rw [if_pos rfl, capturedLines_append open_ bound, overlong_append open_ bound]
      have later := ih { w with pending := [], emitted := w.emitted ++ [w.pending] } running
        (Nat.zero_le _) (by simp)
      simpa using later
    · have joined : ∀ c ∈ w.pending ++ [b], c ≠ newline := by
        intro c member
        rcases List.mem_append.mp member with before | last
        · exact open_ c before
        · rw [List.mem_singleton.mp last]
          exact ends
      have length : (w.pending ++ [b]).length = w.pending.length + 1 := by simp
      have regroup : w.pending ++ b :: rest = (w.pending ++ [b]) ++ rest := by simp
      rw [if_neg ends, regroup]
      by_cases long : w.pending.length + 1 > maxDiagnostic
      · obtain ⟨more, later, lines⟩ := linesOf_head joined rest
        have overlong : Overlong maxDiagnostic ((w.pending ++ [b]) ++ rest) := by
          refine ⟨(w.pending ++ [b]) ++ more, lines ▸ List.mem_cons_self, ?_⟩
          rw [List.length_append, length]
          omega
        rw [if_pos long, feed_failed rfl, capturedLines_long joined (by omega)]
        exact ⟨by simp [finish], iff_of_true rfl overlong⟩
      · rw [if_neg long]
        exact ih { w with pending := w.pending ++ [b] } running
          (by simp only [length]; omega) joined

end CaptureWriter

/-- However a stream is split into writes, the lines captured are those of the stream up to the
first one over the limit, and the writer fails exactly if there is one. -/
theorem line_capture (maxDiagnostic : Nat) (chunks : List Bytes) :
    (CaptureWriter.captures maxDiagnostic CaptureWriter.succeeds chunks).emitted =
        capturedLines maxDiagnostic chunks.flatten ∧
      ((CaptureWriter.captures maxDiagnostic CaptureWriter.succeeds chunks).failure =
          some errOutputLimit ↔
        ∃ line ∈ linesOf chunks.flatten, maxDiagnostic < line.length) := by
  unfold CaptureWriter.captures
  rw [CaptureWriter.writes_feed .new chunks rfl (Nat.zero_le _)]
  have fed := @CaptureWriter.fed_lines maxDiagnostic chunks.flatten .new rfl
    (Nat.zero_le _) (fun _ none => nomatch none)
  simpa [CaptureWriter.new, CaptureWriter.Overlong] using fed

example : capturedLines 2 [97, 10, 10, 98, 99, 10, 100] = [[97], [], [98, 99], [100]] ∧
    capturedLines 2 [97, 10, 98, 99, 100, 10, 101] = [[97]] := by
  decide

end ThinkPixelAR.App
