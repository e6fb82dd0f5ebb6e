import ThinkPixelAR.Adapters.Codex.Restore

/-!
Where a restored rollout is written, and what it holds. The path is made of digits,
fixed words and the thread's UUID; its year is the year of the timestamp in UTC, while
the bounds on the year are tested in the timestamp's own zone. The two differ by up to
a day around New Year, so the path has a four-digit year from 1970 on exactly if the
year in UTC is within the bounds, too.
-/
namespace ThinkPixelAR.Codex

open Calendar Harness

variable {width n : Nat} {x : Int} {line : Bytes} {kind cwd : String} {payload : Raw}
  {s : RestoreState} {stamp result : Stamp}

/-! ### Decimal fields -/

theorem fixedDigits_length (width n : Nat) : (fixedDigits width n).length = width := by
  induction width generalizing n with
  | zero => rfl
  | succ width ih => simp [fixedDigits, ih]

theorem digit_isDigit (n : Nat) : (digit n).isDigit = true := by
  have bound : n % 10 < 10 := Nat.mod_lt _ (by decide)
  unfold digit
  generalize n % 10 = k at bound
  revert k
  decide

theorem isDigit_of_mem_fixedDigits {c : Char} (member : c ∈ fixedDigits width n) :
    c.isDigit = true := by
  induction width generalizing n with
  | zero => cases member
  | succ width ih =>
    rcases List.mem_append.mp member with earlier | last
    · exact ih earlier
    · rw [List.mem_singleton.mp last]
      exact digit_isDigit n

/-- The number a sequence of digits writes. -/
def decimalValue (cs : List Char) : Nat := cs.foldl (fun n c => n * 10 + (c.toNat - 48)) 0

theorem digit_value (n : Nat) : (digit n).toNat - 48 = n % 10 := by
  have bound : n % 10 < 10 := Nat.mod_lt _ (by decide)
  unfold digit
  generalize n % 10 = k at bound
  revert k
  decide

theorem decimalValue_fixedDigits (width n : Nat) :
    decimalValue (fixedDigits width n) = n % 10 ^ width := by
  induction width generalizing n with
  | zero => simp [fixedDigits, decimalValue, Nat.mod_one]
  | succ width ih =>
    have split : decimalValue (fixedDigits (width + 1) n) =
        decimalValue (fixedDigits width (n / 10)) * 10 + ((digit n).toNat - 48) := by
      simp [fixedDigits, decimalValue, List.foldl_append]
    rw [split, ih, digit_value, Nat.pow_succ, Nat.mul_comm (10 ^ width) 10, Nat.mod_mul]
    omega

/-- A number that fits is written with exactly `width` digits. -/
theorem appendInt_eq (positive : 0 < width) (fits : n < 10 ^ width) :
    appendInt width n = fixedDigits width n := by
  have count : Nat.log 10 n + 1 ≤ width := by
    rcases Nat.eq_zero_or_pos n with rfl | some
    · simpa using Nat.succ_le_of_lt positive
    · exact Nat.log_lt_of_lt_pow (Nat.ne_of_gt some) fits
  simp [appendInt, Nat.max_eq_left count]

/-- Digits of a number that fits are written for no other number. -/
theorem appendInt_inj (fits : n < 10 ^ width) (same : appendInt width x = fixedDigits width n) :
    x = n := by
  unfold appendInt at same
  dsimp only at same
  split at same
  · have sign : '-' ∈ fixedDigits width n := same ▸ List.mem_cons_self
    exact absurd (isDigit_of_mem_fixedDigits sign) (by decide)
  · next nonneg =>
    have lengths := congrArg List.length same
    simp only [fixedDigits_length] at lengths
    have small : x.natAbs < 10 ^ width := by
      refine Nat.lt_pow_of_log_lt (by decide) ?_
      omega
    have values := congrArg decimalValue same
    rw [lengths, decimalValue_fixedDigits, decimalValue_fixedDigits, Nat.mod_eq_of_lt small,
      Nat.mod_eq_of_lt fits] at values
    omega

theorem appendInt_chars {c : Char} (member : c ∈ appendInt width x) :
    c.isDigit = true ∨ c = '-' := by
  unfold appendInt at member
  dsimp only at member
  split at member
  · rcases List.mem_cons.mp member with sign | later
    · exact .inr sign
    · exact .inl (isDigit_of_mem_fixedDigits later)
  · exact .inl (isDigit_of_mem_fixedDigits member)

/-- No field holds a separator. -/
theorem slash_not_mem_appendInt : '/' ∉ appendInt width x := by
  intro member
  rcases appendInt_chars member with digit | sign
  · exact absurd digit (by decide)
  · exact absurd sign (by decide)

/-- A field is a component of its own. -/
theorem appendInt_component :
    appendInt width x ≠ [] ∧ appendInt width x ≠ ['.'] ∧ appendInt width x ≠ ['.', '.'] := by
  have dot : '.' ∉ appendInt width x := by
    intro member
    rcases appendInt_chars member with digit | sign
    · exact absurd digit (by decide)
    · exact absurd sign (by decide)
  refine ⟨fun empty => ?_, fun same => dot (by simp [same]), fun same => dot (by simp [same])⟩
  have length := congrArg List.length empty
  unfold appendInt at length
  dsimp only at length
  split at length <;> simp [fixedDigits_length] at length

/-! ### The lines -/

/-- The line is an object with a type and a payload. -/
def RolloutLine (line : Bytes) (kind : String) (payload : Raw) : Prop :=
  ∃ row, object (runes line) = some row ∧ unmarshalString (row.lookup "type") = some kind ∧
    kind ≠ "" ∧ row.lookup "payload" = some payload

/-- Every line is a row, and exactly the first is the metadata of this thread, working
directory and version. -/
structure Recorded (s : RestoreState) (cwd : String) : Prop where
  rows : ∀ line ∈ s.lines, ∃ kind payload, RolloutLine line kind payload
  first : ∃ line rest payload header, s.lines = line :: rest ∧
    RolloutLine line "session_meta" payload ∧ object payload = some header ∧
    unmarshalString (header.lookup "id") = some s.threadID ∧
    unmarshalString (header.lookup "cwd") = some cwd ∧
    unmarshalString (header.lookup "cli_version") = some version
  others : ∀ line ∈ s.lines.tail, ∀ kind payload, RolloutLine line kind payload →
    kind ≠ "session_meta"

/-- The timestamp in the first line. -/
def RestoreState.timestamp (s : RestoreState) : Option Stamp := do
  let line ← s.lines.head?
  let row ← object (runes line)
  let payload ← row.lookup "payload"
  let header ← object payload
  let text ← unmarshalString (header.lookup "timestamp")
  parseRFC3339Nano text.toList

theorem rolloutRow_eq (found : rolloutRow line = some (kind, payload)) :
    RolloutLine line kind payload := by
  unfold rolloutRow at found
  split at found
  · cases found
  · simp only [Option.bind_eq_bind, Option.bind_eq_some_iff, pure] at found
    obtain ⟨row, object, name, type, rest⟩ := found
    split at rest
    · cases rest
    · next named =>
      simp only [Option.bind_eq_some_iff, Option.some.injEq, Prod.mk.injEq] at rest
      obtain ⟨_, present, rfl, rfl⟩ := rest
      exact ⟨row, object, type, named, present⟩

theorem RolloutLine.unique {kind' : String} {payload' : Raw} (one : RolloutLine line kind payload)
    (other : RolloutLine line kind' payload') : kind = kind' := by
  obtain ⟨row, object, type, -, -⟩ := one
  obtain ⟨row', object', type', -, -⟩ := other
  cases object.symm.trans object'
  exact Option.some.inj (type.symm.trans type')

/-- What the first line says, once accepted. -/
structure Header (s : RestoreState) (cwd kind : String) (payload : Raw) (stamp : Stamp) : Prop where
  kind : kind = "session_meta"
  fields : ∃ header text, object payload = some header ∧
    unmarshalString (header.lookup "id") = some s.threadID ∧
    unmarshalString (header.lookup "cwd") = some cwd ∧
    unmarshalString (header.lookup "cli_version") = some version ∧
    unmarshalString (header.lookup "timestamp") = some text ∧
    parseRFC3339Nano text.toList = some stamp

theorem sessionMeta_eq (accepted : sessionMeta s cwd kind payload = some stamp) :
    Header s cwd kind payload stamp := by
  unfold sessionMeta at accepted
  simp only [Option.bind_eq_bind, Option.bind_eq_some_iff, pure] at accepted
  obtain ⟨header, object, id, identified, directory, placed, cli, versioned, text, stamped, rest⟩ :=
    accepted
  split at rest
  · cases rest
  · next agrees =>
    simp only [not_or, ne_eq, not_not] at agrees
    obtain ⟨meta_, rfl, rfl, rfl⟩ := agrees
    simp only [Option.bind_eq_some_iff] at rest
    obtain ⟨found, parsed, rest⟩ := rest
    split at rest
    · cases rest
    · cases rest
      exact ⟨meta_, header, text, object, identified, placed, versioned, stamped, parsed⟩

/-- After the first line the loop only looks for a second header. -/
theorem scanRollout_rest :
    ∀ {lines : List Bytes}, scanRollout s cwd false stamp lines = .ok result →
      result = stamp ∧
        ∀ line ∈ lines, ∃ kind payload, RolloutLine line kind payload ∧ kind ≠ "session_meta"
  | [], scanned => by
    cases scanned
    exact ⟨rfl, fun _ none => by cases none⟩
  | line :: rest, scanned => by
    unfold scanRollout at scanned
    split at scanned
    · cases scanned
    · next kind payload found =>
      simp only [Bool.false_eq_true, if_false] at scanned
      split at scanned
      · cases scanned
      · next other =>
        obtain ⟨same, rows⟩ := scanRollout_rest scanned
        refine ⟨same, fun l member => ?_⟩
        rcases List.mem_cons.mp member with rfl | later
        · exact ⟨kind, payload, rolloutRow_eq found, other⟩
        · exact rows l later

theorem scanRollout_first {rest : List Bytes}
    (scanned : scanRollout s cwd true stamp (line :: rest) = .ok result) :
    (∃ kind payload, RolloutLine line kind payload ∧ Header s cwd kind payload result) ∧
      ∀ l ∈ rest, ∃ kind payload, RolloutLine l kind payload ∧ kind ≠ "session_meta" := by
  unfold scanRollout at scanned
  split at scanned
  · cases scanned
  · next kind payload found =>
    simp only [if_true] at scanned
    split at scanned
    · cases scanned
    · next first accepted =>
      obtain ⟨rfl, rows⟩ := scanRollout_rest scanned
      exact ⟨⟨kind, payload, rolloutRow_eq found, sessionMeta_eq accepted⟩, rows⟩

theorem recorded_of_scan (scanned : scanRollout s cwd true stamp s.lines = .ok result) :
    Recorded s cwd ∧ s.timestamp = some result := by
  have filled : s.lines ≠ [] := List.splitOn_ne_nil _ _
  obtain ⟨line, rest, lines⟩ := List.exists_cons_of_ne_nil filled
  rw [lines] at scanned
  obtain ⟨⟨kind, payload, row, header⟩, rows⟩ := scanRollout_first scanned
  obtain ⟨rfl, fields, text, object_, identified, placed, versioned, stamped, parsed⟩ := header
  refine ⟨⟨?_, ?_, ?_⟩, ?_⟩
  · intro l member
    rw [lines] at member
    rcases List.mem_cons.mp member with rfl | later
    · exact ⟨_, payload, row⟩
    · obtain ⟨kind, payload, found, -⟩ := rows l later
      exact ⟨kind, payload, found⟩
  · exact ⟨line, rest, payload, fields, lines, row, object_, identified, placed, versioned⟩
  · intro l member kind payload found
    rw [lines] at member
    obtain ⟨kind', payload', found', other⟩ := rows l member
    exact found.unique found' ▸ other
  · obtain ⟨members, outer, -, -, present⟩ := row
    simp [RestoreState.timestamp, lines, outer, present, object_, stamped, parsed]

/-! ### The path -/

/-- `sessions/YYYY/MM/DD/rollout-YYYY-MM-DDTHH-MM-SS-<ThreadID>.jsonl` with the given
fields. -/
def rolloutPath (threadID : String) (year month day hour minute second : List Char) : List Char :=
  "sessions/".toList ++ (year ++ '/' :: month ++ '/' :: day) ++ "/rollout-".toList ++
    (year ++ '-' :: month ++ '-' :: day ++ 'T' :: hour ++ '-' :: minute ++ '-' :: second) ++
    '-' :: threadID.toList ++ ".jsonl".toList

/-- The path is that of a moment of the years 1970 to 9999. -/
def Destined (threadID : String) (path : List Char) : Prop :=
  ∃ year month day hour minute second : Nat, (1970 ≤ year ∧ year ≤ 9999) ∧
    (1 ≤ month ∧ month ≤ 12) ∧ (1 ≤ day ∧ day ≤ 31) ∧ hour < 24 ∧ minute < 60 ∧ second < 60 ∧
    path = rolloutPath threadID (fixedDigits 4 year) (fixedDigits 2 month) (fixedDigits 2 day)
      (fixedDigits 2 hour) (fixedDigits 2 minute) (fixedDigits 2 second)

/-- No component of the path is empty, `.` or `..`. -/
def Contained (path : List Char) : Prop :=
  ∀ component ∈ path.splitOn '/', component ≠ [] ∧ component ≠ ['.'] ∧ component ≠ ['.', '.']

/-- The path as `RestorePath` writes it. -/
theorem restorePath_eq {sha256 : Bytes → String} {path : List Char}
    (accepted : restorePath sha256 s cwd = .ok path) :
    validThreadID s.threadID = true ∧ ∃ stamp, scanRollout s cwd true .zero s.lines = .ok stamp ∧
      path = rolloutPath s.threadID (appendInt 4 stamp.utc.date.year)
        (appendInt 2 stamp.utc.date.month) (appendInt 2 stamp.utc.date.day)
        (appendInt 2 stamp.utc.hour.val) (appendInt 2 stamp.utc.minute.val)
        (appendInt 2 stamp.utc.second.val) := by
  unfold restorePath at accepted
  split at accepted
  · cases accepted
  · next fields =>
    split at accepted
    · cases accepted
    · split at accepted
      · cases accepted
      · next stamp scanned =>
        have written := Except.ok.inj accepted
        have valid : validThreadID s.threadID = true := by
          cases known : validThreadID s.threadID with
          | true => rfl
          | false => simp only [known, Bool.not_false, Bool.true_or, not_true_eq_false] at fields
        exact ⟨valid, stamp, scanned, written.symm⟩

/-- Fields before the first separator are determined by the path. -/
theorem before_slash {a b r t : List Char} (ha : '/' ∉ a) (hb : '/' ∉ b)
    (same : a ++ '/' :: r = b ++ '/' :: t) : a = b := by
  have split := congrArg (List.splitOn '/') same
  rw [List.splitOn_append_cons_self_of_not_mem ha,
    List.splitOn_append_cons_self_of_not_mem hb] at split
  exact (List.cons.inj split).1

theorem slash_not_mem_fixedDigits : '/' ∉ fixedDigits width n :=
  fun member => absurd (isDigit_of_mem_fixedDigits member) (by decide)

theorem slash_not_mem_threadID {id : String} (valid : validThreadID id = true) :
    '/' ∉ id.toList := by
  have chars : ∀ (cs : List Char) (i : Nat), threadIDChars i cs = true → '/' ∉ cs := by
    intro cs
    induction cs with
    | nil => exact fun _ _ none => by cases none
    | cons c rest ih =>
      intro i accepted member
      simp only [threadIDChars, Bool.and_eq_true] at accepted
      rcases List.mem_cons.mp member with rfl | later
      · have refused := accepted.1
        split at refused <;> revert refused <;> decide
      · exact ih (i + 1) accepted.2 later
  unfold validThreadID at valid
  rw [Bool.and_eq_true] at valid
  exact chars _ 0 valid.2

theorem regroup (a b c d y m n name : List Char) :
    a ++ ['/'] ++ (y ++ '/' :: m ++ '/' :: n) ++ '/' :: b ++ name ++ '-' :: c ++ d =
      a ++ '/' :: (y ++ '/' :: (m ++ '/' :: (n ++ '/' :: (b ++ name ++ '-' :: c ++ d)))) := by
  simp

/-- The path by its components. -/
theorem rolloutPath_eq (threadID : String) (year month day hour minute second : List Char) :
    rolloutPath threadID year month day hour minute second =
      "sessions".toList ++ '/' :: (year ++ '/' :: (month ++ '/' :: (day ++ '/' ::
        ("rollout-".toList ++ (year ++ '-' :: month ++ '-' :: day ++ 'T' :: hour ++ '-' :: minute ++
          '-' :: second) ++ '-' :: threadID.toList ++ ".jsonl".toList)))) := by
  have sessions : "sessions/".toList = "sessions".toList ++ ['/'] := by simp
  have rollout : "/rollout-".toList = '/' :: "rollout-".toList := by simp
  unfold rolloutPath
  rw [sessions, rollout]
  exact regroup _ _ _ _ _ _ _ _

theorem rolloutPath_contained {threadID : String} (valid : validThreadID threadID = true)
    (year month day hour minute second : Int) :
    Contained (rolloutPath threadID (appendInt 4 year) (appendInt 2 month) (appendInt 2 day)
      (appendInt 2 hour) (appendInt 2 minute) (appendInt 2 second)) := by
  have sessions : '/' ∉ "sessions".toList := by simp
  have identity := slash_not_mem_threadID valid
  unfold Contained
  rw [rolloutPath_eq, List.splitOn_append_cons_self_of_not_mem sessions,
    List.splitOn_append_cons_self_of_not_mem slash_not_mem_appendInt,
    List.splitOn_append_cons_self_of_not_mem slash_not_mem_appendInt,
    List.splitOn_append_cons_self_of_not_mem slash_not_mem_appendInt,
    List.splitOn_eq_singleton]
  · intro component member
    simp only [List.mem_cons, List.not_mem_nil, or_false] at member
    rcases member with rfl | rfl | rfl | rfl | rfl
    · simp
    · exact appendInt_component
    · exact appendInt_component
    · exact appendInt_component
    · simp
  · simp only [List.mem_append, List.mem_cons, not_or]
    simp [identity, slash_not_mem_appendInt]

/-- The year of a path among those of 1970 to 9999. -/
theorem Destined.year {threadID : String} {year : Int} {month day hour minute second : List Char}
    (destined : Destined threadID
      (rolloutPath threadID (appendInt 4 year) month day hour minute second)) :
    1970 ≤ year ∧ year ≤ 9999 := by
  obtain ⟨written, _, _, _, _, _, ⟨lower, upper⟩, -, -, -, -, -, same⟩ := destined
  rw [rolloutPath_eq, rolloutPath_eq] at same
  have fields := (List.cons.inj (List.append_cancel_left same)).2
  have first := before_slash slash_not_mem_appendInt slash_not_mem_fixedDigits fields
  have equal := appendInt_inj (by omega) first
  omega

/-- For an accepted rollout, the year in UTC decides whether the path is one of the years
1970 to 9999. Everything else holds in any case. -/
theorem restored_destination_iff {sha256 : Bytes → String} {s : RestoreState} {cwd : String}
    {path : List Char} (accepted : restorePath sha256 s cwd = .ok path) :
    (Destined s.threadID path ∧ Contained path ∧ Recorded s cwd) ↔
      ∃ stamp, s.timestamp = some stamp ∧
        1970 ≤ stamp.utc.date.year ∧ stamp.utc.date.year ≤ 9999 := by
  obtain ⟨valid, stamp, scanned, rfl⟩ := restorePath_eq accepted
  obtain ⟨recorded, stamped⟩ := recorded_of_scan scanned
  constructor
  · rintro ⟨destined, -, -⟩
    exact ⟨stamp, stamped, destined.year⟩
  · rintro ⟨other, read, lower, upper⟩
    cases stamped.symm.trans read
    refine ⟨?_, rolloutPath_contained valid _ _ _ _ _ _, recorded⟩
    have year : stamp.utc.date.year = (stamp.utc.date.year.toNat : Int) := by omega
    have day := stamp.utc.date.day_le_31
    have month := stamp.utc.date.month_le
    refine ⟨stamp.utc.date.year.toNat, stamp.utc.date.month, stamp.utc.date.day, stamp.utc.hour,
      stamp.utc.minute, stamp.utc.second, by omega, ⟨stamp.utc.date.month_pos, month⟩,
      ⟨stamp.utc.date.day_pos, day⟩, stamp.utc.hour.isLt, stamp.utc.minute.isLt,
      stamp.utc.second.isLt, ?_⟩
    rw [← appendInt_eq (by decide) (show stamp.utc.date.year.toNat < 10 ^ 4 by omega), ← year,
      appendInt_eq (by decide) (show stamp.utc.date.month < 10 ^ 2 by omega),
      appendInt_eq (by decide) (show stamp.utc.date.day < 10 ^ 2 by omega),
      appendInt_eq (by decide) (show stamp.utc.hour.val < 10 ^ 2 by omega),
      appendInt_eq (by decide) (show stamp.utc.minute.val < 10 ^ 2 by omega),
      appendInt_eq (by decide) (show stamp.utc.second.val < 10 ^ 2 by omega)]

namespace Sample

def threadID : String := "00000000-0000-0000-0000-000000000000"

/-- A rollout of one line. -/
def rollout (timestamp : String) : Bytes :=
  bytesOf "\x7b\"type\":\"session_meta\",\"payload\":\x7b\"id\":" ++
    bytesOf "\"00000000-0000-0000-0000-000000000000\",\"cwd\":\"/\",\"cli_version\":" ++
    bytesOf "\"0.155.0\",\"timestamp\":\"" ++ bytesOf timestamp ++ bytesOf "\"\x7d\x7d\n"

def state (timestamp : String) : RestoreState :=
  { threadID, protocol := version, sha256 := "", rollout := rollout timestamp }

/-- An accepted rollout and its path. -/
structure Restored where
  state : RestoreState
  path : List Char
  accepted : restorePath (fun _ => "") state "/" = .ok path

def leapDay : Restored where
  state := state "2024-02-29T23:30:00-01:00"
  path := rolloutPath threadID (appendInt 4 2024) (appendInt 2 3) (appendInt 2 1) (appendInt 2 0)
    (appendInt 2 30) (appendInt 2 0)
  accepted := by decide +kernel

/-- The last second of 9999, an hour west of Greenwich. -/
def west : Restored where
  state := state "9999-12-31T23:59:59-01:00"
  path := rolloutPath threadID (appendInt 4 10000) (appendInt 2 1) (appendInt 2 1) (appendInt 2 0)
    (appendInt 2 59) (appendInt 2 59)
  accepted := by decide +kernel

theorem leapDay_year : leapDay.state.timestamp.any (fun stamp =>
    1970 ≤ stamp.utc.date.year && stamp.utc.date.year ≤ 9999) = true := by
  decide +kernel

end Sample

theorem restored_destination_leapDay :
    restorePath (fun _ => "") Sample.leapDay.state "/" = .ok Sample.leapDay.path ∧
      Destined Sample.leapDay.state.threadID Sample.leapDay.path ∧ Contained Sample.leapDay.path ∧
      Recorded Sample.leapDay.state "/" := by
  refine ⟨Sample.leapDay.accepted, (restored_destination_iff Sample.leapDay.accepted).mpr ?_⟩
  obtain ⟨stamp, read, year⟩ := (Option.any_eq_true _ _).mp Sample.leapDay_year
  rw [Bool.and_eq_true, decide_eq_true_eq, decide_eq_true_eq] at year
  exact ⟨stamp, read, year⟩

/-- The path of the accepted rollout has a five-digit year. -/
theorem west_not_destined :
    restorePath (fun _ => "") Sample.west.state "/" = .ok Sample.west.path ∧
      ¬ Destined Sample.west.state.threadID Sample.west.path :=
  ⟨Sample.west.accepted, fun destined => absurd (Destined.year destined).2 (by decide)⟩

end ThinkPixelAR.Codex
