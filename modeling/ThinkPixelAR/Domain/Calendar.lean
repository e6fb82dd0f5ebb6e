import Mathlib.Data.Nat.Log

/-!
Civil time as the `time` package reads and writes it: dates of the proleptic Gregorian
calendar, RFC 3339 texts with their zone offset, and decimal fields of a fixed width.
-/
namespace ThinkPixelAR.Calendar

/-! ### Dates -/

def isLeap (year : Int) : Bool := year % 4 = 0 && (year % 100 ≠ 0 || year % 400 = 0)

def daysIn (month : Nat) (year : Int) : Nat :=
  match month with
  | 2 => if isLeap year then 29 else 28
  | 4 | 6 | 9 | 11 => 30
  | _ => 31

theorem daysIn_pos (month : Nat) (year : Int) : 1 ≤ daysIn month year := by
  unfold daysIn
  split <;> try split
  all_goals decide

theorem daysIn_le (month : Nat) (year : Int) : daysIn month year ≤ 31 := by
  unfold daysIn
  split <;> try split
  all_goals decide

/-- A day that exists. -/
structure Date where
  year : Int
  month : Nat
  day : Nat
  month_pos : 1 ≤ month
  month_le : month ≤ 12
  day_pos : 1 ≤ day
  day_le : day ≤ daysIn month year

namespace Date

/-- The day after. -/
def next (d : Date) : Date :=
  if more : d.day < daysIn d.month d.year then
    { d with day := d.day + 1, day_pos := Nat.succ_pos _, day_le := more }
  else if later : d.month < 12 then
    { d with
      month := d.month + 1, day := 1, month_pos := Nat.succ_pos _, month_le := later
      day_pos := le_refl _, day_le := daysIn_pos _ _ }
  else
    { year := d.year + 1, month := 1, day := 1, month_pos := le_refl _, month_le := by decide
      day_pos := le_refl _, day_le := daysIn_pos _ _ }

/-- The day before. -/
def prev (d : Date) : Date :=
  if more : 1 < d.day then
    { d with
      day := d.day - 1, day_pos := Nat.le_sub_one_of_lt more
      day_le := le_trans (Nat.sub_le _ _) d.day_le }
  else if earlier : 1 < d.month then
    { d with
      month := d.month - 1, day := daysIn (d.month - 1) d.year
      month_pos := Nat.le_sub_one_of_lt earlier, month_le := le_trans (Nat.sub_le _ _) d.month_le
      day_pos := daysIn_pos _ _, day_le := le_refl _ }
  else
    { year := d.year - 1, month := 12, day := 31, month_pos := by decide, month_le := le_refl _
      day_pos := by decide, day_le := le_refl 31 }

/-- The date a number of days later, or earlier. -/
def shift (d : Date) : Int → Date
  | .ofNat n => next^[n] d
  | .negSucc n => prev^[n + 1] d

theorem day_le_31 (d : Date) : d.day ≤ 31 := le_trans d.day_le (daysIn_le _ _)

end Date

/-! ### Stamps -/

/-- A local date and second of the day, with the offset of its zone in seconds. The
fraction of the second is left out: no format used here writes it. -/
structure Stamp where
  date : Date
  second : Nat
  offset : Int

/-- A time of day in UTC. -/
structure Moment where
  date : Date
  hour : Fin 24
  minute : Fin 60
  second : Fin 60

/-- The zero `time.Time`. -/
def Stamp.zero : Stamp :=
  { date := ⟨1, 1, 1, by decide, by decide, by decide, by decide⟩, second := 0, offset := 0 }

/-- `UTC()`: the offset is taken off, which may move the date. -/
def Stamp.utc (t : Stamp) : Moment :=
  let total : Int := t.second - t.offset
  let second := (total % 86400).toNat
  { date := t.date.shift (total / 86400)
    hour := Fin.ofNat 24 (second / 3600)
    minute := Fin.ofNat 60 (second / 60)
    second := Fin.ofNat 60 second }

/-! ### Decimal fields -/

def digit (n : Nat) : Char := Char.ofNat (48 + n % 10)

/-- The low `width` decimal digits. -/
def fixedDigits : Nat → Nat → List Char
  | 0, _ => []
  | width + 1, n => fixedDigits width (n / 10) ++ [digit n]

/-- `appendInt`: at least `width` digits, after the sign of a negative number. -/
def appendInt (width : Nat) (x : Int) : List Char :=
  let digits := fixedDigits (max width (Nat.log 10 x.natAbs + 1)) x.natAbs
  if x < 0 then '-' :: digits else digits

/-! ### Parsing -/

/-- `getnum`: two digits, or one if the field is not fixed. -/
def getnum (fixed : Bool) : List Char → Option (Nat × List Char)
  | [] => none
  | a :: rest =>
    if !a.isDigit then none
    else match rest with
      | b :: more =>
        if b.isDigit then some ((a.toNat - 48) * 10 + (b.toNat - 48), more)
        else if fixed then none else some (a.toNat - 48, rest)
      | [] => if fixed then none else some (a.toNat - 48, [])

/-- Four digits. -/
def longYear : List Char → Option (Nat × List Char)
  | a :: b :: c :: d :: rest =>
    if [a, b, c, d].all Char.isDigit then
      some ([a, b, c, d].foldl (fun n x => n * 10 + (x.toNat - 48)) 0, rest)
    else none
  | _ => none

def expect (c : Char) : List Char → Option (List Char)
  | [] => none
  | x :: rest => if x = c then some rest else none

/-- The fraction of a second, which may be left out and is not kept. -/
def skipFraction : List Char → List Char
  | c :: d :: rest =>
    if (c = '.' || c = ',') && d.isDigit then rest.dropWhile Char.isDigit else c :: d :: rest
  | value => value

/-- The zone. Offsets of 24 hours and of 60 minutes are accepted. -/
def zone (value : List Char) : Option (Int × List Char) :=
  match value with
  | 'Z' :: rest => some (0, rest)
  | sign :: h₁ :: h₂ :: colon :: m₁ :: m₂ :: rest => do
    if colon ≠ ':' then none
    let (hours, _) ← getnum true [h₁, h₂]
    let (minutes, _) ← getnum true [m₁, m₂]
    if 24 < hours || 60 < minutes then none
    let offset : Int := (hours * 60 + minutes) * 60
    if sign = '+' then some (offset, rest) else if sign = '-' then some (-offset, rest) else none
  | _ => none

/-- `time.Parse(time.RFC3339Nano, value)`. The shortcut for strict RFC 3339 texts accepts
some of what the layout accepts, with the same result. -/
def parseRFC3339Nano (value : List Char) : Option Stamp := do
  let (year, value) ← longYear value
  let value ← expect '-' value
  let (month, value) ← getnum true value
  let value ← expect '-' value
  let (day, value) ← getnum true value
  let value ← expect 'T' value
  let (hour, value) ← getnum false value
  let value ← expect ':' value
  let (minute, value) ← getnum true value
  let value ← expect ':' value
  let (second, value) ← getnum true value
  let (offset, rest) ← zone (skipFraction value)
  if !rest.isEmpty || 24 ≤ hour || 60 ≤ minute || 60 ≤ second then none
  if h : 1 ≤ month ∧ month ≤ 12 ∧ 1 ≤ day ∧ day ≤ daysIn month year then
    some
      { date := ⟨year, month, day, h.1, h.2.1, h.2.2.1, h.2.2.2⟩
        second := hour * 3600 + minute * 60 + second, offset }
  else none

end ThinkPixelAR.Calendar
