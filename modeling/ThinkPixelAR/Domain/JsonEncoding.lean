import ThinkPixelAR.Domain.JsonGrammar

/-!
Reading what `json.Marshal` writes gives the value back: every escape is read as the
character it stands for, and every value ends where its text ends.
-/
namespace ThinkPixelAR.Json

/-! ### Strings -/

theorem hexDigit_hexChar : ∀ n < 16, hexDigit (hexChar n) = some n := by decide

/-- A code unit is read back from its four digits. -/
theorem hex4_hexText {n : Nat} (small : n < 65536) :
    ∃ a b c d, hexText 4 n = [a, b, c, d] ∧ hex4 a b c d = some n := by
  refine ⟨_, _, _, _, rfl, ?_⟩
  simp only [hex4, hexDigit_hexChar _ (Nat.mod_lt _ (by decide : 0 < 16)), Option.bind_eq_bind,
    Option.bind_some, Option.pure_def, Option.some.injEq]
  omega

variable {c : Char}

/-- A unit that is no surrogate is the character itself. -/
theorem push_plain (small : c.toNat < 0xd800 ∨ 0xdfff < c.toNat) (acc : List Char) :
    push none acc c.toNat = (none, c :: acc) := by
  have high : isHighSurrogate c.toNat = false := by
    simp only [isHighSurrogate, Bool.and_eq_false_iff, decide_eq_false_iff_not]
    omega
  have low : isLowSurrogate c.toNat = false := by
    simp only [isLowSurrogate, Bool.and_eq_false_iff, decide_eq_false_iff_not]
    omega
  simp [push, high, low, flush, Char.ofNat_toNat]

theorem stringBody_unicode (small : c.toNat < 0xd800 ∨ 0xdfff < c.toNat) (short : c.toNat < 65536)
    (acc rest : List Char) :
    stringBody none acc (('\\' :: 'u' :: hexText 4 c.toNat) ++ rest) =
      stringBody none (c :: acc) rest := by
  obtain ⟨p, q, r, s, digits, read⟩ := hex4_hexText short
  rw [digits, List.cons_append, List.cons_append, List.cons_append, List.cons_append,
    List.cons_append, List.cons_append, List.nil_append, stringBody]
  simp only [read, push_plain small]

theorem stringBody_plain (visible : ¬ c.toNat < 32) (unquoted : c ≠ '"') (unescaped : c ≠ '\\')
    (acc rest : List Char) : stringBody none acc (c :: rest) = stringBody none (c :: acc) rest := by
  rw [stringBody]
  · simp [visible, flush]
  · exact fun same => unquoted same
  · intro _ _ _ _ _ same
    exact absurd same unescaped
  · intro _ _ same
    exact absurd same unescaped

theorem stringBody_escapeHTML (visible : ¬ c.toNat < 32) (unquoted : c ≠ '"') (unescaped : c ≠ '\\')
    (acc rest : List Char) :
    stringBody none acc (escapeHTML c ++ rest) = stringBody none (c :: acc) rest := by
  unfold escapeHTML
  split
  next html =>
    have cases : c = '<' ∨ c = '>' ∨ c = '&' ∨ c.toNat = 0x2028 ∨ c.toNat = 0x2029 := by
      simpa [or_assoc] using html
    have small : c.toNat < 0xd800 := by
      rcases cases with rfl | rfl | rfl | n | n
      · decide
      · decide
      · decide
      · omega
      · omega
    exact stringBody_unicode (.inl small) (by omega) acc rest
  next => exact stringBody_plain visible unquoted unescaped acc rest

/-- Every escape is read as its character. -/
theorem stringBody_escape (c : Char) (acc rest : List Char) :
    stringBody none acc (escape c ++ rest) = stringBody none (c :: acc) rest := by
  unfold escape
  split
  case h_8 unquoted unescaped _ _ _ _ _ =>
    split
    next control => exact stringBody_unicode (.inl (by omega)) (by omega) acc rest
    next visible => exact stringBody_escapeHTML visible unquoted unescaped acc rest
  all_goals rfl

theorem stringBody_quote (text acc rest : List Char) :
    stringBody none acc (text.flatMap escape ++ '"' :: rest) =
      some (String.ofList (acc.reverse ++ text), rest) := by
  induction text generalizing acc with
  | nil => simp [stringBody, flush]
  | cons c text ih =>
    rw [List.flatMap_cons, List.append_assoc, stringBody_escape, ih]
    simp

/-! ### Numbers -/

/-- What follows a value where values are separated: nothing, a comma or a closing bracket. -/
def Delimited (rest : List Char) : Prop :=
  ∀ c r, rest = c :: r → c = ',' ∨ c = ']' ∨ c = '}'

theorem delimited_nil : Delimited [] := by
  intro c r none
  cases none

theorem delimited_cons {c : Char} (delimiter : c = ',' ∨ c = ']' ∨ c = '}') (rest : List Char) :
    Delimited (c :: rest) := by
  intro d r same
  cases same
  exact delimiter

/-- A number stops at a delimiter. -/
theorem Delimited.digits {rest : List Char} (delimited : Delimited rest) (cs : List Char) :
    digits (cs ++ rest) = ((Json.digits cs).1, (Json.digits cs).2 ++ rest) := by
  simp only [Json.digits, List.span_eq_takeWhile_dropWhile]
  induction cs with
  | nil =>
    cases rest with
    | nil => rfl
    | cons c r =>
      have plain : c.isDigit = false := by
        rcases delimited c r rfl with rfl | rfl | rfl <;> decide
      simp [plain]
  | cons c cs ih =>
    by_cases digit : c.isDigit
    · simpa [digit] using ih
    · simp [digit]

theorem Delimited.digits1 {rest cs ds r : List Char} (delimited : Delimited rest)
    (read : Json.digits1 cs = some (ds, r)) : Json.digits1 (cs ++ rest) = some (ds, r ++ rest) := by
  obtain ⟨whole, nonempty⟩ := digits1_append read
  have found : Json.digits cs = (ds, r) := by
    unfold Json.digits1 at read
    split at read
    · cases read
    · simpa using read
  unfold Json.digits1
  rw [delimited.digits, found]
  cases ds with
  | nil => exact absurd rfl nonempty
  | cons d ds => rfl

theorem Delimited.integerPart {rest cs ds r : List Char} (delimited : Delimited rest)
    (read : Json.integerPart cs = some (ds, r)) :
    Json.integerPart (cs ++ rest) = some (ds, r ++ rest) := by
  unfold Json.integerPart at read ⊢
  split at read
  next r' =>
    cases read
    rfl
  next nonzero =>
    have later := delimited.digits1 read
    obtain ⟨whole, nonempty⟩ := digits1_append read
    cases cs with
    | nil => exact absurd (List.append_eq_nil_iff.mp whole.symm).1 nonempty
    | cons c cs =>
      have other : c ≠ '0' := fun same => nonzero cs (by rw [same])
      simp only [List.cons_append] at later ⊢
      split
      next same => cases same; exact absurd rfl other
      next => exact later

theorem Delimited.fraction {rest cs ds r : List Char} (delimited : Delimited rest)
    (read : Json.fraction cs = some (ds, r)) :
    Json.fraction (cs ++ rest) = some (ds, r ++ rest) := by
  unfold Json.fraction at read
  split at read
  next r' =>
    obtain ⟨⟨ds', r''⟩, found, made⟩ := Option.map_eq_some_iff.mp read
    cases made
    rw [List.cons_append, Json.fraction, delimited.digits1 found]
    rfl
  next pointless =>
    cases read
    unfold Json.fraction
    split
    next r' point =>
      cases cs with
      | nil =>
        rcases delimited _ _ point with same | same | same <;> exact absurd same (by decide)
      | cons c cs =>
        cases point
        exact absurd rfl (pointless cs)
    next => rfl

theorem exponent_plain {rest : List Char} (plain : c ≠ 'e' ∧ c ≠ 'E') :
    exponent (c :: rest) = some ([], c :: rest) := by
  simp [exponent, plain]

theorem Delimited.exponent {rest cs ds r : List Char} (delimited : Delimited rest)
    (read : Json.exponent cs = some (ds, r)) :
    Json.exponent (cs ++ rest) = some (ds, r ++ rest) := by
  cases cs with
  | nil =>
    cases read
    cases rest with
    | nil => rfl
    | cons c r =>
      refine exponent_plain ?_
      rcases delimited c r rfl with rfl | rfl | rfl <;> decide
  | cons c cs =>
    unfold Json.exponent at read
    simp only at read
    split at read
    next marked =>
      unfold Json.exponent
      rw [List.cons_append]
      simp only [marked, if_true]
      split at read
      case h_1 r' | h_2 r' =>
        obtain ⟨⟨ds', r''⟩, found, made⟩ := Option.map_eq_some_iff.mp read
        cases made
        simp only [List.cons_append, delimited.digits1 found, Option.map_some]
      next plus minus =>
        obtain ⟨⟨ds', r''⟩, found, made⟩ := Option.map_eq_some_iff.mp read
        cases made
        obtain ⟨whole, nonempty⟩ := digits1_append found
        have later := delimited.digits1 found
        cases cs with
        | nil => exact absurd (List.append_eq_nil_iff.mp whole.symm).1 nonempty
        | cons d cs =>
          rw [List.cons_append] at later ⊢
          split
          next same => cases same; exact absurd rfl (plus cs)
          next same => cases same; exact absurd rfl (minus cs)
          next => simp only [later, Option.map_some]
    next plain =>
      cases read
      exact exponent_plain (by simpa using plain)

/-- The text is one number literal. -/
def IsNumber (text : String) : Prop := numberBody text.toList = some (text, [])

/-- What follows the sign. -/
theorem unsigned_delimited {cs whole frac expo r1 r2 r3 rest : List Char}
    (delimited : Delimited rest) (first : integerPart cs = some (whole, r1))
    (second : fraction r1 = some (frac, r2)) (third : exponent r2 = some (expo, r3)) :
    integerPart (cs ++ rest) = some (whole, r1 ++ rest) ∧
      fraction (r1 ++ rest) = some (frac, r2 ++ rest) ∧
      exponent (r2 ++ rest) = some (expo, r3 ++ rest) :=
  ⟨delimited.integerPart first, delimited.fraction second, delimited.exponent third⟩

theorem numberBody_delimited {text : String} (number : IsNumber text) {rest : List Char}
    (delimited : Delimited rest) : numberBody (text.toList ++ rest) = some (text, rest) := by
  unfold IsNumber at number
  generalize text.toList = cs at number
  unfold numberBody at number ⊢
  simp only [Option.bind_eq_bind, Option.bind_eq_some_iff] at number
  obtain ⟨⟨whole, r1⟩, first, ⟨frac, r2⟩, second, ⟨expo, r3⟩, third, made⟩ := number
  simp only at first second third made
  split at first
  next cs' =>
    obtain ⟨integer, fraction_, exponent_⟩ := unsigned_delimited delimited first second third
    simp only [List.cons_append, integer, fraction_, exponent_, Option.bind_eq_bind,
      Option.bind_some]
    simpa using made
  next unsigned =>
    obtain ⟨integer, fraction_, exponent_⟩ := unsigned_delimited delimited first second third
    have nonempty := (integerPart_append first).2
    cases cs with
    | nil => exact absurd (List.append_eq_nil_iff.mp (integerPart_append first).1.symm).1 nonempty
    | cons c cs =>
      rw [List.cons_append] at integer ⊢
      split
      next sign cs' signed =>
        split at signed
        next same => cases same; exact absurd rfl (unsigned cs)
        next =>
          cases signed
          simp only [integer, fraction_, exponent_, Option.bind_eq_bind, Option.bind_some]
          simpa using made

/-! ### Values -/

mutual

/-- Every number of the value is a number literal. -/
def Writable : Json → Prop
  | .number text => IsNumber text
  | .array items => WritableItems items
  | .object members => WritableMembers members
  | _ => True

def WritableItems : List Json → Prop
  | [] => True
  | x :: xs => Writable x ∧ WritableItems xs

def WritableMembers : List (String × Json) → Prop
  | [] => True
  | (_, x) :: xs => Writable x ∧ WritableMembers xs

end

theorem skip_cons (visible : isSpace c = false) (rest : List Char) :
    skip (c :: rest) = c :: rest := by
  simp [skip, visible]

theorem stringBody_name (name : String) (rest : List Char) :
    stringBody none [] (name.toList.flatMap escape ++ '"' :: rest) = some (name, rest) := by
  rw [stringBody_quote, List.reverse_nil, List.nil_append, String.ofList_toList]

theorem reads_string (text : String) (rest : List Char) :
    Reads (quote text ++ rest) (.string text) rest := by
  refine ValueForm.reads ?_
  rw [quote, List.append_assoc, List.cons_append, skip_cons (by decide)]
  exact .string (stringBody_name text rest)

theorem reads_number {text : String} (number : IsNumber text) {rest : List Char}
    (delimited : Delimited rest) : Reads (text.toList ++ rest) (.number text) rest := by
  have body := numberBody_delimited number delimited
  obtain ⟨c, cs, start, first⟩ := numberBody_start body
  have other {d : Char} (special : d ≠ '-' ∧ d.isDigit = false) : c ≠ d := by
    rintro rfl
    simp [special] at first
  have visible : isSpace c = false := by
    simp only [isSpace, Bool.or_eq_false_iff, decide_eq_false_iff_not]
    exact ⟨⟨⟨other (by decide), other (by decide)⟩, other (by decide)⟩, other (by decide)⟩
  refine ValueForm.reads ?_
  rw [start] at body ⊢
  rw [skip_cons visible]
  exact .number body

theorem skip_delimiter {c : Char}
    (delimiter : c = ',' ∨ c = ']' ∨ c = '}' ∨ c = ':' ∨ c = '[' ∨ c = '{') (rest : List Char) :
    skip (c :: rest) = c :: rest := by
  apply skip_cons
  rcases delimiter with rfl | rfl | rfl | rfl | rfl | rfl <;> decide

theorem encodeItems_cons (x y : Json) (ys : List Json) :
    encodeItems (x :: y :: ys) = encodeChars x ++ ',' :: encodeItems (y :: ys) := by
  rw [encodeItems]
  exact List.cons_ne_nil y ys

theorem encodeMembers_cons (name : String) (x : Json) (m : String × Json)
    (ms : List (String × Json)) :
    encodeMembers ((name, x) :: m :: ms) =
      quote name ++ ':' :: encodeChars x ++ ',' :: encodeMembers (m :: ms) := by
  rw [encodeMembers]
  exact List.cons_ne_nil m ms

mutual

/-- Reading what was written gives the value and leaves what follows. -/
theorem reads_encode (x : Json) (writable : Writable x) {rest : List Char}
    (delimited : Delimited rest) : Reads (encodeChars x ++ rest) x rest := by
  cases x with
  | null => exact ValueForm.reads .null
  | bool b =>
    cases b with
    | true => exact ValueForm.reads .true_
    | false => exact ValueForm.reads .false_
  | number text => exact reads_number writable delimited
  | string text => exact reads_string text rest
  | array xs =>
    refine ValueForm.reads ?_
    rw [encodeChars, List.append_assoc, List.cons_append, skip_delimiter (by simp),
      List.singleton_append]
    cases xs with
    | nil => exact .emptyArray (skip_delimiter (by simp) rest)
    | cons x xs => exact .array (readsItems_encode (x :: xs) (by simp) writable rest)
  | object ms =>
    refine ValueForm.reads ?_
    rw [encodeChars, List.append_assoc, List.cons_append, skip_delimiter (by simp),
      List.singleton_append]
    cases ms with
    | nil => exact .emptyObject (skip_delimiter (by simp) rest)
    | cons m ms => exact .object (readsMembers_encode (m :: ms) (by simp) writable rest)

theorem readsItems_encode (xs : List Json) (some_ : xs ≠ []) (writable : WritableItems xs)
    (rest : List Char) : ReadsItems (encodeItems xs ++ ']' :: rest) xs rest := by
  match xs, writable with
  | [x], ⟨first, _⟩ =>
    exact .last (reads_encode x first (delimited_cons (by simp) rest)) (skip_delimiter (by simp) _)
  | x :: y :: ys, ⟨first, others⟩ =>
    rw [encodeItems_cons, List.append_assoc, List.cons_append]
    exact .more (reads_encode x first (delimited_cons (by simp) _)) (skip_delimiter (by simp) _)
      (readsItems_encode (y :: ys) (by simp) others rest)

theorem readsMembers_encode (ms : List (String × Json)) (some_ : ms ≠ [])
    (writable : WritableMembers ms) (rest : List Char) :
    ReadsMembers (encodeMembers ms ++ '}' :: rest) ms rest := by
  match ms, writable with
  | [(name, x)], ⟨first, _⟩ =>
    have text : encodeMembers [(name, x)] ++ '}' :: rest =
        '"' :: (name.toList.flatMap escape ++ '"' :: ':' :: (encodeChars x ++ '}' :: rest)) := by
      simp [encodeMembers, quote]
    rw [text]
    exact .last (skip_cons (by decide) _) (stringBody_name name _) (skip_delimiter (by simp) _)
      (reads_encode x first (delimited_cons (by simp) rest)) (skip_delimiter (by simp) _)
  | (name, x) :: m :: ms, ⟨first, others⟩ =>
    have text : encodeMembers ((name, x) :: m :: ms) ++ '}' :: rest =
        '"' :: (name.toList.flatMap escape ++ '"' :: ':' ::
          (encodeChars x ++ ',' :: (encodeMembers (m :: ms) ++ '}' :: rest))) := by
      simp [encodeMembers_cons, quote]
    rw [text]
    exact .more (skip_cons (by decide) _) (stringBody_name name _) (skip_delimiter (by simp) _)
      (reads_encode x first (delimited_cons (by simp) _)) (skip_delimiter (by simp) _)
      (readsMembers_encode (m :: ms) (by simp) others rest)

end

theorem decodeChars_encodeChars {x : Json} (writable : Writable x) :
    decodeChars (encodeChars x) = some x := by
  refine decodeChars_iff.mpr ⟨[], ?_, rfl⟩
  simpa using reads_encode x writable delimited_nil

end ThinkPixelAR.Json
