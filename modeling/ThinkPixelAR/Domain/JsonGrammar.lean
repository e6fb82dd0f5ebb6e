import ThinkPixelAR.Domain.Json

/-!
The grammar of JSON, and that the reader reads it: what it returns is a value of the grammar,
and with fuel for the characters it consumes it returns every one.
-/
namespace ThinkPixelAR.Json

/-! ### Consumption -/

theorem skip_suffix (cs : List Char) : skip cs <:+ cs := List.dropWhile_suffix _

theorem skip_length (cs : List Char) : (skip cs).length ≤ cs.length := (skip_suffix cs).length_le

variable {text : String}

theorem stringBody_suffix {high : Option Nat} {acc cs rest : List Char}
    (read : stringBody high acc cs = some (text, rest)) : '"' :: rest <:+ cs := by
  fun_induction stringBody high acc cs with
  | case1 | case4 | case6 | case7 => cases read
  | case2 high acc rest' =>
    cases read
    exact List.suffix_rfl
  | case3 high acc a b c d rest' n found ih =>
    exact (ih read).trans (List.suffix_append ['\\', 'u', a, b, c, d] rest')
  | case5 high acc c rest' _ e found ih =>
    exact (ih read).trans (List.suffix_append ['\\', c] rest')
  | case8 high acc c rest' _ _ _ visible ih => exact (ih read).trans (List.suffix_cons c rest')

theorem stringBody_shorter {high : Option Nat} {acc cs rest : List Char}
    (read : stringBody high acc cs = some (text, rest)) : rest.length < cs.length :=
  (stringBody_suffix read).length_le

/-! A number is the text it was read from. -/

theorem digits_append (cs : List Char) : (digits cs).1 ++ (digits cs).2 = cs := by
  rw [digits, List.span_eq_takeWhile_dropWhile]
  exact List.takeWhile_append_dropWhile

theorem digits1_append {cs ds rest : List Char} (read : digits1 cs = some (ds, rest)) :
    cs = ds ++ rest ∧ ds ≠ [] := by
  have whole := digits_append cs
  unfold digits1 at read
  split at read
  · cases read
  next some_ =>
    rw [Option.some.injEq] at read
    rw [read] at whole some_
    refine ⟨whole.symm, ?_⟩
    rintro rfl
    exact some_ rest rfl

theorem integerPart_append {cs whole rest : List Char}
    (read : integerPart cs = some (whole, rest)) : cs = whole ++ rest ∧ whole ≠ [] := by
  unfold integerPart at read
  split at read
  · cases read
    exact ⟨rfl, List.cons_ne_nil _ _⟩
  · exact digits1_append read

theorem fraction_append {cs part rest : List Char} (read : fraction cs = some (part, rest)) :
    cs = part ++ rest := by
  unfold fraction at read
  split at read
  · obtain ⟨⟨ds, r⟩, found, made⟩ := Option.map_eq_some_iff.mp read
    cases made
    rw [(digits1_append found).1]
    rfl
  · cases read
    rfl

theorem exponent_append {cs part rest : List Char} (read : exponent cs = some (part, rest)) :
    cs = part ++ rest := by
  unfold exponent at read
  split at read
  · split at read
    · split at read
      all_goals
        obtain ⟨⟨ds, r⟩, found, made⟩ := Option.map_eq_some_iff.mp read
        cases made
        rw [(digits1_append found).1]
        rfl
    · cases read
      rfl
  · cases read
    rfl

theorem numberBody_append {cs rest : List Char} (read : numberBody cs = some (text, rest)) :
    cs = text.toList ++ rest ∧ text.toList ≠ [] := by
  unfold numberBody at read
  simp only [Option.bind_eq_bind, Option.bind_eq_some_iff] at read
  obtain ⟨⟨whole, r1⟩, first, ⟨frac, r2⟩, second, ⟨expo, r3⟩, third, made⟩ := read
  cases made
  obtain ⟨split1, nonempty⟩ := integerPart_append first
  have split2 := fraction_append second
  have split3 := exponent_append third
  simp only at split1 split2 split3
  rw [String.toList_ofList]
  refine ⟨?_, by simp [nonempty]⟩
  split at split1
  · simp_all
  · simp_all

theorem numberBody_shorter {cs rest : List Char} (read : numberBody cs = some (text, rest)) :
    rest.length < cs.length := by
  obtain ⟨whole, nonempty⟩ := numberBody_append read
  have positive := List.length_pos_iff.mpr nonempty
  rw [whole, List.length_append]
  omega

theorem digits1_start {cs ds r : List Char} (read : digits1 cs = some (ds, r)) :
    ∃ c rest, cs = c :: rest ∧ c.isDigit := by
  obtain ⟨whole, nonempty⟩ := digits1_append read
  cases cs with
  | nil => exact absurd (List.append_eq_nil_iff.mp whole.symm).1 nonempty
  | cons c rest =>
    refine ⟨c, rest, rfl, ?_⟩
    by_contra other
    simp [digits1, digits, List.span_eq_takeWhile_dropWhile, other] at read

/-- A number starts with its sign or a digit. -/
theorem numberBody_start {cs r : List Char} (read : numberBody cs = some (text, r)) :
    ∃ c rest, cs = c :: rest ∧ (c = '-' ∨ c.isDigit) := by
  unfold numberBody at read
  simp only [Option.bind_eq_bind, Option.bind_eq_some_iff] at read
  obtain ⟨⟨whole, left⟩, first, -⟩ := read
  split at first
  next cs' => exact ⟨'-', cs', rfl, .inl rfl⟩
  next unsigned =>
    unfold integerPart at first
    simp only at first
    split at first
    next rest => exact ⟨'0', rest, rfl, .inr (by decide)⟩
    next =>
      obtain ⟨c, rest, whole, digit⟩ := digits1_start first
      exact ⟨c, rest, whole, .inr digit⟩

/-- No other character starts one. -/
theorem numberBody_none {c : Char} (other : c ≠ '-' ∧ c.isDigit = false) (rest : List Char) :
    numberBody (c :: rest) = none := by
  rw [Option.eq_none_iff_forall_ne_some]
  rintro ⟨text, r⟩ read
  obtain ⟨d, _, same, first⟩ := numberBody_start read
  obtain ⟨rfl, _⟩ := List.cons.inj same
  simp [other] at first

/-! ### The grammar -/

mutual

/-- A value, from its first character, and what follows it. -/
inductive ValueForm : List Char → Json → List Char → Prop
  | null {rest} : ValueForm ('n' :: 'u' :: 'l' :: 'l' :: rest) .null rest
  | true_ {rest} : ValueForm ('t' :: 'r' :: 'u' :: 'e' :: rest) (.bool true) rest
  | false_ {rest} : ValueForm ('f' :: 'a' :: 'l' :: 's' :: 'e' :: rest) (.bool false) rest
  | string {cs text rest} (body : stringBody none [] cs = some (text, rest)) :
      ValueForm ('"' :: cs) (.string text) rest
  | emptyArray {cs rest} (close : skip cs = ']' :: rest) : ValueForm ('[' :: cs) (.array []) rest
  | array {cs xs rest} (inside : ReadsItems cs xs rest) : ValueForm ('[' :: cs) (.array xs) rest
  | emptyObject {cs rest} (close : skip cs = '}' :: rest) : ValueForm ('{' :: cs) (.object []) rest
  | object {cs ms rest} (inside : ReadsMembers cs ms rest) : ValueForm ('{' :: cs) (.object ms) rest
  | number {cs text rest} (body : numberBody cs = some (text, rest)) :
      ValueForm cs (.number text) rest

/-- Elements up to and including the closing bracket. -/
inductive ReadsItems : List Char → List Json → List Char → Prop
  | last {cs x r rest} (first : ValueForm (skip cs) x r) (close : skip r = ']' :: rest) :
      ReadsItems cs [x] rest
  | more {cs x r later xs rest} (first : ValueForm (skip cs) x r) (comma : skip r = ',' :: later)
      (others : ReadsItems later xs rest) : ReadsItems cs (x :: xs) rest

inductive ReadsMembers : List Char → List (String × Json) → List Char → Prop
  | last {cs q name k v x r rest} (quoted : skip cs = '"' :: q)
      (key : stringBody none [] q = some (name, k)) (colon : skip k = ':' :: v)
      (first : ValueForm (skip v) x r) (close : skip r = '}' :: rest) :
      ReadsMembers cs [(name, x)] rest
  | more {cs q name k v x r later ms rest} (quoted : skip cs = '"' :: q)
      (key : stringBody none [] q = some (name, k)) (colon : skip k = ':' :: v)
      (first : ValueForm (skip v) x r) (comma : skip r = ',' :: later)
      (others : ReadsMembers later ms rest) : ReadsMembers cs ((name, x) :: ms) rest

end

/-- The text starts with the value and goes on with the rest. -/
def Reads (cs : List Char) (x : Json) (rest : List Char) : Prop := ValueForm (skip cs) x rest

/-! ### What is read is taken from the front -/

/-- Something was taken from the front of the text. -/
structure Taken (cs rest : List Char) : Prop where
  suffix : rest <:+ cs
  shorter : rest.length < cs.length

section Taken
variable {cs r rest : List Char}

theorem Taken.trans (first : Taken cs r) (later : Taken r rest) : Taken cs rest :=
  ⟨later.suffix.trans first.suffix, later.shorter.trans first.shorter⟩

theorem taken_cons (c : Char) (rest : List Char) : Taken (c :: rest) rest :=
  ⟨List.suffix_cons c rest, Nat.lt_succ_self _⟩

theorem Taken.skip (taken : Taken (skip cs) rest) : Taken cs rest :=
  ⟨taken.suffix.trans (skip_suffix cs), Nat.lt_of_lt_of_le taken.shorter (skip_length cs)⟩

theorem taken_next {c : Char} (next : skip cs = c :: rest) : Taken cs rest :=
  Taken.skip (next ▸ taken_cons c rest)

theorem taken_string (body : stringBody none [] cs = some (text, rest)) : Taken cs rest :=
  ⟨(List.suffix_cons _ _).trans (stringBody_suffix body), stringBody_shorter body⟩

theorem taken_key {q k : List Char} {name : String} (quoted : Json.skip cs = '"' :: q)
    (key : stringBody none [] q = some (name, k)) (colon : Json.skip k = ':' :: rest) :
    Taken cs rest :=
  ((taken_next quoted).trans (taken_string key)).trans (taken_next colon)

end Taken

mutual

theorem ValueForm.taken {cs rest : List Char} {x : Json} (form : ValueForm cs x rest) :
    Taken cs rest := by
  cases form with
  | null => exact ⟨⟨['n', 'u', 'l', 'l'], rfl⟩, by simp only [List.length_cons]; omega⟩
  | true_ => exact ⟨⟨['t', 'r', 'u', 'e'], rfl⟩, by simp only [List.length_cons]; omega⟩
  | false_ => exact ⟨⟨['f', 'a', 'l', 's', 'e'], rfl⟩, by simp only [List.length_cons]; omega⟩
  | string body => exact (taken_cons _ _).trans (taken_string body)
  | number body => exact ⟨⟨_, (numberBody_append body).1.symm⟩, numberBody_shorter body⟩
  | emptyArray close | emptyObject close => exact (taken_cons _ _).trans (taken_next close)
  | array inside | object inside => exact (taken_cons _ _).trans inside.taken

theorem ReadsItems.taken {cs rest : List Char} {xs : List Json} (reads : ReadsItems cs xs rest) :
    Taken cs rest := by
  cases reads with
  | last first close => exact first.taken.skip.trans (taken_next close)
  | more first comma others =>
    exact (first.taken.skip.trans (taken_next comma)).trans others.taken

theorem ReadsMembers.taken {cs rest : List Char} {ms : List (String × Json)}
    (reads : ReadsMembers cs ms rest) : Taken cs rest := by
  cases reads with
  | last quoted key colon first close =>
    exact ((taken_key quoted key colon).trans first.taken.skip).trans (taken_next close)
  | more quoted key colon first comma others =>
    exact (((taken_key quoted key colon).trans first.taken.skip).trans (taken_next comma)).trans
      others.taken

end

theorem skip_skip (cs : List Char) : skip (skip cs) = skip cs := by
  induction cs with
  | nil => rfl
  | cons c cs ih =>
    by_cases space : isSpace c
    · simpa [skip, space] using ih
    · simp [skip, space]

section Reading
variable {cs rest : List Char} {x : Json} {xs : List Json} {ms : List (String × Json)} {fuel : Nat}

theorem Reads.form (reads : Reads cs x rest) : ValueForm (skip cs) x rest := reads

theorem ValueForm.reads (form : ValueForm (skip cs) x rest) : Reads cs x rest := form

theorem Reads.taken (reads : Reads cs x rest) : Taken cs rest := (ValueForm.taken reads).skip

theorem Reads.skipped (reads : Reads cs x rest) : Reads (skip cs) x rest := by
  rwa [Reads, skip_skip]

theorem ReadsItems.of_skipped (reads : ReadsItems (skip cs) xs rest) : ReadsItems cs xs rest := by
  cases reads with
  | last first close => exact .last (skip_skip cs ▸ first) close
  | more first comma others => exact .more (skip_skip cs ▸ first) comma others

theorem ReadsMembers.of_skipped (reads : ReadsMembers (skip cs) ms rest) :
    ReadsMembers cs ms rest := by
  cases reads with
  | last quoted key colon first close => exact .last (skip_skip cs ▸ quoted) key colon first close
  | more quoted key colon first comma others =>
    exact .more (skip_skip cs ▸ quoted) key colon first comma others

/-- A value does not start with a closing bracket. -/
theorem ReadsItems.unclosed (reads : ReadsItems cs xs rest) (r : List Char) :
    skip cs ≠ ']' :: r := by
  intro close
  have first : ∃ x r', ValueForm (']' :: r) x r' := by
    rw [← close]
    cases reads with
    | last first | more first => exact ⟨_, _, first⟩
  obtain ⟨x, r', form⟩ := first
  cases form with
  | number body => simp [numberBody_none (show ']' ≠ '-' ∧ ']'.isDigit = false by decide)] at body

theorem ReadsMembers.unclosed (reads : ReadsMembers cs ms rest) (r : List Char) :
    skip cs ≠ '}' :: r := by
  intro close
  cases reads with
  | last quoted | more quoted =>
    rw [close] at quoted
    cases quoted

end Reading

/-! ### The reader reads the grammar -/

theorem reads_of_value (fuel : Nat) :
    (∀ cs x rest, value fuel cs = some (x, rest) → Reads cs x rest) ∧
      (∀ cs xs rest, items fuel cs = some (xs, rest) → ReadsItems cs xs rest) ∧
      ∀ cs ms rest, members fuel cs = some (ms, rest) → ReadsMembers cs ms rest := by
  induction fuel with
  | zero => simp [value, items, members]
  | succ fuel ih =>
    obtain ⟨value_, items_, members_⟩ := ih
    refine ⟨fun cs x rest read => ?_, fun cs xs rest read => ?_, fun cs ms rest read => ?_⟩
    · unfold value at read
      unfold Reads
      split at read
      next r start => cases read; rw [start]; exact .null
      next r start => cases read; rw [start]; exact .true_
      next r start => cases read; rw [start]; exact .false_
      next r start =>
        obtain ⟨⟨text, r'⟩, body, made⟩ := Option.map_eq_some_iff.mp read
        cases made
        rw [start]
        exact .string body
      next r start =>
        rw [start]
        split at read
        next r' close => cases read; exact .emptyArray close
        next =>
          obtain ⟨⟨xs, r'⟩, body, made⟩ := Option.map_eq_some_iff.mp read
          cases made
          exact .array (items_ _ _ _ body).of_skipped
      next r start =>
        rw [start]
        split at read
        next r' close => cases read; exact .emptyObject close
        next =>
          obtain ⟨⟨ms, r'⟩, body, made⟩ := Option.map_eq_some_iff.mp read
          cases made
          exact .object (members_ _ _ _ body).of_skipped
      next =>
        obtain ⟨⟨text, r'⟩, body, made⟩ := Option.map_eq_some_iff.mp read
        cases made
        exact .number body
    · unfold items at read
      obtain ⟨⟨x, r⟩, first, next⟩ := Option.bind_eq_some_iff.mp read
      simp only at next
      split at next
      next later comma =>
        obtain ⟨⟨ys, r'⟩, others, made⟩ := Option.map_eq_some_iff.mp next
        cases made
        exact .more (value_ _ _ _ first) comma (items_ _ _ _ others)
      next close => cases next; exact .last (value_ _ _ _ first) close
      next => cases next
    · unfold members at read
      split at read
      next q quoted =>
        obtain ⟨⟨name, k⟩, key, read⟩ := Option.bind_eq_some_iff.mp read
        simp only at read
        split at read
        next v colon =>
          obtain ⟨⟨x, r⟩, first, next⟩ := Option.bind_eq_some_iff.mp read
          simp only at next
          split at next
          next later comma =>
            obtain ⟨⟨ys, r'⟩, others, made⟩ := Option.map_eq_some_iff.mp next
            cases made
            exact .more quoted key colon (value_ _ _ _ first) comma (members_ _ _ _ others)
          next close => cases next; exact .last quoted key colon (value_ _ _ _ first) close
          next => cases next
        next => cases read
      next => cases read

theorem value_number {cs rest : List Char} (fuel : Nat)
    (body : numberBody (skip cs) = some (text, rest)) :
    value (fuel + 1) cs = some (.number text, rest) := by
  obtain ⟨c, r, start, first⟩ := numberBody_start body
  unfold value
  rw [start] at body ⊢
  split
  case h_7 => simp only [body, Option.map_some]
  all_goals
    next same =>
      injection same with same _
      subst same
      exact absurd first (by decide)

mutual

theorem ValueForm.fueled {start rest cs : List Char} {x : Json} {fuel : Nat}
    (form : ValueForm start x rest) (same : skip cs = start)
    (enough : start.length ≤ fuel + rest.length) : value fuel cs = some (x, rest) := by
  have shorter := form.taken.shorter
  obtain ⟨fuel, rfl⟩ : ∃ less, fuel = less + 1 := ⟨fuel - 1, by omega⟩
  unfold value
  rw [same]
  cases form with
  | null | true_ | false_ => rfl
  | string body => simp only [body, Option.map_some]
  | emptyArray close | emptyObject close => simp only [close]
  | @array inner xs rest inside | @object inner ms rest inside =>
    have left := skip_length inner
    rw [List.length_cons] at enough
    simp only
    split
    next r close => exact absurd close (inside.unclosed r)
    next => rw [inside.fueled (skip_skip inner) (by omega)]; rfl
  | number body =>
    have read := value_number fuel (same ▸ body)
    rwa [value, same] at read

theorem ReadsItems.fueled {cs cs' rest : List Char} {xs : List Json} {fuel : Nat}
    (reads : ReadsItems cs xs rest) (same : skip cs' = skip cs)
    (enough : cs.length ≤ fuel + rest.length) : items fuel cs' = some (xs, rest) := by
  have shorter := reads.taken.shorter
  have least := skip_length cs
  obtain ⟨fuel, rfl⟩ : ∃ less, fuel = less + 1 := ⟨fuel - 1, by omega⟩
  unfold items
  cases reads with
  | last first close =>
    have left := (taken_next close).shorter
    rw [first.fueled same (by omega)]
    simp only [Option.bind_eq_bind, Option.bind_some, close]
  | @more _ x r later xs _ first comma others =>
    have left := (taken_next comma).shorter
    have consumed := first.taken.shorter
    have remains := others.taken.shorter
    have rest_ := others.fueled rfl (show later.length ≤ fuel + rest.length by omega)
    rw [first.fueled same (by omega)]
    simp only [Option.bind_eq_bind, Option.bind_some, comma, rest_,
      Option.map_some]

theorem ReadsMembers.fueled {cs cs' rest : List Char} {ms : List (String × Json)} {fuel : Nat}
    (reads : ReadsMembers cs ms rest) (same : skip cs' = skip cs)
    (enough : cs.length ≤ fuel + rest.length) : members fuel cs' = some (ms, rest) := by
  have shorter := reads.taken.shorter
  obtain ⟨fuel, rfl⟩ : ∃ less, fuel = less + 1 := ⟨fuel - 1, by omega⟩
  unfold members
  cases reads with
  | @last _ q name k v x r _ quoted key colon first close =>
    have named := (taken_key quoted key colon).shorter
    have left := (taken_next close).shorter
    have least := skip_length v
    have read := first.fueled rfl (show (skip v).length ≤ fuel + r.length by omega)
    simp only [same, quoted, key, colon, close, read, Option.bind_eq_bind, Option.bind_some]
  | @more _ q name k v x r later ms _ quoted key colon first comma others =>
    have named := (taken_key quoted key colon).shorter
    have consumed := first.taken.shorter
    have left := (taken_next comma).shorter
    have remains := others.taken.shorter
    have least := skip_length v
    have read := first.fueled rfl (show (skip v).length ≤ fuel + r.length by omega)
    have rest_ := others.fueled rfl (show later.length ≤ fuel + rest.length by omega)
    simp only [same, quoted, key, colon, comma, read, rest_, Option.bind_eq_bind, Option.bind_some,
      Option.map_some]

end

/-- The whole text is one value, whatever the fuel. -/
theorem decodeChars_iff {cs : List Char} {x : Json} :
    decodeChars cs = some x ↔ ∃ rest, Reads cs x rest ∧ skip rest = [] := by
  unfold decodeChars
  constructor
  · intro decoded
    split at decoded
    next y rest read =>
      simp only [Option.ite_none_right_eq_some, List.isEmpty_iff, Option.some.injEq] at decoded
      obtain ⟨done, rfl⟩ := decoded
      exact ⟨rest, (reads_of_value _).1 _ _ _ read, done⟩
    next => cases decoded
  · rintro ⟨rest, reads, done⟩
    have least := skip_length cs
    rw [reads.fueled rfl (show (skip cs).length ≤ cs.length + 1 + rest.length by omega)]
    simp [done]

end ThinkPixelAR.Json
