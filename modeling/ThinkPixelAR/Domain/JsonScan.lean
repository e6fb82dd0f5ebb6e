import ThinkPixelAR.Domain.JsonTokens

/-!
Scans of one JSON value that count and check while they read tokens. Such a scan decides
what a check of the whole value decides: it accepts exactly the texts that are one value of
the grammar and whose value passes.
-/
namespace ThinkPixelAR.Json

open Decoder (token new)

/-- What a scan refuses. Members and elements are counted together; `early` if the count is
checked as soon as it is raised, otherwise where the next value starts. -/
structure ScanLimits where
  depth : Nat
  members : Nat
  early : Bool
  /-- The strings and names allowed. -/
  text : String → Bool
  /-- The text must be an object with at most so many members. -/
  root : Option Nat

namespace ScanLimits

/-- No value may start here. -/
def stops (l : ScanLimits) (depth count : Nat) : Bool :=
  l.depth < depth || (!l.early && l.members < count)

/-- The value must be an object. -/
def objectOnly (l : ScanLimits) (depth : Nat) : Bool := depth = 0 && l.root.isSome

/-- The count may not be raised. -/
def full (l : ScanLimits) (count : Nat) : Bool := l.early && l.members < count + 1

/-- The name may not follow those of the object so far. -/
def refuses (l : ScanLimits) (depth : Nat) (seen : List String) (count : Nat) (name : String) :
    Bool :=
  !l.text name || seen.contains name || (depth = 0 && l.root.any (· < seen.length + 1)) ||
    l.full count

end ScanLimits

section Scan
variable (l : ScanLimits)

/-- The token after the last element or member. -/
def closing (c : Char) : Nat × Decoder → Option (Nat × Decoder)
  | (count, d) =>
    match d.token with
    | .token t d => if t = .delim c then some (count, d) else none
    | _ => none

mutual

/-- The count after the value and where the decoder is then. -/
def scan : Nat → Nat → Nat → Decoder → Option (Nat × Decoder)
  | 0, _, _, _ => none
  | fuel + 1, depth, count, d =>
    if l.stops depth count then none
    else match d.token with
      | .token (.delim c) d =>
        if c = '{' then (scanMembers fuel depth [] count d).bind (closing '}')
        else if c = '[' then
          if l.objectOnly depth then none else (scanItems fuel depth count d).bind (closing ']')
        else none
      | .token (.string text) d =>
        if l.objectOnly depth || !l.text text then none else some (count, d)
      | .token _ d => if l.objectOnly depth then none else some (count, d)
      | _ => none

def scanItems : Nat → Nat → Nat → Decoder → Option (Nat × Decoder)
  | 0, _, count, d => if d.more then none else some (count, d)
  | fuel + 1, depth, count, d =>
    if d.more then
      if l.full count then none
      else (scan fuel (depth + 1) (count + 1) d).bind fun (count, d) =>
        scanItems fuel depth count d
    else some (count, d)

def scanMembers : Nat → Nat → List String → Nat → Decoder → Option (Nat × Decoder)
  | 0, _, _, count, d => if d.more then none else some (count, d)
  | fuel + 1, depth, seen, count, d =>
    if d.more then
      match d.token with
      | .token (.string name) d =>
        if l.refuses depth seen count name then none
        else (scan fuel (depth + 1) (count + 1) d).bind fun (count, d) =>
          scanMembers fuel depth (name :: seen) count d
      | _ => none
    else some (count, d)

end

/-- One value and nothing after it. -/
def scans (cs : List Char) : Bool :=
  match scan l (cs.length + 1) 0 0 (.new cs) with
  | some (_, d) => d.token = .eof
  | none => false

mutual

/-- The same checks on the value. -/
def check (depth count : Nat) : Json → Option Nat
  | .object ms => if l.stops depth count then none else checkMembers depth [] count ms
  | .array xs =>
    if l.stops depth count || l.objectOnly depth then none else checkItems depth count xs
  | .string text =>
    if l.stops depth count || l.objectOnly depth || !l.text text then none else some count
  | .null | .bool _ | .number _ =>
    if l.stops depth count || l.objectOnly depth then none else some count

def checkItems (depth count : Nat) : List Json → Option Nat
  | [] => some count
  | x :: xs =>
    if l.full count then none
    else (check (depth + 1) (count + 1) x).bind fun count => checkItems depth count xs

def checkMembers (depth : Nat) (seen : List String) (count : Nat) :
    List (String × Json) → Option Nat
  | [] => some count
  | (name, x) :: ms =>
    if l.refuses depth seen count name then none
    else (check (depth + 1) (count + 1) x).bind fun count =>
      checkMembers depth (name :: seen) count ms

end

end Scan

/-! ### A scan reads, then checks -/

/-- Where the next element or member starts: at once, or after a comma. -/
def upNext (state : TokenState) (cs : List Char) : Option (List Char) :=
  match state, skip cs with
  | .arrayStart, _ | .objectStart, _ => some cs
  | _, ',' :: rest => some rest
  | _, _ => none

/-- What is left of an array or object: its end, or what `read` finds. -/
def left {α : Type} (c : Char) (read : List Char → Option (List α × List Char))
    (state : TokenState) (cs : List Char) : Option (List α × List Char) :=
  match skip cs with
  | [] => none
  | d :: rest => if d = c then some ([], rest) else (upNext state cs).bind read

/-- The checks on what was read, and where the decoder is then. -/
def checked {α : Type} (check : α → Option Nat) (state : TokenState) (stack : List TokenState)
    (read : Option (α × List Char)) : Option (Nat × Decoder) :=
  read.bind fun p => (check p.1).map fun count => (count, ⟨p.2, state, stack⟩)

/-- With so much fuel a scan reads what the decoder of values reads, and checks it. -/
structure Scanned (l : ScanLimits) (fuel : Nat) : Prop where
  value : ∀ depth count cs state stack, state.valueAllowed = true →
    scan l fuel depth count ⟨cs, state, stack⟩ =
      checked (check l depth count) state.valueEnd stack (value fuel cs)
  items : ∀ depth count cs state outer stack, (state = .arrayStart ∨ state = .arrayComma) →
    (scanItems l fuel depth count ⟨cs, state, outer :: stack⟩).bind (closing ']') =
      checked (checkItems l depth count) outer.valueEnd stack (left ']' (items fuel) state cs)
  members : ∀ depth seen count cs state outer stack,
    (state = .objectStart ∨ state = .objectComma) →
    (scanMembers l fuel depth seen count ⟨cs, state, outer :: stack⟩).bind (closing '}') =
      checked (checkMembers l depth seen count) outer.valueEnd stack
        (left '}' (members fuel) state cs)

section Scanning
variable {l : ScanLimits} {fuel depth count : Nat} {seen : List String} {cs rest : List Char}
  {state outer : TokenState} {stack below : List TokenState}

/-- Nothing starts where no value may start. -/
theorem check_starts {x : Json} {count' : Nat} (checked : check l depth count x = some count') :
    l.stops depth count = false := by
  by_contra stopped
  rw [Bool.not_eq_false] at stopped
  cases x <;> simp [check, stopped] at checked

theorem checked_map {α β : Type} {f : α → β} {g : β → Option Nat} (read : Option (α × List Char)) :
    checked g state stack (read.map fun q => (f q.1, q.2)) =
      checked (fun x => g (f x)) state stack read := by
  cases read <;> rfl

theorem checked_none {α : Type} {g : α → Option Nat} (refuses : ∀ x, g x = none)
    (read : Option (α × List Char)) : checked g state stack read = none := by
  cases read <;> simp [checked, refuses]

theorem more_next (more : Decoder.more ⟨cs, state, stack⟩ = true) :
    ∃ c rest, skip cs = c :: rest ∧ c ≠ ']' ∧ c ≠ '}' := by
  rw [Decoder.more] at more
  cases next : skip cs <;> simp_all

theorem scan_token {state' : TokenState} {cs' : List Char}
    (same : readToken stack state cs = readToken stack state' cs') :
    scan l fuel depth count ⟨cs, state, stack⟩ = scan l fuel depth count ⟨cs', state', stack⟩ := by
  cases fuel <;> simp only [scan, token, same]

theorem scan_stuck (stuck : readToken stack state cs = .failed ∨ readToken stack state cs = .eof) :
    scan l fuel depth count ⟨cs, state, stack⟩ = none := by
  cases fuel <;> rcases stuck with stuck | stuck <;> simp [scan, token, stuck]

/-! #### Values -/

theorem items_skip (fuel : Nat) (cs : List Char) : items fuel (skip cs) = items fuel cs := by
  cases fuel with
  | zero => rfl
  | succ fuel => cases fuel <;> simp [items, value, skip_skip]

theorem members_skip (fuel : Nat) (cs : List Char) : members fuel (skip cs) = members fuel cs := by
  cases fuel <;> simp [members, skip_skip]

theorem items_missing (missing : ∀ fuel, value fuel cs = none) : items fuel cs = none := by
  cases fuel <;> simp [items, missing]

theorem value_open_array (next : skip cs = '[' :: rest) : value (fuel + 1) cs =
    (left ']' (items fuel) .arrayStart rest).map fun q => (.array q.1, q.2) := by
  simp only [value, next, left]
  have same := items_skip fuel rest
  cases after : skip rest with
  | nil =>
    have missing : ∀ fuel, value fuel [] = none := fun fuel => value_none fuel (by simp [skip])
    simp [items_missing missing]
  | cons c r =>
    rw [after] at same
    simp only [upNext, Option.bind_some]
    grind

theorem value_open_object (next : skip cs = '{' :: rest) : value (fuel + 1) cs =
    (left '}' (members fuel) .objectStart rest).map fun q => (.object q.1, q.2) := by
  simp only [value, next, left]
  have same := members_skip fuel rest
  cases after : skip rest with
  | nil => cases fuel <;> simp [members, skip]
  | cons c r =>
    rw [after] at same
    simp only [upNext, Option.bind_some]
    grind

/-- Only a bracket opens an array or an object. -/
theorem value_plain {x : Json} (plain : ∀ r, skip cs ≠ '[' :: r ∧ skip cs ≠ '{' :: r)
    (read : value 1 cs = some (x, rest)) : (∀ xs, x ≠ .array xs) ∧ ∀ ms, x ≠ .object ms := by
  rw [value] at read
  split at read <;> simp_all <;> grind

theorem scan_scalar {c : Char} (allowed : state.valueAllowed = true)
    (starts : l.stops depth count = false) (next : skip cs = c :: rest)
    (plain : c ≠ '[' ∧ c ≠ '{' ∧ c ≠ ']') : scan l (fuel + 1) depth count ⟨cs, state, stack⟩ =
      checked (check l depth count) state.valueEnd stack (value (fuel + 1) cs) := by
  have bare : ∀ r, skip cs ≠ '[' :: r ∧ skip cs ≠ '{' :: r := by simp_all
  rw [scan, token, readToken_scalar allowed next plain, value_scalar fuel bare, scalar]
  cases read : value 1 cs with
  | none => simp [checked]
  | some p =>
    obtain ⟨x, r⟩ := p
    have leaf := value_plain bare read
    cases x with
    | array xs => exact absurd rfl (leaf.1 xs)
    | object ms => exact absurd rfl (leaf.2 ms)
    | string text =>
      by_cases fine : l.objectOnly depth || !l.text text <;> simp_all [checked, check]
    | null | bool | number =>
      by_cases any : l.objectOnly depth <;> simp [checked, check, starts, any]

theorem Scanned.value_succ (scanned : Scanned l fuel) (depth count : Nat) (cs : List Char)
    (state : TokenState) (stack : List TokenState) (allowed : state.valueAllowed = true) :
    scan l (fuel + 1) depth count ⟨cs, state, stack⟩ =
      checked (check l depth count) state.valueEnd stack (Json.value (fuel + 1) cs) := by
  cases starts : l.stops depth count with
  | true =>
    rw [scan, if_pos starts, checked_none]
    intro x
    cases x <;> simp [check, starts]
  | false =>
    cases next : skip cs with
    | nil =>
      rw [scan_stuck (.inr (readToken_nil next)), value_none _ (by simp [next])]
      rfl
    | cons c rest =>
      by_cases array : c = '['
      · subst array
        rw [value_open_array next, checked_map, scan, token,
          (readToken_open allowed).1 next]
        by_cases any : l.objectOnly depth
        · rw [checked_none (by simp [check, any])]
          simp [any]
        · simp [starts, any, scanned.items, check]
      by_cases object : c = '{'
      · subst object
        rw [value_open_object next, checked_map, scan, token,
          (readToken_open allowed).2 next]
        simp [starts, scanned.members, check]
      by_cases close : c = ']'
      · subst close
        rw [value_none _ (by simp [next]), scan, token, readToken_skip, next, readToken]
        cases stack <;> cases state <;> simp [isSpace, closeRead, checked]
      · exact scan_scalar allowed starts next ⟨array, object, close⟩

/-! #### Elements and members -/

/-- An element or member is scanned, then those after it. -/
theorem next_checked {α : Type} (add : Json → List α → List α) {all : List α → Option Nat}
    {others : Nat → List α → Option Nat} {refused : Bool} {c : Char}
    {scanOthers : Nat → Decoder → Option (Nat × Decoder)}
    {after : List Char → Option (List α × List Char)} {d : Decoder}
    (passes : ∀ x xs, all (add x xs) = if refused then none
      else (check l (depth + 1) (count + 1) x).bind fun count => others count xs)
    (first : scan l fuel (depth + 1) (count + 1) d =
      checked (check l (depth + 1) (count + 1)) state stack (value fuel cs))
    (scanned : ∀ count cs, (scanOthers count ⟨cs, state, stack⟩).bind (closing c) =
      checked (others count) outer below (after cs)) :
    (if refused then none
      else (scan l fuel (depth + 1) (count + 1) d).bind fun p => scanOthers p.1 p.2).bind
        (closing c) =
      checked all outer below ((value fuel cs).bind fun p =>
        (after p.2).map fun q => (add p.1 q.1, q.2)) := by
  rw [first]
  cases value fuel cs with
  | none => simp [checked]
  | some p =>
    cases refused with
    | true => cases rest : after p.2 <;> simp [checked, passes, rest]
    | false =>
      cases fine : check l (depth + 1) (count + 1) p.1 with
      | none => cases rest : after p.2 <;> simp [checked, passes, fine, rest]
      | some count' =>
        simp only [checked, fine, Option.bind_some, Option.map_some, Bool.false_eq_true, if_false]
        rw [scanned]
        cases after p.2 <;> simp [checked, passes, fine]

theorem items_succ (fuel : Nat) (cs : List Char) : items (fuel + 1) cs =
    (value fuel cs).bind fun p =>
      (left ']' (items fuel) .arrayComma p.2).map fun q => (p.1 :: q.1, q.2) := by
  rw [items]
  cases value fuel cs with
  | none => rfl
  | some p =>
    simp only [Option.bind_eq_bind, Option.bind_some, left, upNext]
    cases skip p.2 with
    | nil => rfl
    | cons c r => grind

theorem items_close (fuel : Nat) (inside : state = .arrayStart ∨ state = .arrayComma)
    (last : Decoder.more ⟨cs, state, outer :: stack⟩ = false) :
    (scanItems l fuel depth count ⟨cs, state, outer :: stack⟩).bind (closing ']') =
      checked (checkItems l depth count) outer.valueEnd stack
        (left ']' (items fuel) state cs) := by
  have ends : scanItems l fuel depth count ⟨cs, state, outer :: stack⟩ =
      some (count, ⟨cs, state, outer :: stack⟩) := by
    cases fuel <;> simp [scanItems, last]
  rw [ends, Option.bind_some, closing, token, left]
  cases next : skip cs with
  | nil => simp [readToken_nil next, checked]
  | cons c rest =>
    by_cases close : c = ']'
    · subst close
      simp [readToken_close_array inside next, closeRead, checked, checkItems]
    · obtain rfl : c = '}' := by simpa [Decoder.more, next, close] using last
      have failed : readToken (outer :: stack) state cs = .failed := by
        rw [readToken_skip, next, readToken]
        rcases inside with rfl | rfl <;> simp [isSpace]
      have missing : ∀ fuel, value fuel cs = none := fun fuel => value_none fuel (by simp [next])
      rcases inside with rfl | rfl <;>
        simp [failed, upNext, next, items_missing missing, checked]

theorem Scanned.items_succ (scanned : Scanned l fuel) (depth count : Nat) (cs : List Char)
    (state outer : TokenState) (stack : List TokenState)
    (inside : state = .arrayStart ∨ state = .arrayComma) :
    (scanItems l (fuel + 1) depth count ⟨cs, state, outer :: stack⟩).bind (closing ']') =
      checked (checkItems l depth count) outer.valueEnd stack
        (left ']' (Json.items (fuel + 1)) state cs) := by
  cases more : Decoder.more ⟨cs, state, outer :: stack⟩ with
  | false => exact items_close _ inside more
  | true =>
    obtain ⟨c, rest, next, close, _⟩ := more_next more
    rw [scanItems, if_pos more, left, next]
    simp only [close, if_false]
    have element : ∀ next state', state'.valueAllowed = true → state'.valueEnd = .arrayComma →
        readToken (outer :: stack) state cs = readToken (outer :: stack) state' next →
        (if l.full count then none
          else (scan l fuel (depth + 1) (count + 1) ⟨cs, state, outer :: stack⟩).bind
            fun p => scanItems l fuel depth p.1 p.2).bind (closing ']') =
          checked (checkItems l depth count) outer.valueEnd stack (Json.items (fuel + 1) next) := by
      intro next state' allowed ends same
      rw [Json.items_succ]
      refine next_checked List.cons (fun x xs => by rw [checkItems]) ?_
        fun count cs => scanned.items _ count cs _ _ _ (.inr rfl)
      rw [scan_token same, scanned.value _ _ _ _ _ allowed, ends]
    rcases inside with rfl | rfl
    · exact element cs .arrayStart rfl rfl rfl
    by_cases comma : c = ','
    · subst comma
      simpa [upNext, next] using element rest .arrayValue rfl rfl (readToken_comma next).1
    · rw [scan_stuck (.inl (readToken_failed next (.inl ⟨rfl, close, comma⟩)))]
      simp [upNext, next, comma, checked]

theorem members_keyed {name : String} {r v : List Char} (next : skip cs = '"' :: rest)
    (key : stringBody none [] rest = some (name, r)) (colon : skip r = ':' :: v) :
    members (fuel + 1) cs = (value fuel v).bind fun p =>
      (left '}' (members fuel) .objectComma p.2).map fun q => ((name, p.1) :: q.1, q.2) := by
  simp only [members, next, key, colon, Option.bind_eq_bind, Option.bind_some]
  cases value fuel v with
  | none => rfl
  | some p =>
    simp only [Option.bind_some, left, upNext]
    cases skip p.2 with
    | nil => rfl
    | cons c r => grind

theorem members_missing (missing : ∀ r, skip cs ≠ '"' :: r) : members fuel cs = none := by
  cases fuel with
  | zero => rfl
  | succ fuel =>
    rw [members]
    split <;> simp_all

/-- The name of a member is read, then its value. -/
theorem Scanned.keyed (scanned : Scanned l fuel)
    (expected : state = .objectKey ∨ state = .objectStart ∧ ∀ r, skip cs ≠ '}' :: r) :
    (match readToken (outer :: stack) state cs with
      | .token (.string name) d =>
        if l.refuses depth seen count name then none
        else (scan l fuel (depth + 1) (count + 1) d).bind fun (count, d) =>
          scanMembers l fuel depth (name :: seen) count d
      | _ => none).bind (closing '}') =
      checked (checkMembers l depth seen count) outer.valueEnd stack
        (Json.members (fuel + 1) cs) := by
  cases next : skip cs with
  | nil => simp [readToken_nil next, members_missing, next, checked]
  | cons c rest =>
    by_cases quote : c = '"'
    · subst quote
      rw [readToken_key (by tauto) next]
      cases key : stringBody none [] rest with
      | none => simp [Json.members, next, key, checked]
      | some p =>
        obtain ⟨name, r⟩ := p
        by_cases colon : ∃ v, skip r = ':' :: v
        · obtain ⟨v, colon⟩ := colon
          rw [members_keyed next key colon]
          refine next_checked (fun x ms => (name, x) :: ms) (fun x xs => by rw [checkMembers]) ?_
            fun count cs => scanned.members _ (name :: seen) count cs _ _ _ (.inr rfl)
          rw [scan_token (readToken_colon colon)]
          exact scanned.value _ _ v .objectValue _ rfl
        · have stuck : readToken (outer :: stack) .objectColon r = .failed ∨
              readToken (outer :: stack) .objectColon r = .eof := by
            cases other : skip r with
            | nil => exact .inr (readToken_nil other)
            | cons c v => exact .inl (readToken_failed other (by simp_all))
          have missing : Json.members (fuel + 1) cs = none := by
            simp only [Json.members, next, key]
            grind
          simp [scan_stuck stuck, missing, checked]
    · have failed : readToken (outer :: stack) state cs = .failed :=
        readToken_failed next (by rcases expected with rfl | ⟨rfl, _⟩ <;> simp_all)
      simp [failed, members_missing, next, quote, checked]

theorem members_close (fuel : Nat) (inside : state = .objectStart ∨ state = .objectComma)
    (last : Decoder.more ⟨cs, state, outer :: stack⟩ = false) :
    (scanMembers l fuel depth seen count ⟨cs, state, outer :: stack⟩).bind (closing '}') =
      checked (checkMembers l depth seen count) outer.valueEnd stack
        (left '}' (members fuel) state cs) := by
  have ends : scanMembers l fuel depth seen count ⟨cs, state, outer :: stack⟩ =
      some (count, ⟨cs, state, outer :: stack⟩) := by
    cases fuel <;> simp [scanMembers, last]
  rw [ends, Option.bind_some, closing, token, left]
  cases next : skip cs with
  | nil => simp [readToken_nil next, checked]
  | cons c rest =>
    by_cases close : c = '}'
    · subst close
      simp [readToken_close_object inside next, closeRead, checked, checkMembers]
    · obtain rfl : c = ']' := by simpa [Decoder.more, next, close] using last
      have failed : readToken (outer :: stack) state cs = .failed :=
        readToken_failed next (by rcases inside with rfl | rfl <;> simp)
      rcases inside with rfl | rfl <;>
        simp [failed, upNext, next, members_missing, checked]

theorem Scanned.members_succ (scanned : Scanned l fuel) (depth : Nat) (seen : List String)
    (count : Nat) (cs : List Char) (state outer : TokenState) (stack : List TokenState)
    (inside : state = .objectStart ∨ state = .objectComma) :
    (scanMembers l (fuel + 1) depth seen count ⟨cs, state, outer :: stack⟩).bind (closing '}') =
      checked (checkMembers l depth seen count) outer.valueEnd stack
        (left '}' (Json.members (fuel + 1)) state cs) := by
  cases more : Decoder.more ⟨cs, state, outer :: stack⟩ with
  | false => exact members_close _ inside more
  | true =>
    obtain ⟨c, rest, next, _, close⟩ := more_next more
    rw [scanMembers, if_pos more, left, next, token]
    simp only [close, if_false]
    rcases inside with rfl | rfl
    · exact scanned.keyed (.inr ⟨rfl, by simp_all⟩)
    by_cases comma : c = ','
    · subst comma
      rw [(readToken_comma next).2]
      simpa [upNext, next] using scanned.keyed (.inl rfl)
    · simp [readToken_failed next (.inr (.inl ⟨rfl, close, comma⟩)), upNext, next, comma, checked]

theorem scanned (l : ScanLimits) (fuel : Nat) : Scanned l fuel := by
  induction fuel with
  | succ fuel ih => exact ⟨ih.value_succ, ih.items_succ, ih.members_succ⟩
  | zero =>
    refine ⟨fun _ _ _ _ _ _ => by simp [scan, value, checked], ?_, ?_⟩
    · intro depth count cs state outer stack inside
      cases more : Decoder.more ⟨cs, state, outer :: stack⟩ with
      | false => exact items_close _ inside more
      | true =>
        obtain ⟨c, rest, next, close, _⟩ := more_next more
        simp [scanItems, more, left, next, close, items, checked]
    · intro depth seen count cs state outer stack inside
      cases more : Decoder.more ⟨cs, state, outer :: stack⟩ with
      | false => exact members_close _ inside more
      | true =>
        obtain ⟨c, rest, next, _, close⟩ := more_next more
        simp [scanMembers, more, left, next, close, members, checked]

/-- A scan accepts the texts that are one value that passes. -/
theorem scans_iff (l : ScanLimits) (cs : List Char) : scans l cs = true ↔
    ∃ x, decodeChars cs = some x ∧ (check l 0 0 x).isSome := by
  have ends : ∀ cs, readToken [] .topValue cs = .eof ↔ skip cs = [] := by
    intro cs
    cases next : skip cs with
    | nil => simp [readToken_nil next]
    | cons c rest =>
      rw [readToken_skip, next, readToken, skip_visible next]
      simp only [TokenState.valueAllowed, reduceCtorEq, iff_false]
      grind
  rw [scans, new, (scanned l _).value _ _ _ _ _ rfl, decodeChars]
  cases value (cs.length + 1) cs with
  | none => simp [checked]
  | some p =>
    cases passes : check l 0 0 p.1 <;>
      simp [checked, passes, token, TokenState.valueEnd, ends]

end Scanning
end ThinkPixelAR.Json
