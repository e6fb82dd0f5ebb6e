import ThinkPixelAR.Domain.JsonGrammar

/-!
The token decoder of `encoding/json`: `Decoder.Token` and `Decoder.More` over the characters
of a text. A decoder keeps where it is in the innermost array or object and, on a stack, in
those around it; a separator is consumed with the token after it.
-/
namespace ThinkPixelAR.Json

inductive Token where
  | delim (c : Char)
  | string (text : String)
  | number (text : String)
  | bool (value : Bool)
  | null
deriving DecidableEq

inductive TokenState where
  | topValue
  | arrayStart
  | arrayValue
  | arrayComma
  | objectStart
  | objectKey
  | objectColon
  | objectValue
  | objectComma
deriving DecidableEq

namespace TokenState

/-- `tokenValueAllowed`. -/
def valueAllowed : TokenState → Bool
  | topValue | arrayStart | arrayValue | objectValue => true
  | _ => false

/-- `tokenValueEnd`. -/
def valueEnd : TokenState → TokenState
  | arrayStart | arrayValue => arrayComma
  | objectValue => objectComma
  | state => state

end TokenState

structure Decoder where
  rest : List Char
  state : TokenState
  stack : List TokenState
deriving DecidableEq

/-- What `Token` returns: the error at the end of the text, another error, or a token. -/
inductive TokenRead where
  | eof
  | failed
  | token (t : Token) (d : Decoder)
deriving DecidableEq

/-- A value that is neither an array nor an object. -/
def scalar (cs : List Char) : Option (Token × List Char) :=
  match value 1 cs with
  | some (.null, rest) => some (.null, rest)
  | some (.bool b, rest) => some (.bool b, rest)
  | some (.number text, rest) => some (.number text, rest)
  | some (.string text, rest) => some (.string text, rest)
  | _ => none

/-- The closing of the innermost array or object. -/
def closeRead (c : Char) (rest : List Char) : List TokenState → TokenRead
  | [] => .failed
  | outer :: stack => .token (.delim c) ⟨rest, outer.valueEnd, stack⟩

@[grind =] def readToken (stack : List TokenState) : TokenState → List Char → TokenRead
  | _, [] => .eof
  | state, c :: rest =>
    if isSpace c then readToken stack state rest
    else if c = '[' then
      if state.valueAllowed then .token (.delim '[') ⟨rest, .arrayStart, state :: stack⟩
      else .failed
    else if c = ']' then
      if state = .arrayStart || state = .arrayComma then closeRead ']' rest stack else .failed
    else if c = '{' then
      if state.valueAllowed then .token (.delim '{') ⟨rest, .objectStart, state :: stack⟩
      else .failed
    else if c = '}' then
      if state = .objectStart || state = .objectComma then closeRead '}' rest stack else .failed
    else if c = ':' then
      if state = .objectColon then readToken stack .objectValue rest else .failed
    else if c = ',' then
      if state = .arrayComma then readToken stack .arrayValue rest
      else if state = .objectComma then readToken stack .objectKey rest
      else .failed
    else if c = '"' && (state = .objectStart || state = .objectKey) then
      match stringBody none [] rest with
      | some (name, rest) => .token (.string name) ⟨rest, .objectColon, stack⟩
      | none => .failed
    else if state.valueAllowed then
      match scalar (c :: rest) with
      | some (t, rest) => .token t ⟨rest, state.valueEnd, stack⟩
      | none => .failed
    else .failed

namespace Decoder

def new (cs : List Char) : Decoder := ⟨cs, .topValue, []⟩

/-- `Token`. -/
def token (d : Decoder) : TokenRead := readToken d.stack d.state d.rest

/-- `More`. -/
def more (d : Decoder) : Bool :=
  match skip d.rest with
  | [] => false
  | c :: _ => c ≠ ']' && c ≠ '}'

end Decoder

/-! ### One token, by the state and the next visible character -/

section Tokens
variable {stack : List TokenState} {state : TokenState} {cs rest : List Char} {c : Char}

theorem readToken_skip (stack : List TokenState) (state : TokenState) (cs : List Char) :
    readToken stack state cs = readToken stack state (skip cs) := by
  induction cs with
  | nil => rfl
  | cons c cs ih =>
    by_cases space : isSpace c
    · simpa [readToken, skip, space] using ih
    · simp [skip, space]

theorem skip_visible (next : skip cs = c :: rest) : isSpace c = false := by
  have again := skip_skip cs
  rw [next] at again
  by_contra space
  rw [Bool.not_eq_false] at space
  have shorter := skip_length rest
  have same := congrArg List.length again
  simp only [skip, List.dropWhile_cons, space, if_true, List.length_cons] at same shorter
  omega

theorem readToken_nil (next : skip cs = []) : readToken stack state cs = .eof := by
  rw [readToken_skip, next, readToken]

theorem readToken_open (allowed : state.valueAllowed) :
    (skip cs = '[' :: rest →
      readToken stack state cs = .token (.delim '[') ⟨rest, .arrayStart, state :: stack⟩) ∧
    (skip cs = '{' :: rest →
      readToken stack state cs = .token (.delim '{') ⟨rest, .objectStart, state :: stack⟩) := by
  constructor <;> intro next <;> rw [readToken_skip, next, readToken] <;> simp [allowed, isSpace]

theorem readToken_close_array (inside : state = .arrayStart ∨ state = .arrayComma)
    (next : skip cs = ']' :: rest) : readToken stack state cs = closeRead ']' rest stack := by
  rw [readToken_skip, next, readToken]
  simp [inside, isSpace]

theorem readToken_close_object (inside : state = .objectStart ∨ state = .objectComma)
    (next : skip cs = '}' :: rest) : readToken stack state cs = closeRead '}' rest stack := by
  rw [readToken_skip, next, readToken]
  simp [inside, isSpace]

/-- A separator is consumed where it is due. -/
theorem readToken_comma (next : skip cs = ',' :: rest) :
    readToken stack .arrayComma cs = readToken stack .arrayValue rest ∧
      readToken stack .objectComma cs = readToken stack .objectKey rest := by
  constructor <;> rw [readToken_skip, next, readToken] <;> simp [isSpace]

theorem readToken_colon (next : skip cs = ':' :: rest) :
    readToken stack .objectColon cs = readToken stack .objectValue rest := by
  rw [readToken_skip, next, readToken]
  simp [isSpace]

theorem readToken_key (expected : state = .objectStart ∨ state = .objectKey)
    (next : skip cs = '"' :: rest) : readToken stack state cs =
      match stringBody none [] rest with
      | some (name, rest) => .token (.string name) ⟨rest, .objectColon, stack⟩
      | none => .failed := by
  rw [readToken_skip, next, readToken]
  simp [isSpace, expected]

/-- Where a separator, a name or a bracket is due, nothing else is read. -/
theorem readToken_failed (next : skip cs = c :: rest)
    (due : (state = .arrayComma ∧ c ≠ ']' ∧ c ≠ ',') ∨ (state = .objectComma ∧ c ≠ '}' ∧ c ≠ ',') ∨
      (state = .objectColon ∧ c ≠ ':') ∨ (state = .objectKey ∧ c ≠ '"') ∨
      (state = .objectStart ∧ c ≠ '"' ∧ c ≠ '}')) :
    readToken stack state cs = .failed := by
  rw [readToken_skip, next, readToken, skip_visible next]
  rcases due with ⟨rfl, other⟩ | ⟨rfl, other⟩ | ⟨rfl, other⟩ | ⟨rfl, other⟩ | ⟨rfl, other⟩ <;>
    simp [TokenState.valueAllowed, other]

/-- A value that is neither an array nor an object takes no fuel. -/
theorem value_scalar (fuel : Nat) (plain : ∀ r, skip cs ≠ '[' :: r ∧ skip cs ≠ '{' :: r) :
    value (fuel + 1) cs = value 1 cs := by
  simp only [value]
  split <;> simp_all

theorem value_none (fuel : Nat) (special : ∀ c r, skip cs = c :: r → c ∈ [']', '}', ':', ',']) :
    value fuel cs = none := by
  cases fuel with
  | zero => simp [value]
  | succ fuel =>
    cases next : skip cs with
    | nil => simp [value, next, numberBody, integerPart, digits1, digits]
    | cons c r =>
      have closes := special c r next
      simp only [List.mem_cons, List.not_mem_nil, or_false] at closes
      have number : numberBody (c :: r) = none := by
        apply numberBody_none
        rcases closes with rfl | rfl | rfl | rfl <;> decide
      rcases closes with rfl | rfl | rfl | rfl <;> simp [value, next, number]

theorem scalar_skip (cs : List Char) : scalar (skip cs) = scalar cs := by
  simp [scalar, value, skip_skip]

theorem readToken_scalar (allowed : state.valueAllowed) (next : skip cs = c :: rest)
    (plain : c ≠ '[' ∧ c ≠ '{' ∧ c ≠ ']') : readToken stack state cs =
      match scalar cs with
      | some (t, rest) => .token t ⟨rest, state.valueEnd, stack⟩
      | none => .failed := by
  have failed : c ∈ ['}', ':', ','] → scalar cs = none := by
    intro special
    have missing : value 1 cs = none := value_none 1 (by simp_all)
    simp [scalar, missing]
  have read := scalar_skip cs
  rw [next] at read
  rw [readToken_skip, next, readToken, skip_visible next, read]
  cases state <;> simp_all [TokenState.valueAllowed] <;> grind

end Tokens
end ThinkPixelAR.Json
