import ThinkPixelAR.Domain.Primitives

/-!
JSON texts as `encoding/json` reads them: the grammar of RFC 8259 over the
characters of a text. Objects keep their members in order, duplicates included,
because `consumeJSON` refuses duplicates while `json.Unmarshal` does not.
Recursion is bounded by a fuel argument; `decode` supplies the text length,
which no nesting exceeds.
-/
namespace ThinkPixelAR

inductive Json where
  | null
  | bool (value : Bool)
  | number (text : String)
  | string (text : String)
  | array (items : List Json)
  | object (members : List (String × Json))

namespace Json

def isSpace (c : Char) : Bool := c = ' ' || c = '\t' || c = '\n' || c = '\r'

def skip (cs : List Char) : List Char := cs.dropWhile isSpace

def hexDigit (c : Char) : Option Nat :=
  if c.isDigit then some (c.toNat - 48)
  else if 97 ≤ c.toNat && c.toNat ≤ 102 then some (c.toNat - 87)
  else if 65 ≤ c.toNat && c.toNat ≤ 70 then some (c.toNat - 55)
  else none

/-- A UTF-16 code unit written with four hexadecimal digits. -/
def hex4 (a b c d : Char) : Option Nat := do
  let a ← hexDigit a
  let b ← hexDigit b
  let c ← hexDigit c
  let d ← hexDigit d
  return ((a * 16 + b) * 16 + c) * 16 + d

def simpleEscape : Char → Option Char
  | '"' => some '"'
  | '\\' => some '\\'
  | '/' => some '/'
  | 'b' => some '\x08'
  | 'f' => some '\x0c'
  | 'n' => some '\n'
  | 'r' => some '\r'
  | 't' => some '\t'
  | _ => none

def isHighSurrogate (n : Nat) : Bool := 0xd800 ≤ n && n < 0xdc00
def isLowSurrogate (n : Nat) : Bool := 0xdc00 ≤ n && n < 0xe000

/-- An unpaired high surrogate becomes the replacement character, as in Go. -/
def flush (high : Option Nat) (acc : List Char) : List Char :=
  if high.isSome then '�' :: acc else acc

/-- Append a code unit to the reversed text; a high surrogate waits for its pair. -/
def push (high : Option Nat) (acc : List Char) (unit : Nat) : Option Nat × List Char :=
  if isHighSurrogate unit then (some unit, flush high acc)
  else if isLowSurrogate unit then
    match high with
    | some hi => (none, Char.ofNat (0x10000 + (hi - 0xd800) * 1024 + (unit - 0xdc00)) :: acc)
    | none => (none, '�' :: acc)
  else (none, Char.ofNat unit :: flush high acc)

/-- The rest of a string literal after its opening quote. -/
def stringBody (high : Option Nat) (acc : List Char) : List Char → Option (String × List Char)
  | [] => none
  | '"' :: rest => some (String.ofList (flush high acc).reverse, rest)
  | '\\' :: 'u' :: a :: b :: c :: d :: rest =>
    match hex4 a b c d with
    | some n => stringBody (push high acc n).1 (push high acc n).2 rest
    | none => none
  | '\\' :: c :: rest =>
    match simpleEscape c with
    | some e => stringBody none (e :: flush high acc) rest
    | none => none
  | c :: rest => if c.toNat < 32 then none else stringBody none (c :: flush high acc) rest

def digits (cs : List Char) : List Char × List Char := cs.span Char.isDigit

/-- At least one digit. -/
def digits1 (cs : List Char) : Option (List Char × List Char) :=
  match digits cs with
  | ([], _) => none
  | found => some found

/-- The integer part: no leading zero unless it is the only digit. -/
def integerPart : List Char → Option (List Char × List Char)
  | '0' :: rest => some (['0'], rest)
  | cs => digits1 cs

def fraction : List Char → Option (List Char × List Char)
  | '.' :: rest => (digits1 rest).map fun (ds, r) => ('.' :: ds, r)
  | cs => some ([], cs)

def exponent : List Char → Option (List Char × List Char)
  | c :: rest =>
    if c = 'e' || c = 'E' then
      match rest with
      | '+' :: r => (digits1 r).map fun (ds, r) => (c :: '+' :: ds, r)
      | '-' :: r => (digits1 r).map fun (ds, r) => (c :: '-' :: ds, r)
      | r => (digits1 r).map fun (ds, r) => (c :: ds, r)
    else some ([], c :: rest)
  | [] => some ([], [])

def numberBody (cs : List Char) : Option (String × List Char) := do
  let (sign, cs) := match cs with
    | '-' :: rest => (['-'], rest)
    | cs => ([], cs)
  let (whole, cs) ← integerPart cs
  let (frac, cs) ← fraction cs
  let (expo, cs) ← exponent cs
  return (String.ofList (sign ++ whole ++ frac ++ expo), cs)

mutual

def value : Nat → List Char → Option (Json × List Char)
  | 0, _ => none
  | fuel + 1, cs =>
    match skip cs with
    | 'n' :: 'u' :: 'l' :: 'l' :: rest => some (.null, rest)
    | 't' :: 'r' :: 'u' :: 'e' :: rest => some (.bool true, rest)
    | 'f' :: 'a' :: 'l' :: 's' :: 'e' :: rest => some (.bool false, rest)
    | '"' :: rest => (stringBody none [] rest).map fun (s, r) => (.string s, r)
    | '[' :: rest =>
      match skip rest with
      | ']' :: r => some (.array [], r)
      | r => (items fuel r).map fun (xs, r) => (.array xs, r)
    | '{' :: rest =>
      match skip rest with
      | '}' :: r => some (.object [], r)
      | r => (members fuel r).map fun (xs, r) => (.object xs, r)
    | rest => (numberBody rest).map fun (s, r) => (.number s, r)

/-- One or more array elements up to the closing bracket. -/
def items : Nat → List Char → Option (List Json × List Char)
  | 0, _ => none
  | fuel + 1, cs => do
    let (x, rest) ← value fuel cs
    match skip rest with
    | ',' :: r => (items fuel r).map fun (xs, r) => (x :: xs, r)
    | ']' :: r => some ([x], r)
    | _ => none

/-- One or more object members up to the closing brace. -/
def members : Nat → List Char → Option (List (String × Json) × List Char)
  | 0, _ => none
  | fuel + 1, cs =>
    match skip cs with
    | '"' :: rest => do
      let (name, rest) ← stringBody none [] rest
      match skip rest with
      | ':' :: r => do
        let (x, rest) ← value fuel r
        match skip rest with
        | ',' :: r => (members fuel r).map fun (xs, r) => ((name, x) :: xs, r)
        | '}' :: r => some ([(name, x)], r)
        | _ => none
      | _ => none
    | _ => none

end

/-- The value of a character sequence that is exactly one JSON value. -/
def decodeChars (cs : List Char) : Option Json :=
  match value (cs.length + 1) cs with
  | some (x, rest) => if (skip rest).isEmpty then some x else none
  | none => none

def decode (text : String) : Option Json := decodeChars text.toList

def isObject : Json → Bool
  | .object _ => true
  | _ => false

def hexChar (n : Nat) : Char := Char.ofNat (if n < 10 then 48 + n else 87 + n)

/-- The low `digits` hexadecimal digits of a number. -/
def hexText : Nat → Nat → List Char
  | 0, _ => []
  | digits + 1, n => hexText digits (n / 16) ++ [hexChar (n % 16)]

theorem hexChar_injOn : ∀ a < 16, ∀ b < 16, hexChar a = hexChar b → a = b := by decide

theorem hexChar_ascii : ∀ a < 16, (hexChar a).toNat < 128 := by decide

@[simp] theorem hexText_length (digits n : Nat) : (hexText digits n).length = digits := by
  induction digits generalizing n with
  | zero => rfl
  | succ digits ih => simp [hexText, ih]

theorem hexText_ascii {digits n : Nat} {c : Char} (found : c ∈ hexText digits n) :
    c.toNat < 128 := by
  induction digits generalizing n with
  | zero => simp [hexText] at found
  | succ digits ih =>
    rw [hexText, List.mem_append, List.mem_singleton] at found
    rcases found with front | rfl
    · exact ih front
    · exact hexChar_ascii _ (Nat.mod_lt _ (by decide))

/-- The digits determine the number up to the digits left out. -/
theorem hexText_mod {digits m n : Nat} (same : hexText digits m = hexText digits n) :
    m % 16 ^ digits = n % 16 ^ digits := by
  induction digits generalizing m n with
  | zero => simp [Nat.mod_one]
  | succ digits ih =>
    obtain ⟨front, last⟩ := List.append_inj' same rfl
    have low := hexChar_injOn _ (Nat.mod_lt m (by decide)) _ (Nat.mod_lt n (by decide))
      (List.singleton_inj.mp last)
    rw [pow_succ', Nat.mod_mul, Nat.mod_mul, ih front, low]

/-- The HTML characters and the two line separators are always written as escapes. -/
def escapeHTML (c : Char) : List Char :=
  if ['<', '>', '&'].contains c || c.toNat = 0x2028 || c.toNat = 0x2029 then
    '\\' :: 'u' :: hexText 4 c.toNat
  else [c]

def escape (c : Char) : List Char :=
  match c with
  | '"' => ['\\', '"']
  | '\\' => ['\\', '\\']
  | '\x08' => ['\\', 'b']
  | '\x0c' => ['\\', 'f']
  | '\n' => ['\\', 'n']
  | '\r' => ['\\', 'r']
  | '\t' => ['\\', 't']
  | c => if c.toNat < 32 then '\\' :: 'u' :: hexText 4 c.toNat else escapeHTML c

def quote (text : String) : List Char := '"' :: text.toList.flatMap escape ++ ['"']

mutual

def encodeChars : Json → List Char
  | .null => ['n', 'u', 'l', 'l']
  | .bool true => ['t', 'r', 'u', 'e']
  | .bool false => ['f', 'a', 'l', 's', 'e']
  | .number text => text.toList
  | .string text => quote text
  | .array items => '[' :: encodeItems items ++ [']']
  | .object members => '{' :: encodeMembers members ++ ['}']

def encodeItems : List Json → List Char
  | [] => []
  | [x] => encodeChars x
  | x :: xs => encodeChars x ++ ',' :: encodeItems xs

def encodeMembers : List (String × Json) → List Char
  | [] => []
  | [(name, x)] => quote name ++ ':' :: encodeChars x
  | (name, x) :: ms => quote name ++ ':' :: encodeChars x ++ ',' :: encodeMembers ms

end

/-- `json.Marshal`. -/
def encode (x : Json) : String := String.ofList x.encodeChars

/-- An unsigned integer. -/
def nat (n : Nat) : Json := .number (toString n)

/-- A valid JSON text without the white space outside its strings. -/
def compactChars (inString escaped : Bool) : List Char → List Char
  | [] => []
  | c :: rest =>
    if inString then
      escapeHTML c ++ compactChars (escaped || c ≠ '"') (!escaped && c = '\\') rest
    else if isSpace c then compactChars false false rest
    else escapeHTML c ++ compactChars (c = '"') false rest

/-- A `json.RawMessage`, which `json.Marshal` writes compacted. -/
def raw (text : String) : Json := .number (String.ofList (compactChars false false text.toList))

/-! ### Decoding into Go values -/

/-- The member a struct field is decoded from: the last one with its name, which is
compared without case. An absent member leaves the zero value, as `null` does. -/
def field (name : String) : Json → Option Json
  | .object members =>
    some ((members.reverse.find? fun m => m.1.toList.map Char.toLower = name.toList).elim .null
      (·.2))
  | .null => some .null
  | _ => none

def asString : Json → Option String
  | .string text => some text
  | .null => some ""
  | _ => none

def asStrings : Json → Option (List String)
  | .array items => items.mapM asString
  | .null => some []
  | _ => none

/-- The value of a nonempty sequence of digits. -/
def digitsValue (cs : List Char) : Option Nat :=
  if cs.isEmpty || !cs.all Char.isDigit then none
  else some (cs.foldl (fun n c => n * 10 + (c.toNat - 48)) 0)

/-- An `int64`: a literal without fraction and exponent, in range. -/
def asInt64 : Json → Option Int
  | .number text =>
    match text.toList with
    | '-' :: ds => (digitsValue ds).bind fun n => if n ≤ maxInt64 + 1 then some (-n) else none
    | ds => (digitsValue ds).bind fun n => if n ≤ maxInt64 then some n else none
  | .null => some 0
  | _ => none

def base64Char (n : Nat) : Char :=
  Char.ofNat (if n < 26 then 65 + n else if n < 52 then 71 + n else if n < 62 then n - 4
    else if n = 62 then 43 else 47)

/-- Standard padded base 64. -/
def base64Chars : List Nat → List Char
  | [] => []
  | [a] => [base64Char (a / 4), base64Char (a % 4 * 16), '=', '=']
  | [a, b] => [base64Char (a / 4), base64Char (a % 4 * 16 + b / 16), base64Char (b % 16 * 4), '=']
  | a :: b :: c :: rest =>
    base64Char (a / 4) :: base64Char (a % 4 * 16 + b / 16) ::
      base64Char (b % 16 * 4 + c / 64) :: base64Char (c % 64) :: base64Chars rest

/-- A `[]byte` field, which `json.Marshal` writes in base 64. -/
def bytes (text : String) : Json :=
  .string (String.ofList (base64Chars (text.toUTF8.toList.map UInt8.toNat)))

end Json

/-- The canonical text of a UUID. -/
def ID.text (id : ID) : String :=
  let hex (high width : Nat) := Json.hexText (width / 4) (id.bits.toNat / 2 ^ (high + 1 - width))
  String.ofList (hex 127 32 ++ '-' :: hex 95 16 ++ '-' :: hex 79 16 ++ '-' :: hex 63 16 ++
    '-' :: hex 47 48)

theorem ID.text_ascii {id : ID} {c : Char} (found : c ∈ id.text.toList) : c.toNat < 128 := by
  simp only [ID.text, String.toList_ofList, List.mem_append, List.mem_cons] at found
  rcases found with ((((h | rfl | h) | rfl | h) | rfl | h) | rfl | h) <;>
    first | exact Json.hexText_ascii h | decide

theorem ID.text_length (id : ID) : id.text.toList.length = 36 := by
  simp [ID.text, String.toList_ofList]

theorem ID.text_injective : Function.Injective ID.text := by
  intro a b same
  have chars := congrArg String.toList same
  simp only [ID.text, String.toList_ofList, List.append_assoc, List.cons_append] at chars
  obtain ⟨h1, chars⟩ := List.append_inj chars (by simp)
  obtain ⟨h2, chars⟩ := List.append_inj (List.cons.inj chars).2 (by simp)
  obtain ⟨h3, chars⟩ := List.append_inj (List.cons.inj chars).2 (by simp)
  obtain ⟨h4, chars⟩ := List.append_inj (List.cons.inj chars).2 (by simp)
  have h5 := (List.cons.inj chars).2
  have m1 := Json.hexText_mod h1
  have m2 := Json.hexText_mod h2
  have m3 := Json.hexText_mod h3
  have m4 := Json.hexText_mod h4
  have m5 := Json.hexText_mod h5
  simp only [Nat.reduceAdd, Nat.reduceSub, Nat.reduceDiv, Nat.reducePow] at m1 m2 m3 m4 m5
  have boundA := a.bits.isLt
  have boundB := b.bits.isLt
  have bits : a.bits.toNat = b.bits.toNat := by omega
  cases a
  cases b
  exact congrArg ID.mk (BitVec.eq_of_toNat_eq bits)

/-- The text of a digest. -/
def Digest.text (d : Digest) : String :=
  "sha256:" ++ String.ofList (Json.hexText 64 d.bits.toNat)

def idText : Option ID → String
  | some id => id.text
  | none => ""

def digestText : Option Digest → String
  | some d => d.text
  | none => ""

namespace Json

mutual

/-- Levels below a value; `empty` for an empty array or object. -/
def height (empty : Nat) : Json → Nat
  | .array items => if items.isEmpty then empty else heightItems empty items + 1
  | .object members => if members.isEmpty then empty else heightMembers empty members + 1
  | _ => 0

def heightItems (empty : Nat) : List Json → Nat
  | [] => 0
  | x :: xs => max (height empty x) (heightItems empty xs)

def heightMembers (empty : Nat) : List (String × Json) → Nat
  | [] => 0
  | (_, x) :: xs => max (height empty x) (heightMembers empty xs)

end

/-- The deepest nesting `encoding/json` scans. -/
def maxNestingDepth : Nat := 10000

end Json

/-- `json.Valid`. -/
def jsonValid (text : String) : Bool := (Json.decode text).any (·.height 1 ≤ Json.maxNestingDepth)

/-- `unicode.IsSpace`. -/
def isUnicodeSpace (c : Char) : Bool :=
  c = ' ' || c = '\t' || c = '\n' || c = '\x0b' || c = '\x0c' || c = '\r' ||
    [0x85, 0xa0, 0x1680, 0x2028, 0x2029, 0x202f, 0x205f, 0x3000].contains c.toNat ||
    (0x2000 ≤ c.toNat && c.toNat ≤ 0x200a)

/-- `bytes.TrimSpace`. -/
def trimSpace (cs : List Char) : List Char :=
  ((cs.dropWhile isUnicodeSpace).reverse.dropWhile isUnicodeSpace).reverse

/-- `validJSONObject` of the Session and Execution packages. -/
def validJSONObject (text : String) : Bool :=
  let trimmed := trimSpace text.toList
  let size := (trimmed.map Char.utf8Size).sum
  decide (2 ≤ size) && decide (size ≤ 65536) &&
    (Json.decodeChars trimmed).any fun x => x.isObject && x.height 1 ≤ Json.maxNestingDepth

end ThinkPixelAR
