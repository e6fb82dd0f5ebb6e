import ThinkPixelAR.Domain.Json

/-!
Frames of the Codex protocol (`internal/adapters/harness/codex`). The vendor writes one
JSON object per line. The adapter reads only the members it names, as raw texts, and
decodes each where it uses it; everything else of a frame is at most checked.

Lines are bytes. `encoding/json` puts the replacement character for every byte that is
not UTF-8, so a line is decoded that way first and scanned as characters; no text the
adapter compares with contains that character.
-/
namespace ThinkPixelAR

/-! ### Sizes of JSON values -/

namespace Json

mutual

/-- Elements and members at all levels. -/
def size : Json → Nat
  | .array items => sizeItems items
  | .object members => sizeMembers members
  | _ => 0

def sizeItems : List Json → Nat
  | [] => 0
  | x :: xs => 1 + size x + sizeItems xs

def sizeMembers : List (String × Json) → Nat
  | [] => 0
  | (_, x) :: xs => 1 + size x + sizeMembers xs

end

mutual

/-- No object at any level names a member twice. -/
def distinct : Json → Bool
  | .array items => distinctItems items
  | .object members => decide ((members.map Prod.fst).Nodup) && distinctMembers members
  | _ => true

def distinctItems : List Json → Bool
  | [] => true
  | x :: xs => distinct x && distinctItems xs

def distinctMembers : List (String × Json) → Bool
  | [] => true
  | (_, x) :: xs => distinct x && distinctMembers xs

end

end Json

/-! ### Errors of the harness port -/

namespace Harness

def errInvalid : Error := .new "harness INVALID_REQUEST"
def errUnsupported : Error := .new "harness CAPABILITY_UNAVAILABLE"
def errConflict : Error := .new "harness CONFLICT"
def errProtocol : Error := .new "harness PROTOCOL_VIOLATION"
def errOutcomeUnknown : Error := .new "harness OUTCOME_UNKNOWN"
def errStreamIntegrity : Error := .new "harness STREAM_INTEGRITY"
def errCheckpoint : Error := .new "harness CHECKPOINT_FAILED"

end Harness

namespace Codex

abbrev Bytes := List UInt8

/-- The bytes of a text. -/
def bytesOf (text : String) : Bytes := text.toByteArray.data.toList

/-! ### UTF-8 -/

/-- The payload of a continuation byte in the given range. -/
def continuation (low high : Nat) (b : Option UInt8) : Option Nat :=
  b.bind fun b => if low ≤ b.toNat ∧ b.toNat ≤ high then some (b.toNat % 64) else none

/-- `utf8.DecodeRune`: a character and its width; `none` is the error of width one. -/
def decodeRune (b : UInt8) (rest : Bytes) : Option (Char × Nat) :=
  let lead := b.toNat
  if lead < 0x80 then some (Char.ofNat lead, 1)
  else if 0xc2 ≤ lead && lead ≤ 0xdf then do
    let x ← continuation 0x80 0xbf rest[0]?
    return (Char.ofNat (lead % 32 * 64 + x), 2)
  else if 0xe0 ≤ lead && lead ≤ 0xef then do
    let low := if lead = 0xe0 then 0xa0 else 0x80
    let high := if lead = 0xed then 0x9f else 0xbf
    let x ← continuation low high rest[0]?
    let y ← continuation 0x80 0xbf rest[1]?
    return (Char.ofNat ((lead % 16 * 64 + x) * 64 + y), 3)
  else if 0xf0 ≤ lead && lead ≤ 0xf4 then do
    let low := if lead = 0xf0 then 0x90 else 0x80
    let high := if lead = 0xf4 then 0x8f else 0xbf
    let x ← continuation low high rest[0]?
    let y ← continuation 0x80 0xbf rest[1]?
    let z ← continuation 0x80 0xbf rest[2]?
    return (Char.ofNat (((lead % 8 * 64 + x) * 64 + y) * 64 + z), 4)
  else none

/-- The characters after `behind` bytes of a character already decoded. -/
def runesFrom : Nat → Bytes → List Char
  | _, [] => []
  | behind + 1, _ :: rest => runesFrom behind rest
  | 0, b :: rest =>
    match decodeRune b rest with
    | some (c, width) => c :: runesFrom (width - 1) rest
    | none => '�' :: runesFrom 0 rest

def runes : Bytes → List Char := runesFrom 0

def validUTF8From : Nat → Bytes → Bool
  | _, [] => true
  | behind + 1, _ :: rest => validUTF8From behind rest
  | 0, b :: rest =>
    match decodeRune b rest with
    | some (_, width) => validUTF8From (width - 1) rest
    | none => false

/-- `utf8.Valid`. -/
def validUTF8 : Bytes → Bool := validUTF8From 0

/-! ### Raw members -/

/-- A `json.RawMessage`: the text of one value. -/
abbrev Raw := List Char

/-- A `map[string]json.RawMessage`; an absent member is nil. -/
abbrev Fields := List (String × Raw)

/-- The text of the value a character sequence starts with, and what follows it. -/
def rawValue (cs : List Char) : Option (Raw × List Char) :=
  match Json.value (cs.length + 1) cs with
  | some (x, rest) =>
    if x.height 1 ≤ Json.maxNestingDepth then
      some ((Json.skip cs).take ((Json.skip cs).length - rest.length), rest)
    else none
  | none => none

/-- One or more members up to the closing brace. -/
def members : Nat → List Char → Option (Fields × List Char)
  | 0, _ => none
  | fuel + 1, cs =>
    match Json.skip cs with
    | '"' :: rest => do
      let (name, rest) ← Json.stringBody none [] rest
      match Json.skip rest with
      | ':' :: r => do
        let (value, rest) ← rawValue r
        match Json.skip rest with
        | ',' :: r => (members fuel r).map fun (ms, r) => ((name, value) :: ms, r)
        | '}' :: r => some ([(name, value)], r)
        | _ => none
      | _ => none
    | _ => none

/-- `object`: one object without duplicate names and nothing after it. -/
def object (cs : List Char) : Option Fields :=
  match Json.skip cs with
  | '{' :: rest =>
    match (match Json.skip rest with
      | '}' :: r => some ([], r)
      | r => members (r.length + 1) r) with
    | some (fields, rest) =>
      if (Json.skip rest).isEmpty && decide ((fields.map Prod.fst).Nodup) then some fields else none
    | none => none
  | _ => none

/-- `object` of a member, which is refused if it is absent. -/
def objectOf (raw : Option Raw) : Option Fields := raw.bind object

/-- `string(raw)`, empty for nil. -/
def textOf (raw : Option Raw) : List Char := raw.getD []

/-- `json.Unmarshal(raw, &s)` for a string; `null` leaves it empty. -/
def unmarshalString (raw : Option Raw) : Option String :=
  raw.bind fun r => (Json.decodeChars r).bind Json.asString

def unmarshalInt64 (raw : Option Raw) : Option Int :=
  raw.bind fun r => (Json.decodeChars r).bind Json.asInt64

/-- `field`: the text of a string member, empty in any other case. -/
def field (m : Fields) (key : String) : String := (unmarshalString (m.lookup key)).getD ""

/-- `keys`: every name is one of those allowed. -/
def keys (m : Fields) (allowed : List String) : Bool :=
  m.all fun member => allowed.contains member.1

/-! ### Lines -/

/-- `maxHandshakeBytes`, the size of the reader's buffer. -/
def maxHandshakeBytes : Nat := 65536

/-- `validateVendorJSON`: the whole frame is one bounded value. The source counts while
it scans; a frame it refuses in the middle is refused here at the end. -/
def validVendorJSON (raw : Bytes) : Bool :=
  !raw.isEmpty && decide (raw.length ≤ maxHandshakeBytes) && validUTF8 raw &&
    (Json.decodeChars (runes raw)).any fun x =>
      decide (x.height 0 ≤ 16) && decide (x.size ≤ 4096) && x.distinct

/-- `ReadSlice('\n')` of the lines still to come, each with its line feed. The end of
the input and a line longer than the buffer are read errors. -/
def readSlice : List Bytes → Option (Bytes × List Bytes)
  | [] => none
  | line :: rest => if line.length ≤ maxHandshakeBytes then some (line, rest) else none

/-- `Version`, the pinned release. -/
def version : String := "0.155.0"

/-- The characters of a UUID in lower-case hexadecimal digits. -/
def threadIDChars : Nat → List Char → Bool
  | _, [] => true
  | i, c :: rest =>
    (if i = 8 || i = 13 || i = 18 || i = 23 then decide (c = '-')
      else ('0' ≤ c && c ≤ '9') || ('a' ≤ c && c ≤ 'f')) && threadIDChars (i + 1) rest

/-- `ValidThreadID`. -/
def validThreadID (id : String) : Bool :=
  decide (id.utf8ByteSize = 36) && threadIDChars 0 id.toList

/-- `filepath.IsAbs(path) && filepath.Clean(path) == path`: the root, or a rooted path
whose components `Clean` keeps. -/
def cleanAbsolute (path : String) : Bool :=
  match path.toList with
  | '/' :: rest => rest.isEmpty ||
      (rest.splitOn '/').all fun component =>
        !component.isEmpty && component != ['.'] && component != ['.', '.']
  | _ => false

end Codex
end ThinkPixelAR
