import ThinkPixelAR.Adapters.Codex.Utf8
import ThinkPixelAR.Adapters.Control

/-!
The codec of execution content (`internal/adapters/sandboxtransport/control/turn.go`), with
`encoding/json` at `TurnInput` written out. Texts other than the inline content are texts of
characters: one that is not UTF-8 passes no check of the code.
-/
namespace ThinkPixelAR.Control

open Handshake (Bytes)
open Codex (runes validUTF8)

/-- `harness.Fence`. -/
structure HarnessFence where
  tenantID : String
  sessionID : String
  executionID : String
  attemptID : String
  sandboxBindingID : String
  generation : Nat
  attemptOrdinal : Nat
deriving DecidableEq

/-- `harness.Content`. -/
structure Content where
  classification : String
  schema : String
  inline_ : Bytes
  artifactReference : String

/-- The members of `harness.ExecuteRequest` that `ExecutionInput` reads. -/
structure ExecuteRequest where
  fence : HarnessFence
  inputID : String
  input : Content
  options : List (String × String)

namespace TurnInput

def json (v : TurnInput) : Json :=
  .object [("input_id", .string v.inputID), ("classification", .string v.classification),
    ("text", .string v.text)]

/-- `json.Marshal`. -/
def marshal (v : TurnInput) : Bytes := utf8 v.json.encode

/-- Names are compared without case; the two other characters fold to ASCII letters. -/
def foldChar (c : Char) : Char :=
  if c.toNat = 0x17f then 's' else if c.toNat = 0x212a then 'k' else c.toLower

def named (field name : String) : Bool := name.toList.map foldChar = field.toList

/-- A string replaces the text of a field and `null` leaves it. -/
def assign (old : String) : Json → Option String
  | .string text => some text
  | .null => some old
  | _ => none

/-- One member decoded into the struct; other names are ignored. -/
def member (v : TurnInput) (m : String × Json) : Option TurnInput :=
  if named "input_id" m.1 then (assign v.inputID m.2).map fun text => { v with inputID := text }
  else if named "classification" m.1 then
    (assign v.classification m.2).map fun text => { v with classification := text }
  else if named "text" m.1 then (assign v.text m.2).map fun text => { v with text := text }
  else some v

/-- `json.Unmarshal`. -/
def unmarshal (raw : Bytes) : Option TurnInput :=
  (Json.decodeChars (runes raw)).bind fun x =>
    if Json.maxNestingDepth < x.height 1 then none
    else match x with
      | .object members => members.foldlM member ⟨"", "", ""⟩
      | .null => some ⟨"", "", ""⟩
      | _ => none

end TurnInput

/-- The libraries, with `encoding/json` written out. -/
def Library.encoded (lib : Library) : Library :=
  { lib with unmarshal := TurnInput.unmarshal, marshal := TurnInput.marshal }

/-- `ExecutionInput`; `fence` is the one of the handle. -/
def executionInput (fence : HarnessFence) (r : ExecuteRequest) : Except Error Bytes :=
  if r.fence ≠ fence || r.input.schema ≠ "text/plain" || r.input.artifactReference ≠ "" ||
      !r.options.isEmpty then .error errControl
  else if !validUTF8 r.input.inline_ then .error errControl
  else
    let v : TurnInput :=
      ⟨r.inputID, r.input.classification, String.ofList (runes r.input.inline_)⟩
    if !v.validate then .error errControl else .ok v.marshal

end ThinkPixelAR.Control
