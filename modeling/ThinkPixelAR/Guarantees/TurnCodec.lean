import ThinkPixelAR.Domain.JsonEncoding
import ThinkPixelAR.Adapters.TurnInput

/-!
The turn codec: what `ExecutionInput` encodes fits a payload and decodes to itself, a
payload is the encoding of what it decodes to, and the turn digest separates its parts.
-/
namespace ThinkPixelAR.Control

open Handshake (Bytes isID)
open Codex (runes validUTF8 encodeRunes)
open String (utf8EncodeChar)

variable {v : TurnInput}

theorem utf8_eq (text : String) : utf8 text = encodeRunes text.toList := Codex.toUTF8_toList text

/-! ### Size -/

theorem utf8_length (text : String) : (utf8 text).length = text.utf8ByteSize := by
  rw [utf8, Codex.byteArray_toList, Array.length_toList]
  rfl

theorem encodeRunes_ascii {cs : List Char} (ascii : ∀ c ∈ cs, c.toNat < 128) :
    (encodeRunes cs).length = cs.length := by
  induction cs with
  | nil => rfl
  | cons c cs ih =>
    have first : (utf8EncodeChar c).length = 1 := by
      have small : c.toNat ≤ 127 := Nat.le_of_lt_succ (ascii c List.mem_cons_self)
      simp [utf8EncodeChar, small]
    rw [Codex.encodeRunes_cons, List.length_append, first,
      ih fun d member => ascii d (List.mem_cons_of_mem c member), List.length_cons]
    omega

theorem utf8EncodeChar_pos (c : Char) : 0 < (utf8EncodeChar c).length := by
  obtain ⟨b, more, bytes, -⟩ := Codex.decodeRune_encode c []
  simp [bytes]

/-- An escape is at most six times as long as the character. -/
theorem escape_length (c : Char) :
    (encodeRunes (Json.escape c)).length ≤ 6 * (utf8EncodeChar c).length := by
  have positive := utf8EncodeChar_pos c
  have unicode : (encodeRunes ('\\' :: 'u' :: Json.hexText 4 c.toNat)).length = 6 := by
    rw [encodeRunes_ascii]
    · simp
    · intro d member
      rcases List.mem_cons.mp member with rfl | member
      · decide
      · rcases List.mem_cons.mp member with rfl | member
        · decide
        · exact Json.hexText_ascii member
  unfold Json.escape
  split
  case h_8 =>
    split
    · omega
    · unfold Json.escapeHTML
      split
      · omega
      · simp [encodeRunes]
        omega
  all_goals
    rw [encodeRunes_ascii (by simp)]
    simp only [List.length_cons, List.length_nil]
    omega

theorem escapes_length (cs : List Char) :
    (encodeRunes (cs.flatMap Json.escape)).length ≤ 6 * (encodeRunes cs).length := by
  induction cs with
  | nil => simp
  | cons c cs ih =>
    have first := escape_length c
    rw [List.flatMap_cons, Codex.encodeRunes_append, Codex.encodeRunes_cons, List.length_append,
      List.length_append]
    omega

theorem quote_length (text : String) :
    (encodeRunes (Json.quote text)).length ≤ 2 + 6 * (utf8 text).length := by
  have inside := escapes_length text.toList
  have quoted : (utf8EncodeChar '"').length = 1 := rfl
  rw [Json.quote, Codex.encodeRunes_append, Codex.encodeRunes_cons, List.length_append,
    List.length_append, Codex.encodeRunes_cons, List.length_append, quoted, utf8_eq]
  simp only [Codex.encodeRunes_nil, List.length_nil]
  omega

theorem isID_ascii {text : String} (valid : isID text = true) {c : Char}
    (member : c ∈ text.toList) : c.toNat < 128 := by
  simp only [isID, Bool.and_eq_true, List.all_eq_true] at valid
  obtain ⟨⟨⟨-, chars⟩, -⟩, -⟩ := valid
  obtain ⟨i, bound, rfl⟩ := List.getElem_of_mem member
  have lower := chars (text.toList[i], i) (by simp [List.mem_zipIdx_iff_getElem?, bound])
  simp only at lower
  split at lower
  · have dash : text.toList[i] = '-' := by simpa using lower
    rw [dash]
    decide
  · simp only [Handshake.isLowerHex, Bool.or_eq_true, Bool.and_eq_true, decide_eq_true_eq] at lower
    have bound : text.toList[i] ≤ 'f' := by
      rcases lower with ⟨-, most⟩ | ⟨-, most⟩
      · exact most.trans (by decide)
      · exact most
    exact Nat.lt_of_le_of_lt bound (by decide)

theorem isID_length {text : String} (valid : isID text = true) : (utf8 text).length = 36 := by
  rw [utf8_eq, encodeRunes_ascii fun c member => isID_ascii valid member]
  simp only [isID, Bool.and_eq_true, decide_eq_true_eq] at valid
  exact valid.1.1.1

theorem TurnInput.marshal_length (valid : v.validate = true) :
    v.marshal.length ≤ maxTurnPayloadBytes := by
  simp only [validate, Bool.and_eq_true, Bool.or_eq_true, decide_eq_true_eq] at valid
  obtain ⟨⟨⟨id, class_⟩, -⟩, short⟩ := valid
  have idSize := quote_length v.inputID
  rw [isID_length id] at idSize
  have classSize : (encodeRunes (Json.quote v.classification)).length ≤ 14 := by
    rcases class_ with (same | same) | same <;> rw [same] <;> decide
  have textSize := quote_length v.text
  rw [utf8_length] at textSize
  have whole : v.json.encodeChars =
      '{' :: (Json.quote "input_id" ++ ':' :: Json.quote v.inputID ++ ',' ::
        (Json.quote "classification" ++ ':' :: Json.quote v.classification ++ ',' ::
          (Json.quote "text" ++ ':' :: Json.quote v.text))) ++ ['}'] := by
    simp only [json, Json.encodeChars, Json.encodeMembers]
  have names : (encodeRunes (Json.quote "input_id")).length = 10 ∧
      (encodeRunes (Json.quote "classification")).length = 16 ∧
      (encodeRunes (Json.quote "text")).length = 6 := by decide
  have one : ∀ c ∈ ['{', ':', ',', '}'], (utf8EncodeChar c).length = 1 := by
    intro c member
    simp only [List.mem_cons, List.not_mem_nil, or_false] at member
    rcases member with rfl | rfl | rfl | rfl <;> rfl
  rw [marshal, utf8_eq, Json.encode, String.toList_ofList, whole]
  simp only [Codex.encodeRunes_append, Codex.encodeRunes_cons, Codex.encodeRunes_nil,
    List.length_append, List.length_nil, names, one '{' (by simp), one ':' (by simp),
    one ',' (by simp), one '}' (by simp)]
  unfold maxTurnTextBytes at short
  unfold maxTurnPayloadBytes
  omega

/-! ### Decoding -/

namespace TurnInput

theorem named_self : named "input_id" "input_id" = true ∧
    named "classification" "classification" = true ∧ named "text" "text" = true ∧
    named "input_id" "classification" = false ∧ named "input_id" "text" = false ∧
    named "classification" "text" = false := by
  decide

theorem members_json (v : TurnInput) :
    [("input_id", Json.string v.inputID), ("classification", .string v.classification),
      ("text", .string v.text)].foldlM member ⟨"", "", ""⟩ = some v := by
  obtain ⟨id, class_, text, idClass, idText, classText⟩ := named_self
  simp [member, assign, id, class_, text, idClass, idText, classText]

theorem unmarshal_marshal (v : TurnInput) : unmarshal v.marshal = some v := by
  have text : runes v.marshal = v.json.encodeChars := by
    rw [marshal, utf8_eq, Codex.runes_encode, Json.encode, String.toList_ofList]
  have decoded : Json.decodeChars v.json.encodeChars = some v.json :=
    Json.decodeChars_encodeChars ⟨trivial, trivial, trivial, trivial⟩
  have flat : ¬ Json.maxNestingDepth < v.json.height 1 := by
    simp [json, Json.height, Json.heightMembers, Json.maxNestingDepth]
  rw [unmarshal, text, decoded, Option.bind_some, if_neg flat]
  exact members_json v

end TurnInput

/-- A payload is the encoding of what it decodes to. -/
theorem decodeTurnInput_canonical {lib : Library} {raw : Bytes}
    (decoded : decodeTurnInput lib.encoded raw = some v) : raw = v.marshal := by
  unfold decodeTurnInput at decoded
  split at decoded
  · cases decoded
  · split at decoded
    · cases decoded
    · split at decoded
      · cases decoded
      next accepted =>
        cases decoded
        by_contra different
        exact accepted (by simp [Library.encoded, Ne.symm different])

theorem decodeTurnInput_marshal {lib : Library} (valid : v.validate = true)
    (fits : v.marshal.length ≤ maxTurnPayloadBytes) :
    decodeTurnInput lib.encoded v.marshal = some v := by
  unfold decodeTurnInput
  rw [if_neg (Nat.not_lt.mpr fits)]
  simp [Library.encoded, TurnInput.unmarshal_marshal, valid]

theorem executionInput_decodes {lib : Library} {fence : HarnessFence} {r : ExecuteRequest}
    {payload : Bytes} (accepted : executionInput fence r = .ok payload) :
    payload.length ≤ maxTurnPayloadBytes ∧
      ∃ v, decodeTurnInput lib.encoded payload = some v ∧ v.inputID = r.inputID ∧
        v.classification = r.input.classification ∧ utf8 v.text = r.input.inline_ := by
  unfold executionInput at accepted
  split at accepted
  · cases accepted
  split at accepted
  · cases accepted
  next wellFormed =>
    simp only at accepted
    split at accepted
    · cases accepted
    next valid =>
      cases accepted
      rw [Bool.not_eq_true', Bool.not_eq_false] at wellFormed valid
      have fits := TurnInput.marshal_length valid
      refine ⟨fits, _, decodeTurnInput_marshal valid fits, rfl, rfl, ?_⟩
      rw [utf8_eq, String.toList_ofList, Codex.encode_runes wellFormed]

/-! ### Digests -/

/-- Only the NUL character is encoded with a zero byte. -/
theorem zero_mem_encodeRunes {cs : List Char} (zero : 0 ∈ encodeRunes cs) : '\x00' ∈ cs := by
  obtain ⟨c, member, inside⟩ := List.mem_flatMap.mp zero
  have bytes : ∀ n, 0 < n → n < 256 → (0 : UInt8) ≠ UInt8.ofNat n := by
    intro n positive small same
    have values := congrArg UInt8.toNat same
    simp only [UInt8.toNat_ofNat'] at values
    rw [Nat.mod_eq_of_lt small] at values
    exact absurd values.symm (Nat.ne_of_gt positive)
  have nul : c.val.toNat = 0 := by
    by_contra positive
    unfold utf8EncodeChar at inside
    simp only at inside
    split at inside
    · exact bytes _ (by omega) (by omega) (List.mem_singleton.mp inside)
    split at inside
    · simp only [List.mem_cons, List.not_mem_nil, or_false] at inside
      rcases inside with same | same <;> exact bytes _ (by omega) (by omega) same
    split at inside
    · simp only [List.mem_cons, List.not_mem_nil, or_false] at inside
      rcases inside with same | same | same <;> exact bytes _ (by omega) (by omega) same
    · simp only [List.mem_cons, List.not_mem_nil, or_false] at inside
      rcases inside with same | same | same | same <;> exact bytes _ (by omega) (by omega) same
  have same : c = '\x00' := Char.toNat_inj.mp nul
  exact same ▸ member

/-- A separator that neither text holds cuts both at the same place. -/
theorem cut_at {α : Type} {separator : α} {a b x y : List α} (ha : separator ∉ a)
    (hb : separator ∉ b) (same : a ++ separator :: x = b ++ separator :: y) : a = b ∧ x = y := by
  induction a generalizing b with
  | nil =>
    cases b with
    | nil => exact ⟨rfl, (List.cons.inj same).2⟩
    | cons c b => exact absurd (List.cons.inj same).1 fun first => hb (first ▸ List.mem_cons_self)
  | cons c a ih =>
    cases b with
    | nil => exact absurd (List.cons.inj same).1 fun first => ha (first ▸ List.mem_cons_self)
    | cons d b =>
      obtain ⟨rfl, rest⟩ := List.cons.inj same
      obtain ⟨rfl, tails⟩ := ih (fun member => ha (List.mem_cons_of_mem c member))
        (fun member => hb (List.mem_cons_of_mem c member)) rest
      exact ⟨rfl, tails⟩

theorem utf8_injective : Function.Injective utf8 := by
  intro a b same
  rw [utf8_eq, utf8_eq] at same
  have chars := congrArg runes same
  rw [Codex.runes_encode, Codex.runes_encode] at chars
  exact String.toList_inj.mp chars

theorem utf8_append (a b : String) : utf8 (a ++ b) = utf8 a ++ utf8 b := by
  rw [utf8_eq, utf8_eq, utf8_eq, String.toList_append, Codex.encodeRunes_append]

theorem turnDigest_injective {lib : Library} (injective : Function.Injective lib.sha256)
    {configuration handle configuration' handle' : String} {payload payload' : Bytes}
    (c : '\x00' ∉ configuration.toList) (h : '\x00' ∉ handle.toList)
    (c' : '\x00' ∉ configuration'.toList) (h' : '\x00' ∉ handle'.toList)
    (same : turnDigest lib configuration handle payload =
      turnDigest lib configuration' handle' payload') :
    configuration = configuration' ∧ handle = handle' ∧ payload = payload' := by
  have zero {text : String} (free : '\x00' ∉ text.toList) : 0 ∉ utf8 text := by
    rw [utf8_eq]
    exact fun found => free (zero_mem_encodeRunes found)
  have nul : utf8 "\x00" = [0] := by
    rw [utf8_eq]
    decide
  have bytes := injective same
  simp only [utf8_append, nul, List.append_assoc, List.cons_append, List.nil_append,
    List.append_cancel_left_eq, List.cons.injEq, true_and] at bytes
  obtain ⟨configurations, bytes⟩ := cut_at (zero c) (zero c') bytes
  obtain ⟨handles, payloads⟩ := cut_at (zero h) (zero h') bytes
  exact ⟨utf8_injective configurations, utf8_injective handles, payloads⟩

/-- What is encoded fits and decodes to itself; a payload that decodes is the only encoding of
its value; and under an injective hash the turn digest determines configuration, handle and
payload, where the first two hold no zero byte. -/
theorem turn_codec (lib : Library) (injective : Function.Injective lib.sha256) :
    (∀ fence r payload, executionInput fence r = .ok payload →
      payload.length ≤ maxTurnPayloadBytes ∧
        ∃ v, decodeTurnInput lib.encoded payload = some v ∧ v.inputID = r.inputID ∧
          v.classification = r.input.classification ∧ utf8 v.text = r.input.inline_) ∧
    (∀ raw v, decodeTurnInput lib.encoded raw = some v → raw = v.marshal) ∧
    (∀ raw other v, decodeTurnInput lib.encoded raw = some v →
      decodeTurnInput lib.encoded other = some v → raw = other) ∧
    ∀ configuration handle payload configuration' handle' payload',
      '\x00' ∉ configuration.toList → '\x00' ∉ handle.toList →
      '\x00' ∉ configuration'.toList → '\x00' ∉ handle'.toList →
      turnDigest lib.encoded configuration handle payload =
        turnDigest lib.encoded configuration' handle' payload' →
      configuration = configuration' ∧ handle = handle' ∧ payload = payload' := by
  refine ⟨?_, ?_, ?_, ?_⟩
  · exact fun fence r payload accepted => executionInput_decodes accepted
  · exact fun raw v decoded => decodeTurnInput_canonical decoded
  · intro raw other v first second
    rw [decodeTurnInput_canonical first, decodeTurnInput_canonical second]
  · intro _ _ _ _ _ _ c h c' h' same
    exact @turnDigest_injective lib.encoded injective _ _ _ _ _ _ c h c' h' same

namespace TurnSample

/-- The bytes themselves, as characters. -/
def lib : Library where
  sha256 bytes := String.ofList (bytes.map fun b => Char.ofNat b.toNat)
  unmarshal _ := none
  marshal _ := []
  frameHash _ := none

def fence : HarnessFence := ⟨"", "", "", "", "", 1, 1⟩

def request : ExecuteRequest where
  fence := fence
  inputID := "01890000-0000-7000-8000-000000000000"
  input := ⟨"Public", "text/plain", [60, 104, 105], ""⟩
  options := []

theorem sha256_injective : Function.Injective lib.sha256 := by
  intro a b same
  have chars := String.ofList_inj.mp same
  refine List.map_injective_iff.mpr ?_ chars
  intro x y equal
  have values := congrArg (fun c : Char => c.val.toNat) equal
  have small := x.toNat_lt
  have small' := y.toNat_lt
  simp only [Codex.toNat_ofNat (v := x.toNat) (by omega),
    Codex.toNat_ofNat (v := y.toNat) (by omega)] at values
  exact UInt8.toNat_inj.mp values

theorem accepted : ∃ payload, executionInput fence request = .ok payload := ⟨_, rfl⟩

end TurnSample

theorem turn_codec_sample : ∃ payload v,
    executionInput TurnSample.fence TurnSample.request = .ok payload ∧
      decodeTurnInput TurnSample.lib.encoded payload = some v ∧ utf8 v.text = [60, 104, 105] := by
  obtain ⟨payload, accepted⟩ := TurnSample.accepted
  obtain ⟨_, v, decoded, _, _, text⟩ :=
    (turn_codec TurnSample.lib TurnSample.sha256_injective).1 _ _ payload accepted
  exact ⟨payload, v, accepted, decoded, text⟩

end ThinkPixelAR.Control
