import ThinkPixelAR.Adapters.Codex.Utf8
import ThinkPixelAR.Domain.JsonScan
import ThinkPixelAR.Domain.RuntimeEvent

/-!
The two bounded scans of untrusted JSON, `validatePayload` of a runtime event and
`validateVendorJSON` of a Codex frame, against what they are for: a text is accepted exactly
if it is one value of the grammar within the limits. `object`, the second parser of a frame,
agrees with the scan on every accepted one.
-/
namespace ThinkPixelAR.Json

mutual

/-- Every string and name at all levels satisfies `p`. -/
def texts (p : String → Bool) : Json → Bool
  | .array items => textsItems p items
  | .object members => textsMembers p members
  | .string text => p text
  | _ => true

def textsItems (p : String → Bool) : List Json → Bool
  | [] => true
  | x :: xs => texts p x && textsItems p xs

def textsMembers (p : String → Bool) : List (String × Json) → Bool
  | [] => true
  | (name, x) :: ms => p name && texts p x && textsMembers p ms

end

mutual

theorem texts_any (x : Json) : x.texts (fun _ => true) = true := by
  match x with
  | .array items => exact textsItems_any items
  | .object members => exact textsMembers_any members
  | .string _ | .null | .bool _ | .number _ => simp [texts]

theorem textsItems_any (xs : List Json) : textsItems (fun _ => true) xs = true := by
  match xs with
  | [] => simp [textsItems]
  | x :: xs => simp [textsItems, texts_any x, textsItems_any xs]

theorem textsMembers_any (ms : List (String × Json)) :
    textsMembers (fun _ => true) ms = true := by
  match ms with
  | [] => simp [textsMembers]
  | (_, x) :: ms => simp [textsMembers, texts_any x, textsMembers_any ms]

end

mutual

/-- An empty array or object adds one level at most. -/
theorem height_le (x : Json) : x.height 1 ≤ x.height 0 + 1 := by
  match x with
  | .array items =>
    have below := heightItems_le items
    cases items <;> simp_all [height]
  | .object members =>
    have below := heightMembers_le members
    cases members <;> simp_all [height]
  | .string _ | .null | .bool _ | .number _ => simp [height]

theorem heightItems_le (xs : List Json) : heightItems 1 xs ≤ heightItems 0 xs + 1 := by
  match xs with
  | [] => simp [heightItems]
  | x :: xs =>
    have first := height_le x
    have rest := heightItems_le xs
    simp only [heightItems]
    omega

theorem heightMembers_le (ms : List (String × Json)) :
    heightMembers 1 ms ≤ heightMembers 0 ms + 1 := by
  match ms with
  | [] => simp [heightMembers]
  | (_, x) :: ms =>
    have first := height_le x
    have rest := heightMembers_le ms
    simp only [heightMembers]
    omega

end

/-- What the root has to be. -/
def ScanLimits.Root (l : ScanLimits) (x : Json) : Prop :=
  ∀ n, l.root = some n → ∃ ms, x = .object ms ∧ ms.length ≤ n

section Limits
variable {l : ScanLimits}

theorem stops_false {depth count : Nat} (room : count ≤ l.members) :
    l.stops depth count = false ↔ depth ≤ l.depth := by
  simp only [ScanLimits.stops, Bool.or_eq_false_iff, decide_eq_false_iff_not, Nat.not_lt,
    Bool.and_eq_false_iff]
  exact ⟨And.left, fun fits => ⟨fits, .inr room⟩⟩

theorem room_next {depth count count' : Nat} {x : Json} (free : l.full count = false)
    (checked : check l (depth + 1) (count + 1) x = some count') : count + 1 ≤ l.members := by
  have starts := check_starts checked
  cases early : l.early <;> simp_all [ScanLimits.full, ScanLimits.stops]

theorem root_object {ms : List (String × Json)} :
    l.Root (.object ms) ↔ ∀ n, l.root = some n → ms.length ≤ n := by
  simp [ScanLimits.Root]

theorem root_other {x : Json} (other : ∀ ms, x ≠ .object ms) : l.Root x ↔ l.root = none := by
  simp [ScanLimits.Root, other, Option.eq_none_iff_forall_ne_some]

theorem objectOnly_false {depth : Nat} :
    l.objectOnly depth = false ↔ (depth = 0 → l.root = none) := by
  simp [ScanLimits.objectOnly]

theorem full_false {count : Nat} (room : count + 1 ≤ l.members) : l.full count = false := by
  rw [ScanLimits.full, Bool.and_eq_false_iff, decide_eq_false_iff_not, Nat.not_lt]
  exact .inr room

theorem refuses_false {depth count : Nat} {seen : List String} {name : String} :
    l.refuses depth seen count name = false ↔ l.text name = true ∧ name ∉ seen ∧
      (depth = 0 → ∀ n, l.root = some n → seen.length + 1 ≤ n) ∧ l.full count = false := by
  cases root : l.root <;> simp [ScanLimits.refuses, root] <;> grind

mutual

theorem check_iff (x : Json) {depth count count' : Nat} (room : count ≤ l.members) :
    check l depth count x = some count' ↔
      depth + x.height 0 ≤ l.depth ∧ count' = count + x.size ∧ count' ≤ l.members ∧
      x.distinct = true ∧ x.texts l.text = true ∧ (depth = 0 → l.Root x) := by
  match x with
  | .object ms =>
    simp only [check, Option.ite_none_left_eq_some, Bool.not_eq_true, stops_false room,
      checkMembers_iff ms room, height, size, distinct, texts, root_object]
    cases ms <;> simp
    all_goals grind
  | .array xs =>
    simp only [check, Option.ite_none_left_eq_some, Bool.not_eq_true, Bool.or_eq_false_iff,
      stops_false room, checkItems_iff xs room, height, size, distinct, texts, objectOnly_false,
      root_other (x := .array xs) (by simp)]
    cases xs <;> simp <;> grind
  | .string text =>
    simp only [check, Option.ite_none_left_eq_some, Bool.not_eq_true, Bool.or_eq_false_iff,
      stops_false room, height, size, distinct, texts, objectOnly_false,
      root_other (x := .string text) (by simp)]
    grind
  | .null | .bool _ | .number _ =>
    simp only [check, Option.ite_none_left_eq_some, Bool.not_eq_true, Bool.or_eq_false_iff,
      stops_false room, height, size, distinct, texts, objectOnly_false]
    rw [root_other (by simp)]
    grind

theorem checkItems_iff (xs : List Json) {depth count count' : Nat} (room : count ≤ l.members) :
    checkItems l depth count xs = some count' ↔
      (xs ≠ [] → depth + 1 + heightItems 0 xs ≤ l.depth) ∧ count' = count + sizeItems xs ∧
      count' ≤ l.members ∧ distinctItems xs = true ∧ textsItems l.text xs = true := by
  match xs with
  | [] =>
    simp only [checkItems, sizeItems, distinctItems, textsItems]
    grind
  | x :: xs =>
    simp only [checkItems, Option.ite_none_left_eq_some, Bool.not_eq_true, heightItems, sizeItems,
      distinctItems, textsItems, Bool.and_eq_true]
    constructor
    · rintro ⟨free, rest⟩
      obtain ⟨count1, first, rest⟩ := Option.bind_eq_some_iff.mp rest
      have next := room_next free first
      obtain ⟨high, rfl, fits, first⟩ := (check_iff x next).mp first
      obtain ⟨higher, rfl, most, others⟩ := (checkItems_iff xs fits).mp rest
      cases xs <;> grind [heightItems]
    · rintro ⟨high, rfl, most, distinct, texts⟩
      have next : count + 1 ≤ l.members := by omega
      have high := high (by simp)
      have first : check l (depth + 1) (count + 1) x = some (count + 1 + x.size) :=
        (check_iff x next).mpr (by grind)
      have rest : checkItems l depth (count + 1 + x.size) xs =
          some (count + (1 + x.size + sizeItems xs)) :=
        (checkItems_iff xs (by omega)).mpr (by grind)
      simp [full_false next, first, rest]

theorem checkMembers_iff (ms : List (String × Json)) {depth count count' : Nat}
    {seen : List String} (room : count ≤ l.members) :
    checkMembers l depth seen count ms = some count' ↔
      (ms ≠ [] → depth + 1 + heightMembers 0 ms ≤ l.depth) ∧ count' = count + sizeMembers ms ∧
      count' ≤ l.members ∧ distinctMembers ms = true ∧ textsMembers l.text ms = true ∧
      (ms.map Prod.fst).Nodup ∧ (∀ name ∈ ms.map Prod.fst, name ∉ seen) ∧
      (depth = 0 → ms ≠ [] → ∀ n, l.root = some n → seen.length + ms.length ≤ n) := by
  match ms with
  | [] =>
    simp only [checkMembers, sizeMembers, distinctMembers, textsMembers, List.map_nil]
    grind
  | (name, x) :: ms =>
    simp only [checkMembers, Option.ite_none_left_eq_some, Bool.not_eq_true, heightMembers,
      sizeMembers, distinctMembers, textsMembers, Bool.and_eq_true, List.map_cons,
      List.nodup_cons, List.mem_cons, List.length_cons]
    constructor
    · rintro ⟨admitted, rest⟩
      obtain ⟨allowed, fresh, few, free⟩ := refuses_false.mp admitted
      obtain ⟨count1, first, rest⟩ := Option.bind_eq_some_iff.mp rest
      have next := room_next free first
      obtain ⟨high, rfl, fits, first⟩ := (check_iff x next).mp first
      obtain ⟨higher, rfl, most, others⟩ := (checkMembers_iff ms fits).mp rest
      cases ms <;> grind [heightMembers]
    · rintro ⟨high, rfl, most, distinct, texts, nodup, fresh, few⟩
      have next : count + 1 ≤ l.members := by omega
      have high := high (by simp)
      have admitted : l.refuses depth seen count name = false :=
        refuses_false.mpr ⟨texts.1.1, fresh name (.inl rfl), by grind, full_false next⟩
      have first : check l (depth + 1) (count + 1) x = some (count + 1 + x.size) :=
        (check_iff x next).mpr (by grind)
      have rest : checkMembers l depth (name :: seen) (count + 1 + x.size) ms =
          some (count + (1 + x.size + sizeMembers ms)) :=
        (checkMembers_iff ms (by omega)).mpr (by grind)
      simp [admitted, first, rest]

end

/-- The value keeps the limits. -/
structure Within (l : ScanLimits) (x : Json) : Prop where
  height : x.height 0 ≤ l.depth
  size : x.size ≤ l.members
  distinct : x.distinct = true
  texts : x.texts l.text = true
  root : l.Root x

theorem scans_iff_within {cs : List Char} :
    scans l cs = true ↔ ∃ x, decodeChars cs = some x ∧ Within l x := by
  rw [scans_iff]
  refine exists_congr fun x => and_congr_right fun _ => ?_
  simp only [Option.isSome_iff_exists, check_iff x (Nat.zero_le l.members), Nat.zero_add]
  constructor
  · rintro ⟨_, height, rfl, size, distinct, texts, root⟩
    exact ⟨height, size, distinct, texts, root trivial⟩
  · intro within
    exact ⟨x.size, within.height, rfl, within.size, within.distinct, within.texts,
      fun _ => within.root⟩

end Limits
end ThinkPixelAR.Json

namespace ThinkPixelAR.RuntimeEvent

open Codex (Bytes runes validUTF8 encodeRunes)

namespace Payload

/-- `validatePayload`, of any bytes. -/
def validatePayload (value : Bytes) : Bool := validateRunes value.length (runes value)

/-- On the bytes of a text it is what `New` decides of the text. -/
theorem validatePayload_text (text : String) :
    validatePayload (encodeRunes text.toList) = RuntimeEvent.validatePayload text := by
  rw [validatePayload, RuntimeEvent.validatePayload, Codex.runes_encode, Codex.length_encodeRunes]

/-- The text is one object within the limits, where every ill-formed byte stands for the
replacement character. -/
def Bounded (value : Bytes) : Prop :=
  2 ≤ value.length ∧ value.length ≤ maxPayloadBytes ∧
    ∃ ms, Json.decodeChars (runes value) = some (.object ms) ∧ ms.length ≤ 64 ∧
      (Json.object ms).height 0 ≤ 16 ∧ (Json.object ms).size ≤ 256 ∧
      (Json.object ms).distinct = true ∧
      (Json.object ms).texts (fun s => !s.toList.any isControl) = true

theorem validatePayload_iff (value : Bytes) : validatePayload value = true ↔ Bounded value := by
  have scanned := @Json.scans_iff_within payloadLimits (runes value)
  simp only [validatePayload, validateRunes, consumeJSON, Bounded, Bool.and_eq_true,
    decide_eq_true_eq, and_assoc]
  refine and_congr_right fun _ => and_congr_right fun _ => scanned.trans ?_
  constructor
  · rintro ⟨x, decoded, within⟩
    obtain ⟨ms, rfl, few⟩ := within.root 64 rfl
    exact ⟨ms, decoded, few, within.height, within.size, within.distinct, within.texts⟩
  · rintro ⟨ms, decoded, few, height, size, distinct, texts⟩
    exact ⟨_, decoded, height, size, distinct, texts, Json.root_object.mpr fun n same => by
      cases same
      exact few⟩

/-- A payload as it is meant: well-formed, and one object within the limits. -/
def Valid (value : Bytes) : Prop := validUTF8 value = true ∧ Bounded value

/-- The scan decides validity, but for ill-formed bytes inside strings. -/
theorem payload_scan (value : Bytes) :
    (validatePayload value = true ↔ Valid value) ↔ (validUTF8 value = true ∨ ¬ Bounded value) := by
  rw [validatePayload_iff]
  unfold Valid
  tauto

/-- A string of one byte that starts no character. -/
def illFormed : Bytes := [123, 34, 97, 34, 58, 34, 255, 34, 125]

theorem ill_formed_payload_accepted : validatePayload illFormed = true ∧ ¬ Valid illFormed := by
  refine ⟨by decide +kernel, fun valid => ?_⟩
  have wellFormed := valid.1
  revert wellFormed
  decide

end Payload
end ThinkPixelAR.RuntimeEvent

namespace ThinkPixelAR.Codex

/-- The limits of `validateVendorJSON`. -/
def vendorLimits : Json.ScanLimits where
  depth := 16
  members := 4096
  early := false
  text _ := true
  root := none

def validateVendorJSON (raw : Bytes) : Bool :=
  !raw.isEmpty && decide (raw.length ≤ maxHandshakeBytes) && validUTF8 raw &&
    Json.scans vendorLimits (runes raw)

theorem validateVendorJSON_eq (raw : Bytes) : validateVendorJSON raw = validVendorJSON raw := by
  rw [Bool.eq_iff_iff]
  simp only [validateVendorJSON, validVendorJSON, Bool.and_eq_true, Json.scans_iff_within,
    Option.any_eq_true, decide_eq_true_eq]
  refine and_congr_right fun _ => exists_congr fun x => and_congr_right fun _ => ?_
  constructor
  · rintro ⟨height, size, distinct, -, -⟩
    exact ⟨⟨height, size⟩, distinct⟩
  · rintro ⟨⟨height, size⟩, distinct⟩
    exact ⟨height, size, distinct, Json.texts_any x, fun _ none => nomatch none⟩

/-- The raw text is the text of the value: the grammar reads it up to what follows. -/
def TextOf (raw : Raw) (x : Json) : Prop := ∃ rest, Json.Reads (raw ++ rest) x rest

variable {cs : List Char} {ms : List (String × Json)}

theorem rawValue_of_reads {rest : List Char} {x : Json} (reads : Json.Reads cs x rest)
    (shallow : x.height 0 < Json.maxNestingDepth) :
    ∃ raw, rawValue cs = some (raw, rest) ∧ TextOf raw x := by
  have bounded := Json.height_le x
  have least := Json.skip_length cs
  have read := reads.fueled rfl (show _ ≤ cs.length + 1 + rest.length by omega)
  obtain ⟨used, whole⟩ := reads.skipped.taken.suffix
  refine ⟨used, ?_, rest, whole ▸ reads.skipped⟩
  rw [rawValue, read]
  simp only [if_pos (show x.height 1 ≤ Json.maxNestingDepth by omega), ← whole, List.length_append,
    Nat.add_sub_cancel, List.take_left']

/-- The members `object` reads of a text, beside those of the value. -/
def FieldsOf (fields : Fields) (ms : List (String × Json)) : Prop :=
  List.Forall₂ (fun f m => f.1 = m.1 ∧ TextOf f.2 m.2) fields ms

theorem FieldsOf.names {fields : Fields} (same : FieldsOf fields ms) :
    fields.map Prod.fst = ms.map Prod.fst := by
  induction same with
  | nil => rfl
  | cons first _ ih => rw [List.map_cons, List.map_cons, first.1, ih]

theorem members_of_reads {fuel : Nat} {start rest : List Char}
    (reads : Json.ReadsMembers cs ms rest) (same : Json.skip start = Json.skip cs)
    (shallow : Json.heightMembers 0 ms < Json.maxNestingDepth)
    (enough : start.length ≤ fuel + rest.length) :
    ∃ fields, members fuel start = some (fields, rest) ∧ FieldsOf fields ms := by
  induction ms generalizing cs start fuel with
  | nil => cases reads
  | cons m ms ih =>
    cases reads with
    | last quoted key colon first close =>
      have named := (Json.taken_key (same.trans quoted) key colon).shorter
      have ended := (first.taken.skip.trans (Json.taken_next close)).shorter
      obtain ⟨fuel, rfl⟩ : ∃ less, fuel = less + 1 := ⟨fuel - 1, by omega⟩
      obtain ⟨raw, read, text⟩ := rawValue_of_reads first (by grind [Json.heightMembers])
      exact ⟨[(_, raw)], by simp [members, same, quoted, key, colon, read, close],
        .cons ⟨rfl, text⟩ .nil⟩
    | more quoted key colon first comma others =>
      have named := (Json.taken_key (same.trans quoted) key colon).shorter
      have later := (first.taken.skip.trans (Json.taken_next comma)).shorter
      have ended := others.taken.shorter
      obtain ⟨fuel, rfl⟩ : ∃ less, fuel = less + 1 := ⟨fuel - 1, by omega⟩
      obtain ⟨raw, read, text⟩ := rawValue_of_reads first (by grind [Json.heightMembers])
      obtain ⟨fields, found, same'⟩ := ih others rfl (by grind [Json.heightMembers])
        (show _ ≤ fuel + rest.length by omega)
      exact ⟨(_, raw) :: fields, by simp [members, same, quoted, key, colon, read, comma, found],
        .cons ⟨rfl, text⟩ same'⟩

/-- On one shallow value without repeated names `object` reads its members. -/
theorem object_of_decoded (decoded : Json.decodeChars cs = some (.object ms))
    (nodup : (ms.map Prod.fst).Nodup) (shallow : (Json.object ms).height 0 < Json.maxNestingDepth) :
    ∃ fields, object cs = some fields ∧ FieldsOf fields ms := by
  obtain ⟨rest, reads, done⟩ := Json.decodeChars_iff.mp decoded
  have form := reads.form
  unfold object
  generalize Json.skip cs = start at form
  cases form with
  | emptyObject close => exact ⟨[], by simp [close, done], .nil⟩
  | @object inner _ _ inside =>
    have other := inside.unclosed
    have below : Json.heightMembers 0 ms < Json.maxNestingDepth := by
      cases ms with
      | nil => cases inside
      | cons => simp [Json.height] at shallow; omega
    obtain ⟨fields, found, same⟩ := members_of_reads inside (Json.skip_skip inner) below
      (show _ ≤ (Json.skip inner).length + 1 + rest.length by omega)
    exact ⟨fields, by simp [found, done, same.names, nodup], same⟩

theorem object_other {x : Json} (decoded : Json.decodeChars cs = some x)
    (other : ∀ ms, x ≠ .object ms) : object cs = none := by
  obtain ⟨rest, reads, -⟩ := Json.decodeChars_iff.mp decoded
  have form := reads.form
  unfold object
  generalize Json.skip cs = start at form
  cases form with
  | emptyObject | object => exact absurd rfl (other _)
  | null | true_ | false_ | string | emptyArray | array => rfl
  | number body =>
    obtain ⟨c, r, rfl, first⟩ := Json.numberBody_start body
    split
    next opening =>
      cases opening
      rcases first with first | first <;> cases first
    next => rfl

/-- The scan accepts exactly the frames within the limits, and `object` reads the members of
those that are objects and refuses the others. -/
theorem vendor_json (raw : Bytes) :
    (validateVendorJSON raw = true ↔ validUTF8 raw = true ∧ raw.length ≤ 65536 ∧
      ∃ x, Json.decodeChars (runes raw) = some x ∧ x.height 0 ≤ 16 ∧ x.size ≤ 4096 ∧
        x.distinct = true) ∧
    (validateVendorJSON raw = true → ∀ x, Json.decodeChars (runes raw) = some x →
      (∀ ms, x = .object ms → (ms.map Prod.fst).Nodup ∧
        ∃ fields, object (runes raw) = some fields ∧ FieldsOf fields ms) ∧
      ((∀ ms, x ≠ .object ms) → object (runes raw) = none)) := by
  have scan : validateVendorJSON raw = true ↔ validUTF8 raw = true ∧ raw.length ≤ 65536 ∧
      ∃ x, Json.decodeChars (runes raw) = some x ∧ x.height 0 ≤ 16 ∧ x.size ≤ 4096 ∧
        x.distinct = true := by
    rw [validateVendorJSON_eq]
    simp only [validVendorJSON, Bool.and_eq_true, decide_eq_true_eq, Option.any_eq_true,
      Bool.not_eq_true', and_assoc]
    constructor
    · rintro ⟨-, short, wellFormed, found⟩
      exact ⟨wellFormed, short, found⟩
    · rintro ⟨wellFormed, short, found⟩
      refine ⟨?_, short, wellFormed, found⟩
      cases raw with
      | nil =>
        obtain ⟨x, decoded, -⟩ := found
        cases decoded
      | cons => rfl
  refine ⟨scan, fun accepted x decoded => ⟨?_, object_other decoded⟩⟩
  rintro ms rfl
  obtain ⟨-, -, _, same, height, -, distinct⟩ := scan.mp accepted
  cases decoded.symm.trans same
  simp only [Json.distinct, Bool.and_eq_true, decide_eq_true_eq] at distinct
  exact ⟨distinct.1, object_of_decoded decoded distinct.1 (by unfold Json.maxNestingDepth; omega)⟩

end ThinkPixelAR.Codex
