import ThinkPixelAR.Adapters.Codex.Frames

/-!
UTF-8: decoding inverts encoding, and a text is well-formed exactly when it is an encoding.
-/
namespace ThinkPixelAR.Codex

open String (utf8EncodeChar)

/-- The bytes of a sequence of characters. -/
def encodeRunes (cs : List Char) : Bytes := cs.flatMap utf8EncodeChar

@[simp] theorem encodeRunes_nil : encodeRunes [] = [] := rfl

@[simp] theorem encodeRunes_cons (c : Char) (cs : List Char) :
    encodeRunes (c :: cs) = utf8EncodeChar c ++ encodeRunes cs := rfl

@[simp] theorem encodeRunes_append (cs ds : List Char) :
    encodeRunes (cs ++ ds) = encodeRunes cs ++ encodeRunes ds := List.flatMap_append

theorem byteArray_toList (bytes : ByteArray) : bytes.toList = bytes.data.toList := by
  have loop (i : Nat) (read : List UInt8) :
      ByteArray.toList.loop bytes i read = read.reverse ++ bytes.data.toList.drop i := by
    fun_induction ByteArray.toList.loop bytes i read with
    | case1 i read inside ih =>
      have bound : i < bytes.data.toList.length := by simpa using inside
      rw [ih, List.drop_eq_getElem_cons bound]
      have get : bytes.get! i = bytes.data.toList[i] := by
        obtain ⟨data⟩ := bytes
        exact getElem!_pos data i inside
      simp [get]
    | case2 i read outside =>
      have past : bytes.data.toList.length ≤ i := by simpa using outside
      rw [List.drop_eq_nil_of_le past, List.append_nil]
  simpa [ByteArray.toList] using loop 0 []

theorem toUTF8_toList (text : String) : text.toUTF8.toList = encodeRunes text.toList := by
  have bytes : text.toUTF8 = text.toList.utf8Encode := String.utf8Encode_toList.symm
  rw [bytes, byteArray_toList, List.utf8Encode, List.data_toByteArray]
  rfl

theorem length_encodeRunes (text : String) :
    (encodeRunes text.toList).length = text.utf8ByteSize := by
  rw [← toUTF8_toList, byteArray_toList, Array.length_toList]
  rfl

theorem isValidChar (c : Char) : c.toNat < 0xd800 ∨ 0xdfff < c.toNat ∧ c.toNat < 0x110000 :=
  c.valid

theorem continuation_ofNat {low high n : Nat} (least : low ≤ n) (most : n ≤ high)
    (byte : n < 256) : continuation low high (some (UInt8.ofNat n)) = some (n % 64) := by
  have value : (UInt8.ofNat n).toNat = n := by simpa using byte
  simp [continuation, value, least, most]

theorem between_iff {n low high : Nat} :
    (decide (low ≤ n) && decide (n ≤ high)) = true ↔ low ≤ n ∧ n ≤ high := by
  simp

/-- Decoding the bytes of a character gives the character and their number. -/
theorem decodeRune_encode (c : Char) (rest : Bytes) :
    ∃ b more, utf8EncodeChar c = b :: more ∧
      decodeRune b (more ++ rest) = some (c, more.length + 1) := by
  have valid := isValidChar c
  have same : Char.ofNat c.toNat = c := Char.ofNat_toNat c
  unfold utf8EncodeChar
  generalize number : c.val.toNat = v
  have number : c.toNat = v := number
  rw [number] at valid same
  simp only
  split
  · refine ⟨_, _, rfl, ?_⟩
    have lead : (UInt8.ofNat v).toNat = v := by simp; omega
    unfold decodeRune
    simp only [lead]
    rw [if_pos (by omega), same]
    rfl
  split
  · refine ⟨_, _, rfl, ?_⟩
    have lead : (UInt8.ofNat (v / 64 % 32 + 192)).toNat = v / 64 + 192 := by simp; omega
    have whole : (v / 64 + 192) % 32 * 64 + (v % 64 + 128) % 64 = v := by omega
    unfold decodeRune
    simp only [lead, List.cons_append, List.nil_append, List.getElem?_cons_zero]
    rw [if_neg (by omega), if_pos (by rw [between_iff]; omega),
      continuation_ofNat (by omega) (by omega) (by omega)]
    show some (Char.ofNat _, _) = _
    rw [whole, same]
    rfl
  split
  · refine ⟨_, _, rfl, ?_⟩
    have lead : (UInt8.ofNat (v / 4096 % 16 + 224)).toNat = v / 4096 + 224 := by simp; omega
    have whole : ((v / 4096 + 224) % 16 * 64 + (v / 64 % 64 + 128) % 64) * 64 +
        (v % 64 + 128) % 64 = v := by omega
    unfold decodeRune
    simp only [lead, List.cons_append, List.nil_append, List.getElem?_cons_zero,
      List.getElem?_cons_succ]
    rw [if_neg (by omega), if_neg (by rw [between_iff]; omega), if_pos (by rw [between_iff]; omega),
      continuation_ofNat (by split <;> omega) (by split <;> omega) (by omega),
      continuation_ofNat (by omega) (by omega) (by omega)]
    show some (Char.ofNat _, _) = _
    rw [whole, same]
    rfl
  · refine ⟨_, _, rfl, ?_⟩
    have lead : (UInt8.ofNat (v / 262144 % 8 + 240)).toNat = v / 262144 + 240 := by simp; omega
    have whole : (((v / 262144 + 240) % 8 * 64 + (v / 4096 % 64 + 128) % 64) * 64 +
        (v / 64 % 64 + 128) % 64) * 64 + (v % 64 + 128) % 64 = v := by omega
    unfold decodeRune
    simp only [lead, List.cons_append, List.nil_append, List.getElem?_cons_zero,
      List.getElem?_cons_succ]
    rw [if_neg (by omega), if_neg (by rw [between_iff]; omega), if_neg (by rw [between_iff]; omega),
      if_pos (by rw [between_iff]; omega),
      continuation_ofNat (by split <;> omega) (by split <;> omega) (by omega),
      continuation_ofNat (by omega) (by omega) (by omega),
      continuation_ofNat (by omega) (by omega) (by omega)]
    show some (Char.ofNat _, _) = _
    rw [whole, same]
    rfl

theorem toNat_ofNat {v : Nat} (valid : v < 0xd800 ∨ 0xdfff < v ∧ v < 0x110000) :
    (Char.ofNat v).val.toNat = v := by
  have isValid : v.isValidChar := valid
  rw [Char.ofNat, dif_pos isValid]
  rfl

/-- A continuation byte that is read is the next byte, within its range. -/
theorem read_continuation {α : Type} {low high : Nat} {t : Bytes} {f : Nat → Option α} {r : α}
    (read : ((continuation low high t[0]?).bind f) = some r) :
    ∃ p tail, t = p :: tail ∧ low ≤ p.toNat ∧ p.toNat ≤ high ∧ f (p.toNat % 64) = some r := by
  cases t with
  | nil => simp [continuation] at read
  | cons p tail =>
    simp only [continuation, List.getElem?_cons_zero, Option.bind_some] at read
    split at read
    next range => exact ⟨p, tail, rfl, range.1, range.2, read⟩
    next => cases read

/-- The range of a second byte is narrower after two of the leads. -/
theorem second_range {lead first last low high p : Nat}
    (least : (if lead = first then low else 0x80) ≤ p)
    (most : p ≤ if lead = last then high else 0xbf) (raised : 0x80 ≤ low) (lowered : high ≤ 0xbf) :
    (0x80 ≤ p ∧ p ≤ 0xbf) ∧ (lead = first → low ≤ p) ∧ (lead = last → p ≤ high) := by
  split at least <;> split at most <;> omega

theorem ofNat_toNat_of {n : Nat} {b : UInt8} (same : n = b.toNat) : UInt8.ofNat n = b := by
  rw [same, UInt8.ofNat_toNat]

/-- The bytes that a character was decoded from are its encoding. -/
theorem encode_decodeRune {b : UInt8} {rest : Bytes} {c : Char} {width : Nat}
    (decoded : decodeRune b rest = some (c, width)) :
    ∃ more tail, rest = more ++ tail ∧ utf8EncodeChar c = b :: more ∧ width = more.length + 1 := by
  have byte := b.toNat_lt
  unfold decodeRune at decoded
  simp only at decoded
  split at decoded
  next ascii =>
    cases decoded
    refine ⟨[], rest, rfl, ?_, rfl⟩
    have value : (Char.ofNat b.toNat).val.toNat = b.toNat := toNat_ofNat (by omega)
    unfold utf8EncodeChar
    simp only [value]
    rw [if_pos (by omega)]
    simp
  split at decoded
  next two =>
    obtain ⟨p, tail, rfl, least, most, made⟩ := read_continuation decoded
    cases made
    rw [between_iff] at two
    have value := toNat_ofNat (v := b.toNat % 32 * 64 + p.toNat % 64) (by omega)
    refine ⟨[p], tail, rfl, ?_, rfl⟩
    unfold utf8EncodeChar
    simp only [value]
    rw [if_neg (by omega), if_pos (by omega)]
    rw [ofNat_toNat_of (b := b) (by omega), ofNat_toNat_of (b := p) (by omega)]
  split at decoded
  next three =>
    obtain ⟨p, tail, rfl, leastP, mostP, decoded⟩ := read_continuation decoded
    obtain ⟨q, tail, rfl, leastQ, mostQ, made⟩ := read_continuation (t := tail) decoded
    cases made
    rw [between_iff] at three
    obtain ⟨range, high, low⟩ := second_range leastP mostP (by omega) (by omega)
    have value := toNat_ofNat
      (v := (b.toNat % 16 * 64 + p.toNat % 64) * 64 + q.toNat % 64) (by omega)
    refine ⟨[p, q], tail, rfl, ?_, rfl⟩
    unfold utf8EncodeChar
    simp only [value]
    rw [if_neg (by omega), if_neg (by omega), if_pos (by omega),
      ofNat_toNat_of (b := b) (by omega), ofNat_toNat_of (b := p) (by omega),
      ofNat_toNat_of (b := q) (by omega)]
  split at decoded
  next four =>
    obtain ⟨p, tail, rfl, leastP, mostP, decoded⟩ := read_continuation decoded
    obtain ⟨q, tail, rfl, leastQ, mostQ, decoded⟩ := read_continuation (t := tail) decoded
    obtain ⟨r, tail, rfl, leastR, mostR, made⟩ := read_continuation (t := tail) decoded
    cases made
    rw [between_iff] at four
    obtain ⟨range, high, low⟩ := second_range leastP mostP (by omega) (by omega)
    have value := toNat_ofNat
      (v := ((b.toNat % 8 * 64 + p.toNat % 64) * 64 + q.toNat % 64) * 64 + r.toNat % 64)
      (by omega)
    refine ⟨[p, q, r], tail, rfl, ?_, rfl⟩
    unfold utf8EncodeChar
    simp only [value]
    rw [if_neg (by omega), if_neg (by omega), if_neg (by omega),
      ofNat_toNat_of (b := b) (by omega), ofNat_toNat_of (b := p) (by omega),
      ofNat_toNat_of (b := q) (by omega), ofNat_toNat_of (b := r) (by omega)]
  · cases decoded

theorem runesFrom_append (skipped rest : Bytes) :
    runesFrom skipped.length (skipped ++ rest) = runesFrom 0 rest := by
  induction skipped with
  | nil => rfl
  | cons b skipped ih => simpa [runesFrom] using ih

theorem validUTF8From_append (skipped rest : Bytes) :
    validUTF8From skipped.length (skipped ++ rest) = validUTF8From 0 rest := by
  induction skipped with
  | nil => rfl
  | cons b skipped ih => simpa [validUTF8From] using ih

/-- Decoding inverts encoding. -/
theorem runes_encode (cs : List Char) : runes (encodeRunes cs) = cs := by
  induction cs with
  | nil => rfl
  | cons c cs ih =>
    obtain ⟨b, more, bytes, decoded⟩ := decodeRune_encode c (encodeRunes cs)
    rw [encodeRunes_cons, bytes, runes, List.cons_append, runesFrom, decoded]
    simp only [Nat.add_sub_cancel, runesFrom_append]
    exact congrArg (c :: ·) ih

/-- Well-formed bytes are the encoding of their characters. -/
theorem encode_runes {raw : Bytes} (valid : validUTF8 raw = true) :
    encodeRunes (runes raw) = raw := by
  induction length : raw.length using Nat.strong_induction_on generalizing raw with
  | _ n ih =>
    cases raw with
    | nil => rfl
    | cons b rest =>
      rw [validUTF8, validUTF8From] at valid
      split at valid
      next c width decoded =>
        obtain ⟨more, tail, rfl, bytes, rfl⟩ := encode_decodeRune decoded
        rw [Nat.add_sub_cancel, validUTF8From_append] at valid
        have later : encodeRunes (runes tail) = tail := by
          refine ih tail.length ?_ valid rfl
          rw [← length, List.length_cons, List.length_append]
          omega
        rw [runes, runesFrom, decoded]
        simp only [Nat.add_sub_cancel, runesFrom_append, encodeRunes_cons, bytes]
        rw [show runesFrom 0 tail = runes tail from rfl, later, List.cons_append]
      next => cases valid

end ThinkPixelAR.Codex
