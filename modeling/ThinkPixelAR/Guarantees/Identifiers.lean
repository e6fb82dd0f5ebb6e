import ThinkPixelAR.Ports.Agentd

/-!
UUIDv7 identifiers as text (`internal/primitives/id.go`). A Go string is a sequence of bytes,
so texts are lists of bytes, and `<` is their byte-wise order.
-/
namespace ThinkPixelAR.Identifier

abbrev Bytes := List UInt8

/-! ### Hexadecimal -/

def hexDigit (n : Nat) : UInt8 := UInt8.ofNat (if n < 10 then 48 + n else 87 + n)

/-- `hex.Encode`. -/
def hexEncode (raw : Bytes) : Bytes :=
  raw.flatMap fun b => [hexDigit (b.toNat / 16), hexDigit (b.toNat % 16)]

/-- The value of a digit, of either case. -/
def hexValue (c : UInt8) : Option Nat :=
  if 48 ≤ c ∧ c ≤ 57 then some (c.toNat - 48)
  else if 97 ≤ c ∧ c ≤ 102 then some (c.toNat - 87)
  else if 65 ≤ c ∧ c ≤ 70 then some (c.toNat - 55)
  else none

/-- `hex.Decode`. -/
def hexDecode : Bytes → Option Bytes
  | [] => some []
  | [_] => none
  | a :: b :: rest => do
    let x ← hexValue a
    let y ← hexValue b
    let raw ← hexDecode rest
    return UInt8.ofNat (16 * x + y) :: raw

theorem hexValue_hexDigit : ∀ n < 16, hexValue (hexDigit n) = some n := by decide

theorem hexDigit_lt : ∀ m < 16, ∀ n < 16, m < n → hexDigit m < hexDigit n := by decide

theorem hexDecode_encode (raw : Bytes) : hexDecode (hexEncode raw) = some raw := by
  induction raw with
  | nil => rfl
  | cons b rest ih =>
    have byte := b.toNat_lt
    show hexDecode (_ :: _ :: hexEncode rest) = _
    rw [hexDecode, ih, hexValue_hexDigit _ (by omega), hexValue_hexDigit _ (by omega)]
    show some (UInt8.ofNat (16 * (b.toNat / 16) + b.toNat % 16) :: rest) = _
    rw [Nat.div_add_mod, UInt8.ofNat_toNat]

theorem hexDecode_length {text raw : Bytes} (decoded : hexDecode text = some raw) :
    text.length = 2 * raw.length := by
  fun_induction hexDecode text generalizing raw with
  | case1 => cases decoded; rfl
  | case2 => cases decoded
  | case3 a b rest ih =>
    obtain ⟨x, -, decoded⟩ := Option.bind_eq_some_iff.mp decoded
    obtain ⟨y, -, decoded⟩ := Option.bind_eq_some_iff.mp decoded
    obtain ⟨tail, read, made⟩ := Option.bind_eq_some_iff.mp decoded
    cases made
    simp only [List.length_cons, ih read]
    omega

/-! ### Identifiers -/

def errInvalidID : Error := .new "invalid UUIDv7 identifier"

/-- `formatID`, of sixteen bytes. -/
def formatID (raw : Bytes) : Bytes :=
  hexEncode (raw.take 4) ++ 45 :: hexEncode ((raw.drop 4).take 2) ++
    45 :: hexEncode ((raw.drop 6).take 2) ++ 45 :: hexEncode ((raw.drop 8).take 2) ++
    45 :: hexEncode ((raw.drop 10).take 6)

/-- The digits without the hyphens. -/
def compact (value : Bytes) : Bytes :=
  value.take 8 ++ (value.drop 9).take 4 ++ (value.drop 14).take 4 ++ (value.drop 19).take 4 ++
    (value.drop 24).take 12

/-- Version nibble 7 and variant bits 10. -/
def isV7 (raw : Bytes) : Prop := raw.getD 6 0 >>> 4 = 7 ∧ raw.getD 8 0 >>> 6 = 2

instance (raw : Bytes) : Decidable (isV7 raw) := inferInstanceAs (Decidable (_ ∧ _))

def parseID (value : Bytes) : Except Error Bytes :=
  if value.length ≠ 36 ∨ ¬ ∀ i ∈ [8, 13, 18, 23], value[i]? = some 45 then .error errInvalidID
  else
    match hexDecode (compact value) with
    | none => .error errInvalidID
    | some raw => if formatID raw ≠ value ∨ ¬ isV7 raw then .error errInvalidID else .ok value

/-- The bytes of `NewIDFrom`: 48 bits of time, then entropy under the version and variant. -/
def stamped (millis : Nat) (e : Vector UInt8 16) : Bytes :=
  [.ofNat (millis / 2 ^ 40), .ofNat (millis / 2 ^ 32), .ofNat (millis / 2 ^ 24),
    .ofNat (millis / 2 ^ 16), .ofNat (millis / 2 ^ 8), .ofNat millis, e[6] &&& 0x0f ||| 0x70, e[7],
    e[8] &&& 0x3f ||| 0x80, e[9], e[10], e[11], e[12], e[13], e[14], e[15]]

/-- `NewIDFrom`; `random` is what can be read from the source, if there is one. -/
def newIDFrom (now : Time) (random : Option (Except Error (Vector UInt8 16))) :
    Except Error Bytes :=
  match random with
  | none => .error (.new "invalid UUIDv7 identifier: random source is required")
  | some entropy =>
    let millis := Agentd.unixMilli now
    if millis < 0 ∨ 2 ^ 48 - 1 < millis then
      .error (.new "invalid UUIDv7 identifier: timestamp is out of range")
    else
      match entropy with
      | .error e => .error (.wrap "generate UUIDv7 entropy" e)
      | .ok e => .ok (formatID (stamped millis.toNat e))

/-- The number whose big-endian bytes these are. -/
def number (bytes : Bytes) : Nat := bytes.foldl (fun n b => 256 * n + b.toNat) 0

theorem parseID_formatID {raw : Bytes} (whole : raw.length = 16) (v7 : isV7 raw) :
    parseID (formatID raw) = .ok (formatID raw) := by
  match raw, whole with
  | [a, b, c, d, e, f, g, h, i, j, k, l, m, n, o, p], _ =>
    have digits : compact (formatID [a, b, c, d, e, f, g, h, i, j, k, l, m, n, o, p]) =
      hexEncode [a, b, c, d, e, f, g, h, i, j, k, l, m, n, o, p] := rfl
    rw [parseID, if_neg (by simp [formatID, hexEncode]), digits, hexDecode_encode]
    exact if_neg (by simp [v7])

theorem parseID_ok {value : Bytes} : (∃ id, parseID value = .ok id) ↔
    ∃ raw : Bytes, raw.length = 16 ∧ isV7 raw ∧ value = formatID raw := by
  constructor
  · rintro ⟨id, accepted⟩
    obtain ⟨shape, accepted⟩ := unless_ok.mp accepted
    split at accepted
    · cases accepted
    · next raw decoded =>
      have passes := (unless_ok.mp accepted).1
      simp only [not_or, not_not] at shape passes
      have length := hexDecode_length decoded
      simp only [compact, List.length_append, List.length_take, List.length_drop] at length
      exact ⟨raw, by omega, passes.2, passes.1.symm⟩
  · rintro ⟨raw, whole, v7, rfl⟩
    exact ⟨_, parseID_formatID whole v7⟩

theorem stamped_isV7 (millis : Nat) (e : Vector UInt8 16) : isV7 (stamped millis e) := by
  have version : ∀ b : BitVec 8, (b &&& 0x0f#8 ||| 0x70#8) >>> 4#8 = 7#8 := by decide
  have variant : ∀ b : BitVec 8, (b &&& 0x3f#8 ||| 0x80#8) >>> 6#8 = 2#8 := by decide
  exact ⟨UInt8.eq_of_toBitVec_eq (version e[6].toBitVec),
    UInt8.eq_of_toBitVec_eq (variant e[8].toBitVec)⟩

theorem stamped_number {millis : Nat} (range : millis < 2 ^ 48) (e : Vector UInt8 16) :
    number ((stamped millis e).take 6) = millis := by
  simp only [stamped, number, List.take_succ_cons, List.take_zero, List.foldl_cons,
    List.foldl_nil, UInt8.toNat_ofNat']
  omega

/-- The last `k` digits of a number, before a text. -/
def digits : Nat → Nat → Bytes → Bytes
  | 0, _, text => text
  | k + 1, n, text => hexDigit (n / 16 ^ k % 16) :: digits k n text

/-- Where the digits before are equal, a greater number has the greater digits. -/
theorem digits_lt {m n : Nat} {u v : Bytes} (k : Nat) (before : m / 16 ^ k = n / 16 ^ k)
    (less : m < n ∨ m = n ∧ u < v) : digits k m u < digits k n v := by
  induction k with
  | zero => exact (less.resolve_left (by omega)).2
  | succ k ih =>
    rw [Nat.pow_succ, ← Nat.div_div_eq_div_mul, ← Nat.div_div_eq_div_mul] at before
    rw [digits, digits, List.cons_lt_cons_iff]
    have ordered : m / 16 ^ k ≤ n / 16 ^ k := Nat.div_le_div_right (by omega)
    rcases Nat.lt_or_ge (m / 16 ^ k) (n / 16 ^ k) with lower | same
    · exact .inl (hexDigit_lt _ (by omega) _ (by omega) (by omega))
    · have equal := Nat.le_antisymm ordered same
      exact .inr ⟨by rw [equal], ih equal⟩

/-- An identifier is the digits of its time, and the rest. -/
theorem formatID_stamped (millis : Nat) (e : Vector UInt8 16) :
    ∃ rest, formatID (stamped millis e) =
      digits 8 (millis / 2 ^ 16) (45 :: digits 4 millis rest) := by
  refine ⟨(formatID (stamped millis e)).drop 13, ?_⟩
  simp only [formatID, stamped, digits, hexEncode, List.take_succ_cons, List.take_zero,
    List.drop_succ_cons, List.drop_zero, List.flatMap_cons, List.flatMap_nil, List.cons_append,
    List.nil_append, List.append_nil, UInt8.toNat_ofNat', List.cons.injEq, true_and,
    and_true]
  refine ⟨?_, ?_, ?_, ?_, ?_, ?_, ?_, ?_, ?_, ?_, ?_, ?_⟩ <;>
    exact congrArg hexDigit (by omega)

theorem newIDFrom_ok {now : Time} {random : Option (Except Error (Vector UInt8 16))}
    {id : Bytes} (made : newIDFrom now random = .ok id) :
    0 ≤ Agentd.unixMilli now ∧ Agentd.unixMilli now < 2 ^ 48 ∧
      ∃ e, id = formatID (stamped (Agentd.unixMilli now).toNat e) := by
  rcases random with _ | _ | e
  · cases made
  · cases (unless_ok.mp made).2
  · obtain ⟨range, made⟩ := unless_ok.mp made
    cases made
    exact ⟨by omega, by omega, e, rfl⟩

theorem formatID_lt {m n : Nat} (less : m < n) (range : n < 2 ^ 48) (e e' : Vector UInt8 16) :
    formatID (stamped m e) < formatID (stamped n e') := by
  obtain ⟨rest, before⟩ := formatID_stamped m e
  obtain ⟨rest', after⟩ := formatID_stamped n e'
  rw [before, after]
  refine digits_lt 8 (by omega) ?_
  rcases Nat.lt_or_ge (m / 2 ^ 16) (n / 2 ^ 16) with lower | same
  · exact .inl lower
  · exact .inr ⟨by omega,
      List.cons_lt_cons_iff.mpr (.inr ⟨rfl, digits_lt 4 (by omega) (.inl less)⟩)⟩

/-- The texts accepted are the formatted UUIDv7 values, every identifier made is one of them and
starts with its time, and a later millisecond gives a greater text. -/
theorem uuid_codec :
    (∀ value, (∃ id, parseID value = .ok id) ↔
      ∃ raw : Bytes, raw.length = 16 ∧ isV7 raw ∧ value = formatID raw) ∧
    (∀ now entropy, 0 ≤ Agentd.unixMilli now → Agentd.unixMilli now < 2 ^ 48 →
      ∃ raw : Bytes, newIDFrom now (some (.ok entropy)) = .ok (formatID raw) ∧
        parseID (formatID raw) = .ok (formatID raw) ∧ raw.length = 16 ∧
        number (raw.take 6) = Agentd.unixMilli now) ∧
    (∀ now later random random' id id', Agentd.unixMilli now < Agentd.unixMilli later →
      newIDFrom now random = .ok id → newIDFrom later random' = .ok id' → id < id') := by
  refine ⟨fun _ => parseID_ok, fun now entropy lower upper => ?_,
    fun now later random random' id id' less made made' => ?_⟩
  · refine ⟨stamped (Agentd.unixMilli now).toNat entropy, if_neg (by omega),
      parseID_formatID rfl (stamped_isV7 _ _), rfl, ?_⟩
    rw [stamped_number (by omega)]
    omega
  · obtain ⟨lower, -, e, rfl⟩ := newIDFrom_ok made
    obtain ⟨-, upper, e', rfl⟩ := newIDFrom_ok made'
    exact formatID_lt (by omega) (by omega) e e'

end ThinkPixelAR.Identifier
