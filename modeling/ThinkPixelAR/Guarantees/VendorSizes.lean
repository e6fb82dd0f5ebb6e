import ThinkPixelAR.Ports.Checkpoint
import ThinkPixelAR.Domain.RuntimeEvent
import ThinkPixelAR.Relational.Table

/-!
The vendor objects of a checkpoint manifest, as `Validate` in
`internal/app/checkpoint/restore.go` adds up their sizes and reads them. Sizes are `int64`
values and wrap; the bound that `NewRestoreValidator` puts on their sum keeps them from it.
-/
namespace ThinkPixelAR.Checkpoint

open Relational

/-- The fields of `port.VendorObject` that are read here. -/
structure ManifestObject where
  id : String
  algorithm : String
  digest : String
  size : Int64

/-- The bounds `NewRestoreValidator` requires. -/
structure RestoreValidator where
  maxVendorBytes : Int64
  positive : 0 < maxVendorBytes
  bounded : maxVendorBytes ≤ 9007199254740991

def sha256Hex (value : String) : Bool := RuntimeEvent.lowerHex 64 value

/-- The first loop over the objects, from the running total and the identifier before. -/
def vendorTotal (v : RestoreValidator) (previous : Option String) (total : Int64) :
    List ManifestObject → Except Error Int64
  | [] => .ok total
  | object :: rest =>
    if object.algorithm ≠ "sha-256" then .error errIncompatible
    else if sha256Hex object.digest = false ∨ object.size < 0 ∨
        object.size > v.maxVendorBytes - total ∨ previous.any (object.id ≤ ·) then
      .error errInvalidRestore
    else vendorTotal v (some object.id) (total + object.size) rest

/-- A vendor reader: its bytes, and whether it fails after them instead of ending. -/
structure Source where
  data : List UInt8
  fails : Bool

/-- How a `Read` goes: the context is done, or the reader hands over at most `offer` bytes
and, if `ends`, says that they were the last. -/
inductive ReadStep where
  | cancelled
  | reads (offer : Nat) (ends : Bool)

/-- `io.Copy` from `io.LimitReader(contextReader{ctx, reader}, limit)`, read by read: the bytes
taken from the reader and, once it has returned, whether it returned no error. -/
def copy (s : Source) (limit : Nat) : List ReadStep → List UInt8 × Option Bool
  | [] => ([], none)
  | step :: rest =>
    if limit = 0 then ([], some true)
    else
      match step with
      | .cancelled => ([], some false)
      | .reads offer ends =>
        let bytes := s.data.take (min offer (min 32768 limit))
        let left := s.data.drop bytes.length
        if left = [] ∧ ends then (bytes, some !s.fails)
        else
          let tail := copy { s with data := left } (limit - bytes.length) rest
          (bytes ++ tail.1, tail.2)

/-- What `OpenVendor` returned and how it is read and closed. -/
structure Opened where
  source : Source
  steps : List ReadStep
  closes : Bool

def Opened.copied (o : Opened) (object : ManifestObject) : List UInt8 × Option Bool :=
  copy o.source (object.size + 1).toNatClampNeg o.steps

/-- The second loop reads one object. A copy that has not returned accepts nothing. -/
def readVendor (sha256 : List UInt8 → String) (object : ManifestObject) (o : Opened) :
    Except Error Unit :=
  let copied := o.copied object
  refuse (copied.2 ≠ some true ∨ o.closes = false ∨ copied.1.length ≠ object.size.toInt ∨
    sha256 copied.1 ≠ object.digest) errInvalidRestore

/-- `Validate`. `before`, `between` and `after` are its checks that read no size. -/
def validate (v : RestoreValidator) (sha256 : List UInt8 → String)
    (before between after : Except Error Unit) (openVendor : ManifestObject → Except Error Opened)
    (vendors : List ManifestObject) : Except Error Unit := do
  before
  let _ ← vendorTotal v none 0 vendors
  between
  Rules.each (fun object => openVendor object >>= readVendor sha256 object) vendors
  after

variable {v : RestoreValidator} {previous : Option String} {total result : Int64}
  {seen rest vendors : List ManifestObject} {object : ManifestObject}

/-- The mathematical sum of the sizes. -/
def sizes (vendors : List ManifestObject) : Int := (vendors.map (·.size.toInt)).sum

theorem RestoreValidator.toInt_le (v : RestoreValidator) :
    v.maxVendorBytes.toInt ≤ 9007199254740991 := Int64.le_iff_toInt_le.mp v.bounded

theorem toInt_add_of_small {a b : Int64} (low : 0 ≤ a.toInt + b.toInt)
    (high : a.toInt + b.toInt ≤ 9007199254740991) : (a + b).toInt = a.toInt + b.toInt := by
  rw [Int64.toInt_add]
  exact Int.bmod_eq_of_le (by omega) (by omega)

/-- One object that is not refused fits into what is left. -/
theorem fits (low : 0 ≤ total.toInt) (high : total.toInt ≤ v.maxVendorBytes.toInt)
    (size : ¬ object.size < 0) (room : ¬ object.size > v.maxVendorBytes - total) :
    0 ≤ object.size.toInt ∧ total.toInt + object.size.toInt ≤ v.maxVendorBytes.toInt := by
  have bound := v.toInt_le
  rw [gt_iff_lt, Int64.lt_iff_toInt_lt] at room
  rw [Int64.lt_iff_toInt_lt] at size
  rw [Int64.toInt_sub, Int.bmod_eq_of_le (by omega) (by omega)] at room
  have zero : (0 : Int64).toInt = 0 := rfl
  omega

theorem vendorTotal_sum (low : 0 ≤ total.toInt) (high : total.toInt ≤ v.maxVendorBytes.toInt)
    (accepted : vendorTotal v previous total vendors = .ok result) :
    result.toInt = total.toInt + sizes vendors ∧ result.toInt ≤ v.maxVendorBytes.toInt ∧
      ∀ object ∈ vendors, 0 ≤ object.size.toInt ∧ object.size.toInt ≤ v.maxVendorBytes.toInt := by
  induction vendors generalizing previous total with
  | nil =>
    cases accepted
    exact ⟨(Int.add_zero _).symm, high, fun _ member => absurd member List.not_mem_nil⟩
  | cons object rest ih =>
    simp only [vendorTotal] at accepted
    split at accepted
    · cases accepted
    split at accepted
    · cases accepted
    next passes =>
      obtain ⟨-, positive, room, -⟩ := by simpa only [not_or] using passes
      have fit := fits low high positive room
      have bound := v.toInt_le
      have sum := toInt_add_of_small (a := total) (b := object.size) (by omega) (by omega)
      obtain ⟨value, below, each⟩ := ih (by omega) (by omega) accepted
      refine ⟨?_, below, List.forall_mem_cons.mpr ⟨by omega, each⟩⟩
      rw [value, sum, Int.add_assoc]
      rfl

theorem vendorTotal_append : vendorTotal v previous total (seen ++ rest) =
    (vendorTotal v previous total seen).bind fun running =>
      vendorTotal v ((seen.getLast?.map (·.id)).or previous) running rest := by
  induction seen generalizing previous total with
  | nil => rfl
  | cons object seen ih =>
    simp only [List.cons_append, vendorTotal]
    split
    · rfl
    split
    · rfl
    · rw [ih, List.getLast?_cons]
      cases seen.getLast? <;> rfl

/-- What is taken is a front part of the bytes, no longer than the limit; without an error it is
as long or it is all of them. -/
theorem copy_spec (s : Source) (limit : Nat) (steps : List ReadStep) :
    (copy s limit steps).1 <+: s.data ∧ (copy s limit steps).1.length ≤ limit ∧
      ((copy s limit steps).2 = some true →
        (copy s limit steps).1.length = limit ∨ (copy s limit steps).1 = s.data) := by
  induction steps generalizing s limit with
  | nil => exact ⟨List.nil_prefix, Nat.zero_le _, fun ended => by cases ended⟩
  | cons step rest ih =>
    unfold copy
    split
    · next zero => exact ⟨List.nil_prefix, Nat.zero_le _, fun _ => .inl zero.symm⟩
    cases step with
    | cancelled => exact ⟨List.nil_prefix, Nat.zero_le _, fun ended => by cases ended⟩
    | reads offer ends =>
      dsimp only
      have short := List.length_take_le (min offer (min 32768 limit)) s.data
      have parts := List.prefix_iff_eq_append.mp
        (List.take_prefix (min offer (min 32768 limit)) s.data)
      generalize s.data.take (min offer (min 32768 limit)) = bytes at short parts ⊢
      split
      · next last =>
        rw [last.1, List.append_nil] at parts
        exact ⟨parts ▸ List.prefix_refl _, by simp only; omega, fun _ => .inr parts⟩
      · obtain ⟨front, bound, ended⟩ :=
          ih { s with data := s.data.drop bytes.length } (limit - bytes.length)
        simp only [List.length_append]
        refine ⟨?_, by omega, fun done => (ended done).imp (fun full => by omega) fun all => ?_⟩
        · have whole : bytes ++ _ <+: bytes ++ s.data.drop bytes.length :=
            (List.prefix_append_right_inj bytes).mpr front
          rwa [parts] at whole
        · rw [all]
          exact parts

/-- The limit of an admitted object is one byte more than its size. -/
theorem limit_eq (low : 0 ≤ object.size.toInt)
    (high : object.size.toInt ≤ v.maxVendorBytes.toInt) :
    ((object.size + 1).toNatClampNeg : Int) = object.size.toInt + 1 := by
  have bound := v.toInt_le
  have one : (1 : Int64).toInt = 1 := rfl
  have next : (object.size + 1).toInt = object.size.toInt + 1 := by
    rw [Int64.toInt_add, one]
    exact Int.bmod_eq_of_le (by omega) (by omega)
  rw [Int64.toNatClampNeg, next]
  omega

theorem readVendor_size {sha256 : List UInt8 → String} {o : Opened}
    (low : 0 ≤ object.size.toInt) (high : object.size.toInt ≤ v.maxVendorBytes.toInt)
    (accepted : readVendor sha256 object o = .ok ()) :
    o.source.data.length = object.size.toInt := by
  have passes := refuse_ok.mp accepted
  simp only [not_or, not_not] at passes
  obtain ⟨ended, -, count, -⟩ := passes
  have limit := limit_eq low high
  rcases (copy_spec o.source _ o.steps).2.2 ended with full | all
  · rw [Opened.copied] at count
    omega
  · rw [← all]
    exact count

/-- The running total is the sum of the sizes seen so far, for every part of the list that the
loop has passed; of an object that was passed at most one byte more than its size is read,
however the reads go; and a manifest is accepted only if the whole sum is within the bound and
every object's reader had as many bytes as its size. -/
theorem vendor_size_accounting (v : RestoreValidator) (sha256 : List UInt8 → String)
    (seen rest : List ManifestObject) :
    (∀ running, vendorTotal v none 0 seen = .ok running →
      running.toInt = sizes seen ∧ running.toInt ≤ v.maxVendorBytes.toInt ∧
      vendorTotal v none 0 (seen ++ rest) =
        vendorTotal v (seen.getLast?.map (·.id)) running rest ∧
      ∀ object ∈ seen, ∀ o : Opened, (o.copied object).1 <+: o.source.data ∧
        (o.copied object).1.length ≤ object.size.toInt + 1) ∧
    ∀ before between after openVendor,
      validate v sha256 before between after openVendor seen = .ok () →
      sizes seen ≤ v.maxVendorBytes.toInt ∧ ∀ object ∈ seen, ∃ o,
        openVendor object = .ok o ∧ o.source.data.length = object.size.toInt := by
  have start : 0 ≤ v.maxVendorBytes.toInt :=
    Int.le_of_lt (Int64.lt_iff_toInt_lt.mp v.positive)
  have total : ∀ {running}, vendorTotal v none 0 seen = .ok running →
      running.toInt = sizes seen ∧ running.toInt ≤ v.maxVendorBytes.toInt ∧
      ∀ object ∈ seen, 0 ≤ object.size.toInt ∧ object.size.toInt ≤ v.maxVendorBytes.toInt := by
    intro running passed
    have low : 0 ≤ (0 : Int64).toInt := Int.le_refl 0
    obtain ⟨sum, rest⟩ := vendorTotal_sum low start passed
    exact ⟨sum.trans (Int.zero_add _), rest⟩
  refine ⟨fun running passed => ?_, fun before between after openVendor accepted => ?_⟩
  · obtain ⟨sum, below, each⟩ := total passed
    refine ⟨sum, below, ?_, fun object member o => ?_⟩
    · rw [vendorTotal_append, passed, Option.or_none]
      rfl
    · obtain ⟨front, short, -⟩ := copy_spec o.source (object.size + 1).toNatClampNeg o.steps
      have limit := limit_eq (each object member).1 (each object member).2
      exact ⟨front, by rw [Opened.copied]; omega⟩
  · obtain ⟨running, passed, accepted⟩ := except_bind_ok.mp (except_seq_ok.mp accepted).2
    obtain ⟨sum, below, each⟩ := total passed
    refine ⟨sum ▸ below, fun object member => ?_⟩
    have reads := (except_seq_ok.mp (except_seq_ok.mp accepted).2).1
    obtain ⟨o, opened, read⟩ := except_bind_ok.mp (Rules.each_ok.mp reads object member)
    exact ⟨o, opened, readVendor_size (each object member).1 (each object member).2 read⟩

namespace Sample

/-- The SHA-256 sums of the bytes below. -/
def sha256 (data : List UInt8) : String :=
  match data with
  | [] => "e3b0c44298fc1c149afbf4c8996fb92427ae41e4649b934ca495991b7852b855"
  | [1, 2, 3] => "039058c6f2c0cb492c533b0a4d14ef77cc0f78abccced5287d84a1a2011cfb81"
  | _ => "74f81fe167d99b4cb41d6d0ccda82278caee9f3e2f25d5e5a3936ff3dcec60d0"

/-- An object with its bytes. -/
def stored (id : String) (data : List UInt8) : ManifestObject :=
  { id, algorithm := "sha-256", digest := sha256 data, size := .ofNat data.length }

def manifest : List ManifestObject :=
  [stored "a" [1, 2, 3], stored "b" [], stored "c" [1, 2, 3, 4, 5]]

/-- The sizes of the manifest fill the bound. -/
def validator : RestoreValidator := ⟨8, by decide, by decide⟩

/-- Every object is handed over two bytes at a time. -/
def openVendor (object : ManifestObject) : Except Error Opened :=
  .ok
    { source := { data := [1, 2, 3, 4, 5].take object.size.toNatClampNeg, fails := false }
      steps := List.replicate 4 (.reads 2 true), closes := true }

theorem manifest_accepted :
    validate validator sha256 (.ok ()) (.ok ()) (.ok ()) openVendor manifest = .ok () := by
  decide +kernel

end Sample

theorem vendor_size_accounting_full :
    validate Sample.validator Sample.sha256 (.ok ()) (.ok ()) (.ok ()) Sample.openVendor
        Sample.manifest = .ok () ∧
      sizes Sample.manifest = 8 ∧ sizes Sample.manifest ≤ Sample.validator.maxVendorBytes.toInt ∧
      ∀ object ∈ Sample.manifest, ∃ o, Sample.openVendor object = .ok o ∧
        o.source.data.length = object.size.toInt := by
  have accounted := vendor_size_accounting Sample.validator Sample.sha256 Sample.manifest []
  exact ⟨Sample.manifest_accepted, by decide, accounted.2 _ _ _ _ Sample.manifest_accepted⟩

end ThinkPixelAR.Checkpoint
