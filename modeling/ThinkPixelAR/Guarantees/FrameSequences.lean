import ThinkPixelAR.Adapters.Control
import ThinkPixelAR.Guarantees.Identifiers

/-!
The two guards on the frames of a connection and direction: `Sequences.Check` in memory, and
`policySequence` on the row of `agentd_frame_sequences` with their key
(`internal/adapters/postgres/agentd_policy.go`). The row its foreign key names was read
before in the same transaction, and the form of `frame_digest` is that of every SHA-256 text.
-/
namespace ThinkPixelAR.Control

open Handshake (Bytes)

def errAgentdPolicy : Error := .new "agentd policy rejected"

/-- `sandbox.Digest`, from the hash. -/
def digestText (sum : Bytes) : Bytes := "sha256:".toUTF8.toList ++ Identifier.hexEncode sum

/-- The columns of the row beside its key. -/
structure SequenceRow where
  sequence : Nat
  frameDigest : Bytes

variable (lib : Library) (failed : Error)

/-- `policySequence`; `none` is `sql.ErrNoRows`, which leaves the zero values, and `failed` an
error of the encoding or of the database. -/
def policySequence (row : Option SequenceRow) (f : Envelope) :
    Except Error (Option SequenceRow) :=
  match lib.frameHash f with
  | none => .error failed
  | some sum =>
    let old := row.getD ⟨0, []⟩
    if f.sequence = old.sequence ∧ digestText sum = old.frameDigest then .ok row
    else if f.sequence ≠ increment old.sequence then .error errAgentdPolicy
    -- the type and the check of the column
    else if f.sequence = 0 ∨ maxInt64 < f.sequence then .error failed
    else .ok (some ⟨f.sequence, digestText sum⟩)

inductive Verdict where
  | refused
  | replayed
  | new
deriving DecidableEq

/-- What a guard says: a replay leaves it as it was, a new frame moves its number. -/
def verdict {σ : Type} (number : σ → Nat) (before : σ) : Except Error σ → Verdict
  | .error _ => .refused
  | .ok after => if number after = number before then .replayed else .new

/-- A guard after a frame, which changes nothing when refused. -/
def taken {σ : Type} (before : σ) : Except Error σ → σ
  | .error _ => before
  | .ok after => after

def rowNumber (row : Option SequenceRow) : Nat := row.elim 0 (·.sequence)

/-- A frame whose number a `bigint` column with `CHECK(sequence>0)` can hold. -/
abbrev Frame := { f : Envelope // 0 < f.sequence ∧ f.sequence ≤ maxInt64 }

/-- The row holds the number and the hash kept in memory, or there is none and no frame was
taken. -/
def Mirrors (s : Sequences) : Option SequenceRow → Prop
  | none => s.sequence = 0
  | some row => row = ⟨s.sequence, digestText s.last⟩ ∧ 0 < s.sequence ∧ s.sequence ≤ maxInt64

theorem digestText_inj {a b : Bytes} : digestText a = digestText b ↔ a = b := by
  refine ⟨fun same => ?_, congrArg _⟩
  have decoded := congrArg Identifier.hexDecode (List.append_cancel_left same)
  rwa [Identifier.hexDecode_encode, Identifier.hexDecode_encode, Option.some.injEq] at decoded

theorem Mirrors.number {s : Sequences} {row : Option SequenceRow} (mirrors : Mirrors s row) :
    rowNumber row = s.sequence ∧ s.sequence ≤ maxInt64 := by
  cases row with
  | none => exact ⟨mirrors.symm, mirrors ▸ Nat.zero_le _⟩
  | some row => exact ⟨congrArg (·.sequence) mirrors.1, mirrors.2.2⟩

/-- The two tests for a replay agree. -/
theorem Mirrors.replay {s : Sequences} {row : Option SequenceRow} (mirrors : Mirrors s row)
    {n : Nat} (positive : 0 < n) (sum : Bytes) :
    n = (row.getD ⟨0, []⟩).sequence ∧ digestText sum = (row.getD ⟨0, []⟩).frameDigest ↔
      (n = s.sequence ∧ s.sequence ≠ 0) ∧ sum = s.last := by
  cases row with
  | none =>
    have empty : s.sequence = 0 := mirrors
    simp [empty, positive.ne']
  | some row =>
    obtain ⟨rfl, used, -⟩ := mirrors
    simp [digestText_inj, used.ne']

/-- One frame gets the same verdict from both, and leaves them mirroring each other. -/
theorem Mirrors.step {s : Sequences} {row : Option SequenceRow} (mirrors : Mirrors s row)
    (f : Frame) :
    verdict (·.sequence) s (s.check lib f) =
        verdict rowNumber row (policySequence lib failed row f) ∧
      Mirrors (taken s (s.check lib f)) (taken row (policySequence lib failed row f)) := by
  obtain ⟨same, bounded⟩ := mirrors.number
  have old : (row.getD ⟨0, []⟩).sequence = s.sequence := by cases row <;> exact same
  have room : s.sequence ≠ maxUint64 := (lt_of_le_of_lt bounded (by decide)).ne
  rw [Sequences.check, policySequence]
  cases lib.frameHash f with
  | none => exact ⟨rfl, mirrors⟩
  | some sum =>
    simp only [mirrors.replay f.2.1 sum]
    simp only [old, increment_eq_of_le bounded, Bool.and_eq_true, Bool.or_eq_true,
      decide_eq_true_eq, room, false_or]
    by_cases replay : (f.1.sequence = s.sequence ∧ s.sequence ≠ 0) ∧ sum = s.last
    · rw [if_pos replay, if_pos replay]
      exact ⟨by simp only [verdict, reduceIte], mirrors⟩
    rw [if_neg replay, if_neg replay]
    by_cases next : f.1.sequence = s.sequence + 1
    · have held : ¬ (f.1.sequence = 0 ∨ maxInt64 < f.1.sequence) := by omega
      rw [if_neg (not_not.mpr next), if_neg (not_not.mpr next), if_neg held]
      refine ⟨?_, rfl, f.2⟩
      show (if _ then _ else _) = (if f.1.sequence = rowNumber row then _ else _)
      rw [same]
    · rw [if_pos next, if_pos next]
      exact ⟨rfl, mirrors⟩

/-- The row the frames of a history leave, and the value in memory. -/
def ledgers (history : List Frame) : Sequences × Option SequenceRow :=
  history.foldl (fun at_ (f : Frame) => (taken at_.1 (at_.1.check lib f),
    taken at_.2 (policySequence lib failed at_.2 f))) (.zero, none)

theorem ledgers_mirror (history : List Frame) :
    Mirrors (ledgers lib failed history).1 (ledgers lib failed history).2 := by
  refine List.foldlRecOn history _
    (motive := fun at_ : Sequences × Option SequenceRow => Mirrors at_.1 at_.2) ?_ ?_
  · exact rfl
  · intro at_ mirrors f _
    exact (mirrors.step lib failed f).2

/-- After every history, the value in memory and the row judge the next frame alike. -/
theorem ledgers_agree (history : List Frame) (next : Frame) :
    verdict (·.sequence) (ledgers lib failed history).1
        ((ledgers lib failed history).1.check lib next) =
      verdict rowNumber (ledgers lib failed history).2
        (policySequence lib failed (ledgers lib failed history).2 next) :=
  ((ledgers_mirror lib failed history).step lib failed next).1

/-- The frames `Check` takes as new of those that arrive. -/
def fresh (s : Sequences) : List Envelope → List Envelope
  | [] => []
  | f :: rest =>
    let after := taken s (s.check lib f)
    if after.sequence = s.sequence then fresh after rest else f :: fresh after rest

/-- Whatever arrives, the frames taken are numbered on from the last one, with no gap and no
repetition. -/
theorem fresh_numbered (s : Sequences) (frames : List Envelope) :
    (fresh lib s frames).map (·.sequence) =
      List.range' (s.sequence + 1) (fresh lib s frames).length := by
  induction frames generalizing s with
  | nil => rfl
  | cons f rest ih =>
    simp only [fresh]
    split
    next same => rw [← same, ih]
    next new =>
      have next : (taken s (s.check lib f)).sequence = f.sequence ∧
          f.sequence = s.sequence + 1 := by
        unfold Sequences.check at new ⊢
        grind [taken]
      rw [List.map_cons, ih, List.length_cons, List.range'_succ, next.1, next.2]

end ThinkPixelAR.Control
