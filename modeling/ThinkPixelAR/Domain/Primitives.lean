import Mathlib.Data.BitVec

/-!
Values shared by the aggregates: identifiers, instants, digests, bounded text
and the errors of the Go code (`internal/primitives`).

One tenant is modelled. Row-level security gives each tenant its own rows, so
the tenant column and the tenant check of each repository are left out.
-/
namespace ThinkPixelAR

/-- A Go error: a sentinel or fresh text, `sql.ErrNoRows`, a `pgconn.PgError` with
its SQLSTATE, or a cause wrapped by `fmt.Errorf("%s: %w")`. -/
inductive Error where
  | new (text : String)
  | noRows
  | database (code message : String)
  | wrap (operation : String) (cause : Error)
deriving DecidableEq

/-- `errors.Is` for sentinels. -/
def Error.is : Error → Error → Bool
  | .wrap operation cause, target =>
    decide (Error.wrap operation cause = target) || cause.is target
  | e, target => decide (e = target)

/-- `errors.As` for a `pgconn.PgError`: its SQLSTATE. -/
def Error.code : Error → Option String
  | .database code _ => some code
  | .wrap _ cause => cause.code
  | _ => none

/-- Success of a function that first refuses. -/
theorem unless_ok {ε α : Type} {c : Prop} [Decidable c] {e : ε} {x : Except ε α} {a : α} :
    (if c then .error e else x) = .ok a ↔ ¬ c ∧ x = .ok a := by
  split <;> simp [*]

/-- Success of a function that refuses unless a condition holds. -/
theorem when_ok {ε α : Type} {c : Prop} [Decidable c] {e : ε} {x : Except ε α} {a : α} :
    (if c then x else .error e) = .ok a ↔ c ∧ x = .ok a := by
  split <;> simp [*]

/-- The 128 bits of a UUID in canonical text. -/
structure ID where
  bits : BitVec 128
deriving DecidableEq

/-- `primitives.ParseID` accepts version 7 with the RFC variant only. -/
def validID (id : ID) : Bool :=
  decide (id.bits.extractLsb' 76 4 = 7) && decide (id.bits.extractLsb' 62 2 = 2)

/-- The version 7 identifier with the given low bits. -/
def ID.v7 (n : Nat) : ID := ⟨7#128 <<< 76 ||| 2#128 <<< 62 ||| BitVec.ofNat 128 n⟩

/-- An instant in nanoseconds since Go's zero time, so `t.IsZero()` is `t = 0`. Instants
before that time are negative. -/
abbrev Time := Int

/-- `math.MaxInt64`, the largest value of a `bigint` column. -/
def maxInt64 : Nat := 9223372036854775807

/-- `n++` on a `uint64`. -/
def increment (n : Nat) : Nat := (n + 1) % 2 ^ 64

theorem increment_eq {n : Nat} (room : n < 2 ^ 64 - 1) : increment n = n + 1 :=
  Nat.mod_eq_of_lt (by omega)

theorem increment_pos {n : Nat} (room : n < 2 ^ 64 - 1) : 0 < increment n := by
  rw [increment_eq room]
  exact Nat.succ_pos n

theorem increment_lt (n : Nat) : increment n < 2 ^ 64 := Nat.mod_lt _ (by decide)

theorem increment_ne (n : Nat) : increment n ≠ n := by
  unfold increment
  omega

theorem increment_eq_of_le {n : Nat} (bounded : n ≤ maxInt64) : increment n = n + 1 :=
  increment_eq (lt_of_le_of_lt bounded (by decide))

/-- A text `sha256:` followed by 64 lower-case hexadecimal digits. Text that does
not match the pattern is not a digest; where the code checks the pattern the
argument is an `Option Digest`. -/
structure Digest where
  bits : BitVec 256
deriving DecidableEq

/-- `primitives.BoundedString(value, 1, max, max)`: Lean strings are UTF-8 and
have at most as many runes as bytes. -/
def boundedString (max : Nat) (value : String) : Bool :=
  decide (1 ≤ value.utf8ByteSize) && decide (value.utf8ByteSize ≤ max)

/-- The characters of a name after its first, which is a letter or a digit. -/
def isNameChar (c : Char) : Bool :=
  c.isAlphanum || c = '.' || c = '_' || c = ':' || c = '/' || c = '-'

/-- `boundedName`: at most `max` bytes that match the name pattern. -/
def boundedName (max : Nat) (value : String) : Bool :=
  decide (value.utf8ByteSize ≤ max) &&
    match value.toList with
    | [] => false
    | first :: rest => first.isAlphanum && rest.all isNameChar

/-- No zero byte, and at most `max` bytes. -/
def boundedText (max : Nat) (value : String) : Bool :=
  decide (value.utf8ByteSize ≤ max) && value.toList.all (· != '\x00')

/-- `LOCAL` and `THINKPIXEL_AG`; any other text fails the binding checks. -/
inductive AuthorityMode where
  | localAuthority
  | thinkpixelAG
deriving DecidableEq

end ThinkPixelAR
