import Mathlib.Data.List.Perm.Basic
import Mathlib.Tactic.NormNum

/-!
The limits on open event streams, over any order of acquiring and releasing them.

`internal/adapters/http/session_events.go` keeps four counters under one mutex, so the calls
of concurrent requests are some sequence of operations. A map that counts the occurrences of
its keys is treated first, for keys of any type.
-/
namespace ThinkPixelAR.Http

/-! ### Maps of counters -/

section Counters

variable {κ : Type} [DecidableEq κ]

/-- A Go map of counters. The nil map, which is only read, is the empty one. -/
def Counters (κ : Type) : Type := κ → Option Int

/-- A missing key reads as zero. -/
def Counters.read (m : Counters κ) (key : κ) : Int := (m key).getD 0

def Counters.set (m : Counters κ) (key : κ) (value : Option Int) : Counters κ :=
  fun other => if other = key then value else m other

/-- `m[key]++`. -/
def Counters.increment (m : Counters κ) (key : κ) : Counters κ :=
  m.set key (some (m.read key + 1))

/-- `m[key]--`, and the entry is deleted at zero. -/
def Counters.decrement (m : Counters κ) (key : κ) : Counters κ :=
  if m.read key - 1 = 0 then m.set key none else m.set key (some (m.read key - 1))

/-- The map counts the occurrences in `keys`, none above the ceiling, and has no entry for a
key that does not occur. -/
structure Counters.Tallies (m : Counters κ) (keys : List κ) (ceiling : Nat) : Prop where
  read : ∀ key, m.read key = keys.count key
  within : ∀ key, keys.count key ≤ ceiling
  live : ∀ key, m key ≠ none → key ∈ keys

variable {m : Counters κ} {keys rest : List κ} {key : κ} {ceiling : Nat}

theorem Counters.Tallies.perm (tallies : m.Tallies keys ceiling) (order : keys.Perm rest) :
    m.Tallies rest ceiling where
  read := fun key => order.count_eq key ▸ tallies.read key
  within := fun key => order.count_eq key ▸ tallies.within key
  live := fun key entry => order.mem_iff.mp (tallies.live key entry)

theorem Counters.read_set (m : Counters κ) (key other : κ) (value : Option Int) :
    (m.set key value).read other = if other = key then value.getD 0 else m.read other := by
  simp only [Counters.read, Counters.set]
  split <;> rfl

theorem Counters.Tallies.increment (tallies : m.Tallies keys ceiling)
    (below : m.read key < ceiling) : (m.increment key).Tallies (key :: keys) ceiling := by
  rw [tallies.read key] at below
  refine ⟨fun other => ?_, fun other => ?_, fun other entry => ?_⟩
  · rw [Counters.increment, Counters.read_set, tallies.read, tallies.read]
    split
    · next same => rw [same, List.count_cons_self]; rfl
    · next different => rw [List.count_cons_of_ne (Ne.symm different)]
  · by_cases same : other = key
    · rw [same, List.count_cons_self]
      exact_mod_cast below
    · rw [List.count_cons_of_ne (Ne.symm same)]
      exact tallies.within other
  · rw [Counters.increment, Counters.set] at entry
    split at entry
    · next same => exact same ▸ List.mem_cons_self
    · exact List.mem_cons_of_mem key (tallies.live other entry)

theorem Counters.Tallies.decrement (tallies : m.Tallies (key :: keys) ceiling) :
    (m.decrement key).Tallies keys ceiling := by
  have held : m.read key - 1 = keys.count key := by
    rw [tallies.read, List.count_cons_self]
    omega
  have others : ∀ other, other ≠ key → (m.read other = keys.count other ∧
      (m other ≠ none → other ∈ keys)) := by
    intro other different
    refine ⟨by rw [tallies.read, List.count_cons_of_ne (Ne.symm different)], fun entry => ?_⟩
    exact (List.mem_cons.mp (tallies.live other entry)).resolve_left different
  refine ⟨fun other => ?_, fun other => ?_, fun other entry => ?_⟩
  · rw [Counters.decrement, held]
    split <;> rw [Counters.read_set] <;> split
    · next zero same => rw [same, zero]; rfl
    · next different => exact (others other different).1
    · next same => rw [same]; rfl
    · next different => exact (others other different).1
  · exact ((List.sublist_cons_self key keys).count_le other).trans (tallies.within other)
  · by_cases same : other = key
    · -- The entry of the key itself is only kept when the count is not zero.
      rw [Counters.decrement, held, same] at entry
      split at entry
      · exact absurd (if_pos rfl) entry
      · next positive => exact same ▸ List.count_pos_iff.mp (by omega)
    · refine (others other same).2 fun absent => entry ?_
      rw [Counters.decrement]
      split <;> exact (if_neg same).trans absent

end Counters

/-! ### The stream limits -/

/-- The keys one acquisition counts under, and that its release function captures. -/
structure Stream where
  tenant : String
  principal : String
  ip : String

structure StreamLimits where
  total : Int
  tenants : Counters String
  principals : Counters String
  ips : Counters String

namespace StreamLimits

/-- `&streamLimits{}`. -/
def zero : StreamLimits := ⟨0, fun _ => none, fun _ => none, fun _ => none⟩

/-- `acquire`; the flag says whether a release function was returned. -/
def acquire (l : StreamLimits) (s : Stream) : StreamLimits × Bool :=
  if l.total ≥ 128 ∨ l.tenants.read s.tenant ≥ 32 ∨ l.principals.read s.principal ≥ 4 ∨
      l.ips.read s.ip ≥ 16 then
    (l, false)
  else
    ({ total := l.total + 1
       tenants := l.tenants.increment s.tenant
       principals := l.principals.increment s.principal
       ips := l.ips.increment s.ip }, true)

/-- The function `acquire` returns. -/
def release (l : StreamLimits) (s : Stream) : StreamLimits where
  total := l.total - 1
  tenants := l.tenants.decrement s.tenant
  principals := l.principals.decrement s.principal
  ips := l.ips.decrement s.ip

/-- One call. A release names a live acquisition by its position. -/
inductive Operation where
  | acquire (s : Stream)
  | release (position : Nat)

/-- The limits and the acquisitions that have not been released. -/
def step (state : StreamLimits × List Stream) : Operation → StreamLimits × List Stream
  | .acquire s =>
    let result := state.1.acquire s
    (result.1, if result.2 then s :: state.2 else state.2)
  | .release position =>
    match state.2[position]? with
    | none => state
    | some s => (state.1.release s, state.2.eraseIdx position)

/-- The state after a sequence of calls on fresh limits. -/
def run (operations : List Operation) : StreamLimits × List Stream :=
  operations.foldl step (zero, [])

/-- Every counter is the number of live acquisitions under its key, within its ceiling. -/
structure Accounts (l : StreamLimits) (live : List Stream) : Prop where
  total : l.total = live.length
  within : live.length ≤ 128
  tenants : l.tenants.Tallies (live.map Stream.tenant) 32
  principals : l.principals.Tallies (live.map Stream.principal) 4
  ips : l.ips.Tallies (live.map Stream.ip) 16

variable {l : StreamLimits} {live rest : List Stream} {s : Stream}

theorem Accounts.perm (accounts : l.Accounts live) (order : live.Perm rest) :
    l.Accounts rest where
  total := order.length_eq ▸ accounts.total
  within := order.length_eq ▸ accounts.within
  tenants := accounts.tenants.perm (order.map _)
  principals := accounts.principals.perm (order.map _)
  ips := accounts.ips.perm (order.map _)

theorem Accounts.release (accounts : l.Accounts (s :: rest)) :
    (l.release s).Accounts rest where
  total := by
    have total := accounts.total
    rw [List.length_cons, Int.natCast_add, Int.natCast_one] at total
    exact Int.sub_eq_iff_eq_add.mpr total
  within := Nat.le_of_succ_le accounts.within
  tenants := accounts.tenants.decrement
  principals := accounts.principals.decrement
  ips := accounts.ips.decrement

theorem Accounts.acquire (accounts : l.Accounts live) (s : Stream) :
    (l.acquire s).1.Accounts (if (l.acquire s).2 then s :: live else live) := by
  rw [StreamLimits.acquire]
  split
  · exact accounts
  · next free =>
    simp only [not_or, ge_iff_le, Int.not_le, accounts.total] at free
    refine ⟨by rw [accounts.total]; rfl, by exact_mod_cast free.1, ?_, ?_, ?_⟩
    · exact accounts.tenants.increment free.2.1
    · exact accounts.principals.increment free.2.2.1
    · exact accounts.ips.increment free.2.2.2

theorem accounts_step {state : StreamLimits × List Stream} (accounts : state.1.Accounts state.2)
    (operation : Operation) : (step state operation).1.Accounts (step state operation).2 := by
  cases operation with
  | acquire s => exact accounts.acquire s
  | release position =>
    rw [step]
    split
    · exact accounts
    · next s found =>
      obtain ⟨bound, rfl⟩ := List.getElem?_eq_some_iff.mp found
      -- The position only says which of the live acquisitions is ended.
      exact (accounts.perm (List.getElem_cons_eraseIdx_perm bound).symm).release

/-- After any sequence of calls the counters are the numbers of live acquisitions, in total
and for every key, so never negative, and none is above its ceiling; a map has an entry for a
key only while an acquisition under it is live; and a call that is refused changes nothing. -/
theorem stream_accounting (operations : List Operation) :
    (run operations).1.Accounts (run operations).2 ∧
    ∀ s, ((run operations).1.acquire s).2 = false →
      ((run operations).1.acquire s).1 = (run operations).1 := by
  have empty : ∀ ceiling, Counters.Tallies (fun _ => none) ([] : List String) ceiling :=
    fun ceiling => ⟨fun _ => rfl, fun _ => Nat.zero_le _, fun _ entry => absurd rfl entry⟩
  have start : zero.Accounts [] := ⟨rfl, Nat.zero_le _, empty 32, empty 4, empty 16⟩
  refine ⟨?_, fun s refused => ?_⟩
  · refine List.foldlRecOn (motive := fun state => state.1.Accounts state.2) operations step
      (b := (zero, [])) start ?_
    exact fun _ accounts operation _ => accounts_step accounts operation
  · rw [acquire] at refused ⊢
    split
    · rfl
    · next free => rw [if_neg free] at refused; cases refused

end StreamLimits

end ThinkPixelAR.Http
