import ThinkPixelAR.Relational.Monitors
import ThinkPixelAR.App.Reconnect

/-!
The connection loop over every sequence of answers. A protocol says which call may come
next; the trace of the loop follows it, and what such a trace satisfies is proved of the
protocol alone.
-/
namespace ThinkPixelAR.App

open Handshake (Bytes)
open Relational

/-! ### Reading a trace -/

namespace ReconnectMark

def dials : ReconnectMark → Option ClientConfig
  | connect config => some config
  | _ => none

def recoveries : ReconnectMark → Option Time
  | recovery now => some now
  | _ => none

/-- A session that ends a burst of attempts. -/
def renews : ReconnectMark → Bool
  | session duration previous leaf => second ≤ duration || previous ≠ leaf
  | _ => false

/-- The leaf certificate in use after the mark. -/
def leafAfter (leaf : Bytes) : ReconnectMark → Bytes
  | session _ _ leaf => leaf
  | recovered next => next.certificate.headD []
  | _ => leaf

end ReconnectMark

abbrev ReconnectTrace := List ReconnectMark

/-- No proof is the empty text. -/
def unspent (proof : Bytes) : List Bytes := if proof = [] then [] else [proof]

namespace ReconnectTrace

def dials (trace : ReconnectTrace) : List ClientConfig := trace.filterMap ReconnectMark.dials
def recoveries (trace : ReconnectTrace) : List Time := trace.filterMap ReconnectMark.recoveries

/-- The proofs passed to `connect`, in order. -/
def presented (trace : ReconnectTrace) : List Bytes :=
  trace.dials.flatMap fun config => unspent config.hello.bootstrapProof

/-- The proofs obtained: the initial one and those of recoveries. -/
def obtained (initial : TransportBootstrap) (trace : ReconnectTrace) : List Bytes :=
  unspent initial.proof ++ trace.flatMap fun
    | .recovered next => unspent next.proof
    | _ => []

def leaf (initial : TransportBootstrap) (trace : ReconnectTrace) : Bytes :=
  trace.foldl ReconnectMark.leafAfter (initial.certificate.headD [])

end ReconnectTrace

open ReconnectTrace

/-! ### The protocol -/

/-- What the last call of `Disconnected` or `connect` left. -/
inductive Fence where
  | unconnected
  | connected
  | stopped
  | failed

structure ReconnectState where
  fence : Fence
  recovered : Bool
  proof : Bytes
  burst : Nat
  leaf : Bytes

def ReconnectState.start (b : TransportBootstrap) : ReconnectState :=
  ⟨.unconnected, false, b.proof, 0, b.certificate.headD []⟩

inductive ReconnectAdvances (lib : Credentials) (p : ReconnectState) :
    ReconnectMark → ReconnectState → Prop
  | connect (config : ClientConfig) (free : p.fence = .unconnected ∨ p.fence = .stopped)
      (proof : config.hello.bootstrapProof = p.proof) (room : p.burst < 8) :
      ReconnectAdvances lib p (.connect config)
        { p with fence := .connected, proof := [], burst := p.burst + 1 }
  | serve (renewal : Int) : ReconnectAdvances lib p (.serve renewal) p
  | session (duration : Int) (leaf : Bytes) :
      ReconnectAdvances lib p (.session duration p.leaf leaf)
        { p with
          leaf := leaf
          burst := if ReconnectMark.renews (.session duration p.leaf leaf) then 0 else p.burst }
  | disconnected (succeeded : Bool) (sound : p.fence ≠ .failed) :
      ReconnectAdvances lib p (.disconnected succeeded)
        { p with fence := if succeeded then .stopped else .failed }
  | recovery (now notAfter : Time) (stopped : p.fence = .stopped) (first : p.recovered = false)
      (parsed : lib.notAfter p.leaf = some notAfter) (expired : notAfter ≤ now) :
      ReconnectAdvances lib p (.recovery now) { p with recovered := true }
  | recovered (next : TransportBootstrap) :
      ReconnectAdvances lib p (.recovered next)
        { p with proof := next.proof, leaf := next.certificate.headD [] }

/-! ### What a trace that follows the protocol satisfies -/

section Protocol
variable {lib : Credentials} {initial : TransportBootstrap} {trace : ReconnectTrace}
  {p q : ReconnectState} {m : ReconnectMark}

/-- Every connection of the trace was followed by a `Disconnected` that succeeded. -/
def Stopped (trace : ReconnectTrace) : Prop :=
  ∀ first config later, trace = first ++ .connect config :: later → .disconnected true ∈ later

theorem Stopped.concat (stopped : Stopped trace) (other : m.dials = none) :
    Stopped (trace ++ [m]) := by
  intro first config later split
  rcases split_append split with ⟨rest, inTrace, rfl⟩ | ⟨rest, _, last⟩
  · exact List.mem_append_left _ (stopped first config rest inTrace)
  · have member : ReconnectMark.connect config ∈ [m] := by simp [last]
    rw [List.mem_singleton] at member
    subst member
    simp [ReconnectMark.dials] at other

theorem stopped_of_disconnected (trace : ReconnectTrace) :
    Stopped (trace ++ [.disconnected true]) := by
  intro first config later split
  rcases split_append split with ⟨rest, _, rfl⟩ | ⟨rest, _, last⟩
  · simp
  · have member : ReconnectMark.connect config ∈ [.disconnected true] := by simp [last]
    simp at member

/-- What each state of the fence says of the trace. -/
def Fenced (trace : ReconnectTrace) : Fence → Prop
  | .unconnected => trace.dials = [] ∧ .disconnected false ∉ trace
  | .connected => .disconnected false ∉ trace
  | .stopped => Stopped trace ∧ .disconnected true ∈ trace ∧ .disconnected false ∉ trace
  | .failed => True

/-- The protocol's variables read off the trace. -/
structure Conforms (initial : TransportBootstrap) (trace : ReconnectTrace) (p : ReconnectState) :
    Prop where
  fence : Fenced trace p.fence
  recoveries : trace.recoveries.length = p.recovered.toNat
  proofs : (trace.presented ++ unspent p.proof).Sublist (trace.obtained initial)
  leaf : p.leaf = trace.leaf initial
  burst : ∀ first last, trace = first ++ last → (∀ m ∈ last, m.renews = false) →
    (dials last).length ≤ p.burst
  bound : p.burst ≤ 8

theorem dials_concat (trace : ReconnectTrace) (m : ReconnectMark) :
    dials (trace ++ [m]) = trace.dials ++ m.dials.toList := by
  simp [dials, List.filterMap_append, List.filterMap_cons, List.filterMap_nil]
  cases m.dials <;> rfl

theorem recoveries_concat (trace : ReconnectTrace) (m : ReconnectMark) :
    ReconnectTrace.recoveries (trace ++ [m]) = trace.recoveries ++ m.recoveries.toList := by
  simp [ReconnectTrace.recoveries, List.filterMap_append, List.filterMap_cons, List.filterMap_nil]
  cases m.recoveries <;> rfl

theorem leaf_concat (initial : TransportBootstrap) (trace : ReconnectTrace) (m : ReconnectMark) :
    ReconnectTrace.leaf initial (trace ++ [m]) = m.leafAfter (trace.leaf initial) := by
  simp [ReconnectTrace.leaf, List.foldl_append]

theorem presented_concat (trace : ReconnectTrace) (m : ReconnectMark) :
    presented (trace ++ [m]) =
      trace.presented ++ m.dials.toList.flatMap fun c => unspent c.hello.bootstrapProof := by
  rw [presented, dials_concat, List.flatMap_append]
  rfl

theorem Conforms.start (initial : TransportBootstrap) :
    Conforms initial [] (ReconnectState.start initial) where
  fence := ⟨rfl, List.not_mem_nil⟩
  recoveries := rfl
  proofs := by simp [presented, dials, obtained,
    ReconnectState.start]
  leaf := rfl
  burst := by
    intro first last split _
    obtain ⟨_, rfl⟩ := List.append_eq_nil_iff.mp split.symm
    rfl
  bound := Nat.zero_le 8

/-- What a mark that is no call of `connect` leaves of the burst. -/
theorem burst_concat {n k : Nat}
    (burst : ∀ first last, trace = first ++ last → (∀ m ∈ last, m.renews = false) →
      (dials last).length ≤ n)
    (grows : m.renews = false → n + m.dials.toList.length ≤ k) :
    ∀ first last, trace ++ [m] = first ++ last → (∀ m ∈ last, m.renews = false) →
      (dials last).length ≤ k := by
  intro first last split quiet
  rcases List.eq_nil_or_concat last with rfl | ⟨rest, x, rfl⟩
  · exact Nat.zero_le k
  · rw [List.concat_eq_append, ← List.append_assoc] at split
    obtain ⟨whole, same⟩ := List.append_inj' split rfl
    obtain rfl : m = x := by simpa using same
    have earlier := burst first rest whole fun y member => quiet y (by simp [member])
    have room := grows (quiet m (by simp))
    rw [List.concat_eq_append, dials_concat, List.length_append]
    omega

/-! What one step of the protocol keeps, variable by variable. -/

theorem Fenced.next (fence : Fenced trace p.fence) (advances : ReconnectAdvances lib p m q) :
    Fenced (trace ++ [m]) q.fence := by
  cases advances with
  | connect config free =>
    have sound : .disconnected false ∉ trace := by
      rcases free with free | free <;> rw [free] at fence
      · exact fence.2
      · exact fence.2.2
    simpa [Fenced] using sound
  | disconnected succeeded sound =>
    cases succeeded with
    | false => exact trivial
    | true =>
      have unfailed : .disconnected false ∉ trace := by
        cases at_ : p.fence <;> simp_all [Fenced]
      exact ⟨stopped_of_disconnected trace, by simp, by simpa using unfailed⟩
  | serve | session | recovery | recovered =>
    show Fenced _ p.fence
    cases at_ : p.fence with
    | failed => exact trivial
    | unconnected =>
      rw [at_] at fence
      exact ⟨by simpa [dials_concat, ReconnectMark.dials] using fence.1, by simpa using fence.2⟩
    | connected =>
      rw [at_] at fence
      simpa [Fenced] using fence
    | stopped =>
      rw [at_] at fence
      exact ⟨fence.1.concat rfl, by simpa using fence.2.1, by simpa using fence.2.2⟩

theorem recoveries_next (recoveries : trace.recoveries.length = p.recovered.toNat)
    (advances : ReconnectAdvances lib p m q) :
    (ReconnectTrace.recoveries (trace ++ [m])).length = q.recovered.toNat := by
  rw [recoveries_concat, List.length_append, recoveries]
  cases advances with
  | recovery now notAfter stopped first => simp [ReconnectMark.recoveries, first]
  | connect | serve | session | disconnected | recovered => rfl

theorem proofs_next (proofs : (trace.presented ++ unspent p.proof).Sublist (trace.obtained initial))
    (advances : ReconnectAdvances lib p m q) :
    (presented (trace ++ [m]) ++ unspent q.proof).Sublist
      (obtained initial (trace ++ [m])) := by
  rw [presented_concat]
  cases advances with
  | connect config free proof =>
    simpa [ReconnectMark.dials, proof, unspent, obtained] using proofs
  | recovered next =>
    have earlier : trace.presented.Sublist (trace.obtained initial) :=
      (List.sublist_append_left _ _).trans proofs
    simpa [ReconnectMark.dials, obtained] using
      earlier.append (List.Sublist.refl (unspent next.proof))
  | serve | session | disconnected | recovery =>
    simpa [ReconnectMark.dials, obtained] using proofs

theorem leaf_next (leaf : p.leaf = trace.leaf initial) (advances : ReconnectAdvances lib p m q) :
    q.leaf = ReconnectTrace.leaf initial (trace ++ [m]) := by
  rw [leaf_concat]
  cases advances with
  | session | recovered => rfl
  | connect | serve | disconnected | recovery => exact leaf

theorem burst_grows (advances : ReconnectAdvances lib p m q) (quiet : m.renews = false) :
    p.burst + m.dials.toList.length ≤ q.burst := by
  cases advances with
  | session duration later => simp [quiet, ReconnectMark.dials]
  | connect | serve | disconnected | recovery | recovered => exact Nat.le_refl _

theorem burst_bounded (bound : p.burst ≤ 8) (advances : ReconnectAdvances lib p m q) :
    q.burst ≤ 8 := by
  cases advances with
  | connect config free proof room => exact room
  | session duration later =>
    simp only
    split
    · exact Nat.zero_le 8
    · exact bound
  | serve | disconnected | recovery | recovered => exact bound

theorem Conforms.concat (conforms : Conforms initial trace p)
    (advances : ReconnectAdvances lib p m q) : Conforms initial (trace ++ [m]) q where
  fence := conforms.fence.next advances
  recoveries := recoveries_next conforms.recoveries advances
  proofs := proofs_next conforms.proofs advances
  leaf := leaf_next conforms.leaf advances
  burst := burst_concat conforms.burst (burst_grows advances)
  bound := burst_bounded conforms.bound advances

/-- What a call may rely on. -/
def CallAllowed (lib : Credentials) (initial : TransportBootstrap) (before : ReconnectTrace) :
    ReconnectMark → Prop
  | .connect _ => Stopped before ∧ .disconnected false ∉ before
  | .recovery now => .disconnected true ∈ before ∧
      ∃ notAfter, lib.notAfter (before.leaf initial) = some notAfter ∧ notAfter ≤ now
  | _ => True

theorem Conforms.allows (conforms : Conforms initial trace p)
    (advances : ReconnectAdvances lib p m q) : CallAllowed lib initial trace m := by
  have fence := conforms.fence
  cases advances with
  | connect config free =>
    rcases free with free | free <;> rw [free] at fence
    · refine ⟨fun first c later split => ?_, fence.2⟩
      have none := fence.1
      simp [split, dials, ReconnectMark.dials] at none
    · exact ⟨fence.1, fence.2.2⟩
  | recovery now notAfter stopped first parsed expired =>
    rw [stopped] at fence
    exact ⟨fence.2.1, notAfter, conforms.leaf ▸ parsed, expired⟩
  | serve | session | disconnected | recovered => exact trivial

/-- What the loop promises. -/
structure ReconnectDiscipline (lib : Credentials) (initial : TransportBootstrap)
    (trace : ReconnectTrace) : Prop where
  /-- Each proof is passed to at most one call of `connect`. -/
  proofsOnce : trace.presented.Sublist (trace.obtained initial)
  recoveredOnce : trace.recoveries.length ≤ 1
  /-- Recovery follows a `Disconnected` that succeeded and the end of the certificate. -/
  recovery : ∀ before now after, trace = before ++ .recovery now :: after →
    .disconnected true ∈ before ∧
      ∃ notAfter, lib.notAfter (ReconnectTrace.leaf initial before) = some notAfter ∧ notAfter ≤ now
  stoppedBetween : ∀ before c between d after,
    trace = before ++ .connect c :: between ++ .connect d :: after → .disconnected true ∈ between
  neverAfterFailure : ∀ before c after,
    trace = before ++ .connect c :: after → .disconnected false ∉ before
  burst : ∀ before part after, trace = before ++ part ++ after →
    (∀ m ∈ part, m.renews = false) → (dials part).length ≤ 8

theorem reconnects_of_accepted
    (accepted : Accepted (ReconnectAdvances lib) (.start initial) trace p) :
    ReconnectDiscipline lib initial trace := by
  have conforms {trace : ReconnectTrace} {p : ReconnectState}
      (accepted : Accepted (ReconnectAdvances lib) (.start initial) trace p) :
      Conforms initial trace p :=
    accepted.invariant (.start initial) fun before advances => before.concat advances
  have allowed : EachAfter (CallAllowed lib initial) trace :=
    accepted.eachAfter (I := Conforms initial) (.start initial)
      (fun before advances => before.concat advances) fun before advances => before.allows advances
  have final := conforms accepted
  refine ⟨?_, ?_, ?_, ?_, ?_, ?_⟩
  · exact (List.sublist_append_left _ _).trans final.proofs
  · rw [final.recoveries]
    exact Bool.toNat_le p.recovered
  · exact fun before now after split => allowed before _ after split
  · intro before c between d after split
    have last : CallAllowed lib initial (before ++ .connect c :: between) (.connect d) :=
      allowed _ _ after split
    exact last.1 before c between rfl
  · exact fun before c after split => (allowed before _ after split).2
  · intro before part after split quiet
    subst split
    obtain ⟨q, prefix_⟩ := accepted.before
    exact ((conforms prefix_).burst before part rfl quiet).trans (conforms prefix_).bound

end Protocol

/-! ### The loop follows the protocol -/

namespace Reconnect
variable {lib : Credentials} {hooks : ConnectionHooks} {initial : TransportBootstrap}
  {s : Reconnect} {p : ReconnectState}

/-- The variables that mean the same in every phase. -/
structure Carries (s : Reconnect) (p : ReconnectState) : Prop where
  leaf : p.leaf = s.b.certificate.headD []
  recovered : p.recovered = s.recovered
  room : s.failures < 8

/-- The loop may dial. -/
structure Ready (s : Reconnect) (p : ReconnectState) : Prop extends Carries s p where
  fence : p.fence = .unconnected ∨ p.fence = .stopped
  proof : p.proof = s.b.proof
  burst : p.burst ≤ s.failures

/-- A connection was tried and not yet stopped. -/
structure Dialled (s : Reconnect) (p : ReconnectState) : Prop extends Carries s p where
  fence : p.fence = .connected
  proof : p.proof = []
  burst : p.burst ≤ s.failures + 1

/-- What the protocol's variables are in each phase. -/
def Stands (lib : Credentials) (s : Reconnect) (p : ReconnectState) : ReconnectPhase → Prop
  | .looping | .backingOff => Ready s p
  | .fencing notAfter => Ready s p ∧ lib.notAfter p.leaf = some notAfter
  | .expiring wait => Ready s p ∧ p.fence = .stopped ∧ s.recovered = false ∧
      lib.notAfter p.leaf = some (s.now + wait)
  | .recovering => Ready s p ∧ p.fence = .stopped
  | .connecting => Dialled s p
  | .serving _ previous => Dialled s p ∧ s.b.proof = [] ∧ previous = p.leaf
  | .disconnecting => Dialled s p ∧ s.b.proof = []
  | .finished _ | .panicked => True

def Conducts (lib : Credentials) (initial : TransportBootstrap) (s : Reconnect) : Prop :=
  ∃ p, Accepted (ReconnectAdvances lib) (.start initial) s.trace p ∧ Stands lib s p s.at_

/-- Only these three variables of the loop matter. -/
theorem Ready.same {t : Reconnect} (ready : Ready s p) (b : t.b = s.b)
    (recovered : t.recovered = s.recovered) (failures : t.failures = s.failures) : Ready t p where
  leaf := b ▸ ready.leaf
  recovered := recovered ▸ ready.recovered
  room := failures ▸ ready.room
  fence := ready.fence
  proof := b ▸ ready.proof
  burst := failures ▸ ready.burst

theorem Dialled.same {t : Reconnect} (dialled : Dialled s p)
    (chain : t.b.certificate = s.b.certificate) (recovered : t.recovered = s.recovered)
    (failures : t.failures = s.failures) : Dialled t p where
  leaf := chain ▸ dialled.leaf
  recovered := recovered ▸ dialled.recovered
  room := failures ▸ dialled.room
  fence := dialled.fence
  proof := dialled.proof
  burst := failures ▸ dialled.burst

theorem clientConfig_proof {b : TransportBootstrap} {now : Time} {config : ClientConfig}
    (made : b.clientConfig lib now = .ok config) : config.hello.bootstrapProof = b.proof := by
  unfold TransportBootstrap.clientConfig at made
  split at made
  · cases made
  · split at made
    · cases made
    · cases made
      rfl

theorem connected_keeps {b later : TransportBootstrap} {session : ClientSession}
    (made : b.connected session = .ok later) :
    later.certificate = b.certificate ∧ later.proof = [] := by
  obtain ⟨-, made⟩ := unless_ok.mp made
  split at made
  · cases made
  · cases made
    exact ⟨rfl, rfl⟩

section Sections
variable (accepted : Accepted (ReconnectAdvances lib) (.start initial) s.trace p)
include accepted

theorem finish_conducts (result : Option Error) : Conducts lib initial (s.finish result) :=
  ⟨p, accepted, trivial⟩

theorem dial_conducts (ready : Ready s p) : Conducts lib initial (s.dial lib) := by
  unfold dial
  split
  · exact finish_conducts accepted _
  next config made =>
    have proof : config.hello.bootstrapProof = p.proof := by
      rw [ready.proof]
      exact clientConfig_proof made
    refine ⟨_, accepted.concat (.connect config ready.fence proof ?_), ?_⟩
    · have burst := ready.burst
      have room := ready.room
      omega
    · exact ⟨⟨ready.leaf, ready.recovered, ready.room⟩, rfl, rfl, Nat.succ_le_succ ready.burst⟩

theorem head_conducts (ready : Ready s p) (done : Bool) :
    Conducts lib initial (s.head lib done) := by
  unfold head
  split
  · exact finish_conducts accepted _
  split
  · exact ⟨p, accepted, trivial⟩
  next leaf rest chain =>
    split
    · exact finish_conducts accepted _
    next notAfter parsed =>
      have current : p.leaf = leaf := by rw [ready.leaf, chain]; rfl
      split
      · refine ⟨p, accepted, ready.same rfl rfl rfl, ?_⟩
        rw [current, parsed]
      · exact dial_conducts accepted ready

theorem recover_conducts (ready : Ready s p) (stopped : p.fence = .stopped)
    (first : s.recovered = false) {notAfter : Time} (parsed : lib.notAfter p.leaf = some notAfter)
    (expired : notAfter ≤ s.now) : Conducts lib initial s.recover := by
  have unrecovered : p.recovered = false := ready.recovered.trans first
  refine ⟨_, accepted.concat (.recovery s.now notAfter stopped unrecovered parsed expired), ?_⟩
  exact ⟨⟨⟨ready.leaf, rfl, ready.room⟩, .inr stopped, ready.proof, ready.burst⟩, stopped⟩

theorem fenced_conducts (ready : Ready s p) {notAfter : Time}
    (parsed : lib.notAfter p.leaf = some notAfter) (failed : Bool) :
    Conducts lib initial (s.fenced hooks notAfter failed) := by
  have sound : p.fence ≠ .failed := by
    rcases ready.fence with free | free <;> simp [free]
  cases failed with
  | true => exact finish_conducts (accepted.concat (.disconnected false sound)) _
  | false =>
    have marked : Accepted (ReconnectAdvances lib) (.start initial)
        (s.mark (.disconnected true)).trace { p with fence := .stopped } :=
      accepted.concat (.disconnected true sound)
    have ready : Ready (s.mark (.disconnected true)) { p with fence := .stopped } :=
      ⟨⟨ready.leaf, ready.recovered, ready.room⟩, .inr rfl, ready.proof, ready.burst⟩
    show Conducts lib initial (if _ then _ else if _ then _ else _)
    split
    · exact finish_conducts marked _
    next first =>
      rw [Bool.or_eq_true, not_or, Bool.not_eq_true] at first
      split
      · refine ⟨_, marked, ready.same rfl rfl rfl, rfl, first.1, ?_⟩
        rw [parsed]
        simp
      next expired =>
        exact recover_conducts marked ready rfl first.1 parsed
          (Int.le_of_sub_nonpos (Int.not_lt.mp expired))

theorem adopt_conducts (ready : Ready s p) (result : RecoveryResult) :
    Conducts lib initial (s.adopt lib result) := by
  cases result with
  | fresh next =>
    simp only [adopt]
    split
    · exact finish_conducts accepted _
    split
    · exact finish_conducts accepted _
    · refine dial_conducts (s := { s with b := next }.mark (.recovered next))
        (accepted.concat (.recovered next)) ?_
      exact ⟨⟨rfl, ready.recovered, ready.room⟩, ready.fence, rfl, ready.burst⟩
  | failed | missing | same => exact finish_conducts accepted _

theorem opened_conducts (dialled : Dialled s p) (session : Option ClientSession) :
    Conducts lib initial (s.opened lib session) := by
  cases session with
  | none =>
    exact ⟨p, accepted, dialled.same rfl rfl rfl, rfl⟩
  | some session =>
    show Conducts lib initial (if _ then _ else _)
    split
    · exact finish_conducts (s := { s with b := { s.b with proof := [] } }) accepted _
    split
    · exact finish_conducts (s := { s with b := { s.b with proof := [] } }) accepted _
    next b made =>
      obtain ⟨chain, unproved⟩ := connected_keeps made
      split
      · exact ⟨p, accepted, trivial⟩
      next leaf rest certificate =>
        refine ⟨p, accepted.concat (.serve _), dialled.same chain rfl rfl, unproved, ?_⟩
        rw [dialled.leaf, ← chain, certificate]
        rfl

theorem served_conducts (dialled : Dialled s p) (unproved : s.b.proof = []) {previous : Bytes}
    (current : previous = p.leaf) (started : Time) (installed : Option (List Bytes)) :
    Conducts lib initial (s.served started previous installed) := by
  subst current
  have spent : (installed.elim s.b s.b.installRotation).proof = [] := by
    cases installed with
    | none => exact unproved
    | some chain => rfl
  simp only [served]
  split
  · exact ⟨p, accepted, trivial⟩
  next leaf rest certificate =>
    refine ⟨_, accepted.concat (.session (s.now - started) leaf), ?_, spent⟩
    refine ⟨⟨?_, dialled.recovered, ?_⟩, dialled.fence, dialled.proof, ?_⟩
    · simp [certificate, mark]
    · show (if _ then _ else _) < 8
      split
      · decide
      · exact dialled.room
    · show (if _ then _ else _) ≤ (if _ then _ else _) + 1
      by_cases renewed : ReconnectMark.renews (.session (s.now - started) p.leaf leaf)
      · simp [renewed]
      · have kept : ¬ (second ≤ s.now - started || p.leaf ≠ leaf) := renewed
        rw [if_neg renewed, if_neg kept]
        exact dialled.burst

theorem retried_conducts (dialled : Dialled s p) (unproved : s.b.proof = []) (failed done : Bool) :
    Conducts lib initial (s.retried failed done) := by
  have sound : p.fence ≠ .failed := by simp [dialled.fence]
  cases failed with
  | true => exact finish_conducts (accepted.concat (.disconnected false sound)) _
  | false =>
    have marked : Accepted (ReconnectAdvances lib) (.start initial)
        (s.mark (.disconnected true)).trace { p with fence := .stopped } :=
      accepted.concat (.disconnected true sound)
    show Conducts lib initial (if _ then _ else if _ then _ else _)
    split
    · exact finish_conducts marked _
    split
    · exact finish_conducts (s := { s.mark (.disconnected true) with failures := s.failures + 1 })
        marked _
    next room =>
      refine ⟨_, marked, ⟨⟨dialled.leaf, dialled.recovered, ?_⟩, .inr rfl, ?_, dialled.burst⟩⟩
      · exact Nat.lt_of_not_le room
      · exact dialled.proof.trans unproved.symm

end Sections

theorem step_conducts (hooks : ConnectionHooks) (s : Reconnect) (e : ReconnectEvent)
    (conducts : Conducts lib initial s) : Conducts lib initial (s.step lib hooks e) := by
  obtain ⟨p, accepted, stands⟩ := conducts
  unfold step
  split
  case h_11 => exact ⟨p, accepted, stands⟩
  all_goals
    rename_i phase _
    rw [phase] at stands
  · exact head_conducts (s := s.wait _) accepted (stands.same rfl rfl rfl) _
  · exact fenced_conducts (s := s.wait _) accepted (stands.1.same rfl rfl rfl) stands.2 _
  · obtain ⟨ready, stopped, first, parsed⟩ := stands
    refine recover_conducts (s := s.wait _) accepted (ready.same rfl rfl rfl) stopped first
      parsed ?_
    exact Int.add_le_add_left (Int.le_add_of_nonneg_right (Int.natCast_nonneg e.elapsed)) s.now
  · exact finish_conducts accepted _
  · exact adopt_conducts (s := s.wait _) accepted (stands.1.same rfl rfl rfl) _
  · exact opened_conducts (s := s.wait _) accepted (stands.same rfl rfl rfl) _
  · exact served_conducts (s := s.wait _) accepted (stands.1.same rfl rfl rfl) stands.2.1
      stands.2.2 _ _
  · exact retried_conducts (s := s.wait _) accepted (stands.1.same rfl rfl rfl) stands.2 _ _
  · exact ⟨p, accepted, stands.same rfl rfl rfl⟩
  · exact finish_conducts accepted _

theorem start_conducts (hooks : ConnectionHooks) (b : Option TransportBootstrap) (deadline : Bool)
    (now : Time) : Conducts lib (b.getD .zero) (start hooks b deadline now) := by
  cases b with
  | none => exact ⟨_, .nil, trivial⟩
  | some b =>
    unfold start
    simp only
    split
    · exact ⟨_, .nil, trivial⟩
    · exact ⟨_, .nil, ⟨rfl, rfl, Nat.zero_lt_succ 7⟩, .inl rfl, rfl, Nat.le_refl 0⟩

end Reconnect

/-- Whatever the transport, the hooks and the clock answer, the loop presents each proof once,
recovers at most once and only after the certificate has ended, connects again only after the
disconnection was recorded, and makes at most eight attempts in a row. -/
theorem reconnect_discipline (lib : Credentials) (hooks : ConnectionHooks)
    (b : Option TransportBootstrap) (deadline : Bool) (now : Time) (events : List ReconnectEvent) :
    ReconnectDiscipline lib (b.getD .zero)
      (run (Reconnect.step lib hooks) (.start hooks b deadline now) events).trace := by
  obtain ⟨p, accepted, _⟩ := run_invariant (P := Reconnect.Conducts lib (b.getD .zero))
    (Reconnect.step_conducts hooks) (Reconnect.start_conducts hooks b deadline now) events
  exact reconnects_of_accepted accepted

/-! A certificate that does not end and a transport that never answers: eight attempts, and only
the first carries the proof. -/
namespace ReconnectSample

def lib : Credentials := ⟨fun _ => some [], fun _ => some (100 * second), fun _ _ _ _ _ => true⟩

def bootstrap : TransportBootstrap :=
  { TransportBootstrap.zero with
    certificate := [[1]], roots := some [], proof := List.replicate 32 7 }

def attempt : List ReconnectEvent :=
  [⟨.context false, 0⟩, ⟨.connected none, 0⟩, ⟨.disconnected false false, 0⟩, ⟨.timer true 0, 0⟩]

def last : Reconnect :=
  run (Reconnect.step lib ⟨true, true, true, false⟩)
    (.start ⟨true, true, true, false⟩ (some bootstrap) true 0)
    (List.replicate 9 attempt).flatten

end ReconnectSample

example : ReconnectSample.last.at_ = .finished (some errTransport) ∧
    (dials ReconnectSample.last.trace).length = 8 ∧
    presented ReconnectSample.last.trace = [List.replicate 32 7] := by
  decide

end ThinkPixelAR.App
