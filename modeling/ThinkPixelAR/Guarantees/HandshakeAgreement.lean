import ThinkPixelAR.Adapters.Handshake

/-!
Agreement of the handshake. The server negotiates a Welcome from a Hello and its own
expectations; agentd negotiates again from the same Hello and its own expectations, and
accepts if it gets the same Welcome. Both therefore hold what each of them required.

The order in which either side lists its capabilities does not matter: names are distinct,
so a sorted intersection is determined by its members.
-/
namespace ThinkPixelAR.Guarantees

open Handshake

variable {wire : Wire} {h h' : Hello} {e : Expected} {connectionID : String} {epoch : Nat}
  {w : Welcome}

/-! ### Sorted intersections -/

section Capabilities
variable {supported required seen : List String}

theorem distinctNames_iff :
    distinctNames seen supported = true ↔
      supported.Nodup ∧ ∀ c ∈ supported, isName c = true ∧ c ∉ seen := by
  induction supported generalizing seen with
  | nil => simp [distinctNames]
  | cons c rest ih =>
    simp only [distinctNames, Bool.and_eq_true, ih, Bool.not_eq_true', List.contains_eq_mem,
      decide_eq_false_iff_not, List.nodup_cons, List.forall_mem_cons]
    constructor
    · rintro ⟨⟨name, fresh⟩, nodup, others⟩
      refine ⟨⟨fun again => (others c again).2 List.mem_cons_self, nodup⟩, ⟨name, fresh⟩,
        fun d member => ⟨(others d member).1, fun seen => (others d member).2 ?_⟩⟩
      exact List.mem_cons_of_mem _ seen
    · rintro ⟨⟨fresh, nodup⟩, ⟨name, unseen⟩, others⟩
      refine ⟨⟨name, unseen⟩, nodup, fun d member => ⟨(others d member).1, fun seen => ?_⟩⟩
      rcases List.mem_cons.mp seen with rfl | earlier
      · exact fresh member
      · exact (others d member).2 earlier

/-- What `capabilities` accepts, without the order of the lists. -/
theorem capabilities_iff :
    capabilities supported required = true ↔
      (supported ≠ [] ∧ supported.length ≤ 32 ∧ required.length ≤ 32) ∧
      (supported.Nodup ∧ ∀ c ∈ supported, isName c = true) ∧
      (required.Nodup ∧ ∀ c ∈ required, isName c = true) ∧ ∀ c ∈ required, c ∈ supported := by
  simp only [capabilities, Bool.and_eq_true, distinctNames_iff, List.all_eq_true,
    List.contains_eq_mem, decide_eq_true_eq, Bool.not_eq_true', List.isEmpty_eq_false_iff,
    List.not_mem_nil, not_false_eq_true, and_true]
  tauto

theorem capabilities_perm {supported' required' : List String} (s : supported.Perm supported')
    (r : required.Perm required') :
    capabilities supported' required' = capabilities supported required := by
  rw [Bool.eq_iff_iff, capabilities_iff, capabilities_iff]
  simp only [s.length_eq, r.length_eq, s.nodup_iff, r.nodup_iff, s.mem_iff, r.mem_iff, ne_eq,
    ← List.length_eq_zero_iff]

end Capabilities

section Common
variable {e' : Expected}

theorem mem_common {c : String} :
    c ∈ common h e ↔ c ∈ h.supportedCapabilities ∧ c ∈ e.supportedCapabilities := by
  simp [common, and_comm]

theorem common_perm (hello : h.supportedCapabilities.Perm h'.supportedCapabilities)
    (expected : e.supportedCapabilities.Perm e'.supportedCapabilities) :
    (common h e).Perm (common h' e') := by
  unfold common
  rw [List.filter_congr fun c _ => show h.supportedCapabilities.contains c =
    h'.supportedCapabilities.contains c by simp [hello.mem_iff]]
  exact expected.filter _

/-- The sorted intersection is strictly increasing. -/
theorem sorted_common (nodup : e.supportedCapabilities.Nodup) :
    ((common h e).insertionSort (· ≤ ·)).Pairwise (· < ·) := by
  have sorted := List.pairwise_insertionSort (· ≤ ·) (common h e)
  have distinct : ((common h e).insertionSort (· ≤ ·)).Nodup :=
    (List.perm_insertionSort (· ≤ ·) _).nodup_iff.mpr (nodup.filter _)
  exact sorted.imp₂ (fun a b le ne => lt_of_le_of_ne le ne) distinct

end Common

/-! ### Limits -/

/-- A limit of the intersection is the smaller one, positive and within its hard bound. -/
theorem intersectLimits_ok {a b : Option Limits} {out : Limits}
    (accepted : intersectLimits a b = .ok out) :
    ∃ x y, a = some x ∧ b = some y ∧ ∀ f, out.value f = min (x.value f) (y.value f) ∧
      0 < out.value f ∧ out.value f ≤ hardLimits.value f := by
  unfold intersectLimits at accepted
  split at accepted
  · rename_i x y
    split at accepted
    · cases accepted
    · rename_i within
      dsimp only at accepted
      split at accepted
      · cases accepted
      · obtain rfl := Except.ok.inj accepted
        refine ⟨x, y, rfl, rfl, fun f => ?_⟩
        simp only [Bool.or_eq_true, not_or, List.any_eq_true, not_exists, not_and,
          decide_eq_true_eq] at within
        obtain ⟨⟨⟨nonzeroX, nonzeroY⟩, boundX⟩, boundY⟩ := within.2 f (LimitField.mem_all f)
        rw [Limits.value_setAll]
        refine ⟨rfl, ?_, ?_⟩
        · exact Nat.lt_min.mpr ⟨Nat.pos_of_ne_zero nonzeroX, Nat.pos_of_ne_zero nonzeroY⟩
        · exact Nat.le_trans (Nat.min_le_left _ _) (Nat.not_lt.mp boundX)
  · cases accepted

/-! ### Negotiation -/

/-- What the server checks and what it answers. -/
structure Negotiated (wire : Wire) (h : Hello) (e : Expected) (connectionID : String)
    (epoch : Nat) (w : Welcome) : Prop where
  binding : h.binding = e.binding ∧ w.binding = e.binding
  build : h.buildDigest = e.buildDigest ∧ w.buildDigest = e.buildDigest
  adapterKind : h.adapterKind = e.adapterKind ∧ w.adapterKind = e.adapterKind
  adapterDigest : h.adapterDigest = e.adapterDigest ∧ w.adapterDigest = e.adapterDigest
  connection : w.connectionID = connectionID ∧ w.connectionEpoch = epoch
  capabilities : w.capabilities = (common h e).insertionSort (· ≤ ·)
  sorted : w.capabilities.Pairwise (· < ·)
  required : ∀ c, c ∈ h.requiredCapabilities ∨ c ∈ e.requiredCapabilities → c ∈ w.capabilities
  limits : ∃ l x y, w.limits = some l ∧ h.limits = some x ∧ e.limits = some y ∧
    ∀ f, l.value f = min (x.value f) (y.value f) ∧ 0 < l.value f ∧ l.value f ≤ hardLimits.value f
  digest : ∃ l, intersectLimits h.limits e.limits = .ok l ∧
    w.negotiationDigest = wire.negotiationDigest (welcome h e connectionID epoch l)

theorem negotiate_ok (accepted : negotiate wire (some h) e connectionID epoch = .ok w) :
    Negotiated wire h e connectionID epoch w := by
  simp only [negotiate] at accepted
  split at accepted
  · cases accepted
  · rename_i identity
    split at accepted
    · cases accepted
    · rename_i listed
      split at accepted
      · cases accepted
      · rename_i required
        split at accepted
        · cases accepted
        · rename_i limits intersected
          obtain rfl := Except.ok.inj accepted
          simp only [Bool.not_eq_true, Bool.not_eq_false', compatible, Bool.and_eq_true,
            decide_eq_true_eq] at identity
          obtain ⟨⟨⟨⟨⟨⟨⟨⟨⟨⟨⟨⟨⟨-, -⟩, binding⟩, -⟩, -⟩, -⟩, build⟩, -⟩, kind⟩, -⟩, adapter⟩, -⟩, -⟩,
            -⟩ := identity
          simp only [Bool.or_eq_true, not_or, Bool.not_eq_true', Bool.not_eq_false]
            at listed required
          obtain ⟨x, y, hello, expected, bounds⟩ := intersectLimits_ok intersected
          refine ⟨⟨binding, rfl⟩, ⟨build, rfl⟩, ⟨kind, rfl⟩, ⟨adapter, rfl⟩, ⟨rfl, rfl⟩, rfl,
            sorted_common (capabilities_iff.mp listed.2).2.1.1, fun c asked => ?_,
            ⟨limits, x, y, rfl, hello, expected, bounds⟩, limits, intersected, rfl⟩
          simp only [List.all_eq_true, List.contains_eq_mem, decide_eq_true_eq] at required
          exact (List.mem_insertionSort _).mpr (asked.elim (required.1 c) (required.2 c))

/-- agentd accepts a Welcome if negotiating with its own expectations gives the same. -/
theorem verifyWelcome_ok {h : Option Hello} (accepted : verifyWelcome wire h e (some w) = .ok ()) :
    negotiate wire h e w.connectionID w.connectionEpoch = .ok w := by
  simp only [verifyWelcome] at accepted
  obtain ⟨-, accepted⟩ := unless_ok.mp accepted
  split at accepted
  · cases accepted
  · rename_i expected negotiated
    split at accepted
    · rename_i same
      rw [negotiated, same]
    · cases accepted

/-- Two Hellos, or two expectations, that list their capabilities in different orders. -/
def HelloReordered (h h' : Hello) : Prop :=
  h.supportedCapabilities.Perm h'.supportedCapabilities ∧
    h.requiredCapabilities.Perm h'.requiredCapabilities ∧
    h' = { h with supportedCapabilities := h'.supportedCapabilities
                  requiredCapabilities := h'.requiredCapabilities }

def ExpectedReordered (e e' : Expected) : Prop :=
  e.supportedCapabilities.Perm e'.supportedCapabilities ∧
    e.requiredCapabilities.Perm e'.requiredCapabilities ∧
    e' = { e with supportedCapabilities := e'.supportedCapabilities
                  requiredCapabilities := e'.requiredCapabilities }

theorem repeatedSize_perm {a b : List String} (reordered : a.Perm b) :
    repeatedSize b = repeatedSize a :=
  (reordered.map _).sum_nat.symm

theorem size_reordered (reordered : HelloReordered h h') : h'.size = h.size := by
  rw [reordered.2.2]
  simp only [Hello.size, repeatedSize_perm reordered.1, repeatedSize_perm reordered.2.1]

theorem compatible_reordered {e' : Expected} (hello : HelloReordered h h')
    (expected : ExpectedReordered e e') :
    compatible h' e' connectionID epoch = compatible h e connectionID epoch := by
  have size := size_reordered hello
  unfold compatible Hello.known
  rw [size, hello.2.2, expected.2.2]

theorem all_common_reordered {asked asked' a b : List String} (reordered : asked.Perm asked')
    (same : a.Perm b) :
    (asked'.all fun c => b.contains c) = asked.all fun c => a.contains c := by
  rw [Bool.eq_iff_iff]
  simp only [List.all_eq_true, List.contains_eq_mem, decide_eq_true_eq, reordered.mem_iff,
    same.mem_iff]

/-- The order of the capability lists does not matter. -/
theorem negotiate_reordered {e' : Expected} (hello : HelloReordered h h')
    (expected : ExpectedReordered e e') :
    negotiate wire (some h') e' connectionID epoch =
      negotiate wire (some h) e connectionID epoch := by
  have both := common_perm hello.1 expected.1
  have sorted : (common h' e').insertionSort (· ≤ ·) = (common h e).insertionSort (· ≤ ·) :=
    List.Perm.eq_of_pairwise' (List.pairwise_insertionSort (· ≤ ·) _)
      (List.pairwise_insertionSort (· ≤ ·) _) (((List.perm_insertionSort _ _).trans both.symm).trans
        (List.perm_insertionSort _ _).symm)
  have limitsHello : h'.limits = h.limits := by rw [hello.2.2]
  have limitsExpected : e'.limits = e.limits := by rw [expected.2.2]
  have texts : e'.binding = e.binding ∧ e'.challenge = e.challenge ∧
      e'.buildDigest = e.buildDigest ∧ e'.adapterKind = e.adapterKind ∧
      e'.adapterDigest = e.adapterDigest := by
    rw [expected.2.2]
    exact ⟨rfl, rfl, rfl, rfl, rfl⟩
  simp only [negotiate, compatible_reordered hello expected, capabilities_perm hello.1 hello.2.1,
    capabilities_perm expected.1 expected.2.1, all_common_reordered hello.2.1 both,
    all_common_reordered expected.2.1 both, limitsHello, limitsExpected, welcome, sorted, texts]

/-- The evidence digest does not depend on the nonce. -/
theorem digest_unchallenged {challenge : Bytes} {w' : Welcome}
    (first : negotiate wire (some h) e connectionID epoch = .ok w)
    (second : negotiate wire (some { h with challenge := challenge })
      { e with challenge := challenge } connectionID epoch = .ok w') :
    w'.negotiationDigest = w.negotiationDigest := by
  obtain ⟨l, intersected, digest⟩ := (negotiate_ok first).digest
  obtain ⟨l', intersected', digest'⟩ := (negotiate_ok second).digest
  obtain rfl : l = l' := Except.ok.inj (intersected.symm.trans intersected')
  rw [digest, digest']
  rfl

/-! ### Agreement -/

/-- Both sides hold the same identity, capabilities and limits. -/
structure Agreement (h : Hello) (server agent : Expected) (w : Welcome) : Prop where
  identity : server.binding = agent.binding ∧ server.buildDigest = agent.buildDigest ∧
    server.adapterKind = agent.adapterKind ∧ server.adapterDigest = agent.adapterDigest
  welcomed : w.binding = server.binding ∧ w.buildDigest = server.buildDigest ∧
    w.adapterKind = server.adapterKind ∧ w.adapterDigest = server.adapterDigest
  sorted : w.capabilities.Pairwise (· ≤ ·) ∧ w.capabilities.Nodup
  shared : ∀ c, (c ∈ w.capabilities ↔
      c ∈ h.supportedCapabilities ∧ c ∈ server.supportedCapabilities) ∧
    (c ∈ w.capabilities ↔ c ∈ h.supportedCapabilities ∧ c ∈ agent.supportedCapabilities)
  required : ∀ c, c ∈ h.requiredCapabilities ∨ c ∈ server.requiredCapabilities ∨
    c ∈ agent.requiredCapabilities → c ∈ w.capabilities
  limits : ∃ l x y z, w.limits = some l ∧ h.limits = some x ∧ server.limits = some y ∧
    agent.limits = some z ∧ ∀ f, l.value f = min (x.value f) (y.value f) ∧
      l.value f = min (x.value f) (z.value f) ∧ 0 < l.value f ∧ l.value f ≤ hardLimits.value f

/-- The handshake. A Welcome that the server negotiated and agentd verified is an agreement;
the order of the capability lists does not change what is negotiated; and the digest of the
evidence is the same under every challenge. -/
theorem handshake_agreement (wire : Wire) :
    (∀ h server agent connectionID epoch w,
      negotiate wire (some h) server connectionID epoch = .ok w →
      verifyWelcome wire (some h) agent (some w) = .ok () → Agreement h server agent w) ∧
    (∀ h h' e e' connectionID epoch, HelloReordered h h' → ExpectedReordered e e' →
      negotiate wire (some h') e' connectionID epoch =
        negotiate wire (some h) e connectionID epoch) ∧
    ∀ h e connectionID epoch challenge w w',
      negotiate wire (some h) e connectionID epoch = .ok w →
      negotiate wire (some { h with challenge := challenge }) { e with challenge := challenge }
        connectionID epoch = .ok w' → w'.negotiationDigest = w.negotiationDigest := by
  refine ⟨?agreement, fun _ _ _ _ _ _ => negotiate_reordered,
    fun _ _ _ _ _ _ _ => digest_unchallenged⟩
  intro h server agent connectionID epoch w negotiated verified
  have s := negotiate_ok negotiated
  have a := negotiate_ok (verifyWelcome_ok verified)
  obtain ⟨l, x, y, limits, hello, expected, bounds⟩ := s.limits
  obtain ⟨l', x', z, limits', hello', expected', bounds'⟩ := a.limits
  obtain rfl := Option.some.inj (limits.symm.trans limits')
  obtain rfl := Option.some.inj (hello.symm.trans hello')
  exact
    { identity := ⟨s.binding.1.symm.trans a.binding.1, s.build.1.symm.trans a.build.1,
        s.adapterKind.1.symm.trans a.adapterKind.1, s.adapterDigest.1.symm.trans a.adapterDigest.1⟩
      welcomed := ⟨s.binding.2, s.build.2, s.adapterKind.2, s.adapterDigest.2⟩
      sorted := ⟨s.sorted.imp le_of_lt, s.sorted.imp ne_of_lt⟩
      shared := fun c =>
        ⟨by rw [s.capabilities, List.mem_insertionSort, mem_common],
          by rw [a.capabilities, List.mem_insertionSort, mem_common]⟩
      required := fun c asked => asked.elim (fun hello => s.required c (.inl hello))
        (fun others => others.elim (fun server => s.required c (.inr server))
          (fun agent => a.required c (.inr agent)))
      limits := ⟨l, x, y, z, limits, hello, expected, expected', fun f =>
        ⟨(bounds f).1, (bounds' f).1, (bounds f).2⟩⟩ }

/-! A Hello with a capability that the server does not know, and limits below the bounds. -/

def helloID : String := "01950000-0000-7000-8000-000000000001"

def helloDigest : String :=
  "sha256:0123456789abcdef0123456789abcdef0123456789abcdef0123456789abcdef"

def helloBinding : Binding := ⟨helloID, helloID, helloID, helloID, helloID, 1, []⟩

def serverExpected : Expected where
  binding := some helloBinding
  challenge := List.replicate 32 7
  buildDigest := helloDigest
  adapterKind := "test"
  adapterDigest := helloDigest
  supportedCapabilities := ["heartbeat.v1", "envelope.v1"]
  requiredCapabilities := ["envelope.v1"]
  limits := some hardLimits

def agentExpected : Expected :=
  { serverExpected with
    supportedCapabilities := ["envelope.v1", "heartbeat.v1"]
    requiredCapabilities := ["heartbeat.v1"] }

def smallEvents : Limits := { hardLimits with eventBytes := 131072 }

def agentHello : Hello where
  versions := some ⟨1, 0, 2, []⟩
  binding := some helloBinding
  challenge := List.replicate 32 7
  buildDigest := helloDigest
  adapterKind := "test"
  adapterDigest := helloDigest
  supportedCapabilities := ["heartbeat.v1", "future.optional", "envelope.v1"]
  requiredCapabilities := ["envelope.v1"]
  limits := some smallEvents
  bootstrapProof := []
  unknown := []

def zeroWire : Wire := ⟨fun _ => [], fun _ => ⟨0⟩⟩

def agreedWelcome : Welcome :=
  { welcome agentHello serverExpected helloID 1 smallEvents with
    capabilities := ["envelope.v1", "heartbeat.v1"]
    negotiationDigest := (⟨0⟩ : Digest).text }

theorem handshake_agreement_sample :
    negotiate zeroWire (some agentHello) serverExpected helloID 1 = .ok agreedWelcome ∧
      verifyWelcome zeroWire (some agentHello) agentExpected (some agreedWelcome) = .ok () ∧
      Agreement agentHello serverExpected agentExpected agreedWelcome := by
  have negotiated : negotiate zeroWire (some agentHello) serverExpected helloID 1 =
      .ok agreedWelcome := by decide +kernel
  have verified : verifyWelcome zeroWire (some agentHello) agentExpected (some agreedWelcome) =
      .ok () := by decide +kernel
  exact ⟨negotiated, verified,
    (handshake_agreement zeroWire).1 _ _ _ _ _ _ negotiated verified⟩

end ThinkPixelAR.Guarantees
