import Mathlib.Data.List.Sort
import Mathlib.Data.String.Basic
import ThinkPixelAR.Domain.Json

/-!
The compatibility handshake (`internal/adapters/sandboxtransport/protocol/handshake.go`)
over the wire messages of `api/agentd/v1`. Messages carry the bytes of fields that the
schema does not know; a nil message is `none`. Sizes are those of the protobuf encoding,
in which every field number of these messages takes one byte.
-/
namespace ThinkPixelAR.Handshake

def major : Nat := 1
def minor : Nat := 0
def maxFrameBytes : Nat := 1048576

def errHandshake : Error := .new "agentd compatibility handshake rejected"

abbrev Bytes := List UInt8

/-! ### Texts -/

def isLowerHex (c : Char) : Bool := ('0' ≤ c && c ≤ '9') || ('a' ≤ c && c ≤ 'f')

/-- `^sha256:[0-9a-f]{64}$`. -/
def isDigest (text : String) : Bool :=
  let hex := text.toList.drop 7
  text.toList.take 7 = "sha256:".toList && hex.length = 64 && hex.all isLowerHex

def isNameByte (c : Char) : Bool :=
  ('a' ≤ c && c ≤ 'z') || ('0' ≤ c && c ≤ '9') || c = '.' || c = '-'

/-- `^[a-z][a-z0-9.-]{0,63}$`. -/
def isName (text : String) : Bool :=
  match text.toList with
  | [] => false
  | first :: rest => 'a' ≤ first && first ≤ 'z' && rest.length ≤ 63 && rest.all isNameByte

/-- `primitives.ParseID`: the canonical lower-case text of a version 7 UUID. -/
def isID (text : String) : Bool :=
  let chars := text.toList
  chars.length = 36 &&
    (chars.zipIdx.all fun (c, i) => if [8, 13, 18, 23].contains i then c = '-' else isLowerHex c) &&
    chars[14]? = some '7' && ['8', '9', 'a', 'b'].any fun c => chars[19]? = some c

/-! ### Messages -/

structure VersionRange where
  major : Nat
  minimumMinor : Nat
  maximumMinor : Nat
  unknown : Bytes

structure Binding where
  tenantID : String
  sessionID : String
  executionID : String
  attemptID : String
  sandboxBindingID : String
  sessionGeneration : Nat
  unknown : Bytes
deriving DecidableEq

/-- The fields of `Limits`, over which the code iterates by reflection. -/
inductive LimitField where
  | frameBytes
  | commandBytes
  | eventBytes
  | diagnosticBytes
  | mutatingInflight
  | readonlyInflight
  | bufferedEvents
  | bufferedBytes
  | heartbeatIntervalMs
  | livenessWindowMs
deriving DecidableEq

def LimitField.all : List LimitField :=
  [.frameBytes, .commandBytes, .eventBytes, .diagnosticBytes, .mutatingInflight,
    .readonlyInflight, .bufferedEvents, .bufferedBytes, .heartbeatIntervalMs, .livenessWindowMs]

theorem LimitField.mem_all (f : LimitField) : f ∈ LimitField.all := by
  cases f <;> decide

structure Limits where
  frameBytes : Nat
  commandBytes : Nat
  eventBytes : Nat
  diagnosticBytes : Nat
  mutatingInflight : Nat
  readonlyInflight : Nat
  bufferedEvents : Nat
  bufferedBytes : Nat
  heartbeatIntervalMs : Nat
  livenessWindowMs : Nat
  unknown : Bytes
deriving DecidableEq

namespace Limits

/-- `ProtoReflect().Get`. -/
def value (l : Limits) : LimitField → Nat
  | .frameBytes => l.frameBytes
  | .commandBytes => l.commandBytes
  | .eventBytes => l.eventBytes
  | .diagnosticBytes => l.diagnosticBytes
  | .mutatingInflight => l.mutatingInflight
  | .readonlyInflight => l.readonlyInflight
  | .bufferedEvents => l.bufferedEvents
  | .bufferedBytes => l.bufferedBytes
  | .heartbeatIntervalMs => l.heartbeatIntervalMs
  | .livenessWindowMs => l.livenessWindowMs

/-- An empty message after `ProtoReflect().Set` of every field. -/
def setAll (v : LimitField → Nat) : Limits where
  frameBytes := v .frameBytes
  commandBytes := v .commandBytes
  eventBytes := v .eventBytes
  diagnosticBytes := v .diagnosticBytes
  mutatingInflight := v .mutatingInflight
  readonlyInflight := v .readonlyInflight
  bufferedEvents := v .bufferedEvents
  bufferedBytes := v .bufferedBytes
  heartbeatIntervalMs := v .heartbeatIntervalMs
  livenessWindowMs := v .livenessWindowMs
  unknown := []

@[simp] theorem value_setAll (v : LimitField → Nat) (f : LimitField) :
    (setAll v).value f = v f := by
  cases f <;> rfl

end Limits

structure Hello where
  versions : Option VersionRange
  binding : Option Binding
  challenge : Bytes
  buildDigest : String
  adapterKind : String
  adapterDigest : String
  supportedCapabilities : List String
  requiredCapabilities : List String
  limits : Option Limits
  bootstrapProof : Bytes
  unknown : Bytes

structure Welcome where
  major : Nat
  minor : Nat
  binding : Option Binding
  challenge : Bytes
  connectionID : String
  connectionEpoch : Nat
  capabilities : List String
  limits : Option Limits
  negotiationDigest : String
  buildDigest : String
  adapterKind : String
  adapterDigest : String
  unknown : Bytes
deriving DecidableEq

/-- `sandboxtransport.Expectations`. -/
structure Expected where
  binding : Option Binding
  challenge : Bytes
  buildDigest : String
  adapterKind : String
  adapterDigest : String
  supportedCapabilities : List String
  requiredCapabilities : List String
  limits : Option Limits

/-! ### Sizes -/

/-- Seven bits a byte. -/
def varintSize (n : Nat) : Nat := n.log2 / 7 + 1

def uintSize (n : Nat) : Nat := if n = 0 then 0 else 1 + varintSize n

/-- An element of a repeated field, or a present message. -/
def delimitedSize (length : Nat) : Nat := 1 + varintSize length + length

def textSize (length : Nat) : Nat := if length = 0 then 0 else delimitedSize length

def VersionRange.size (v : VersionRange) : Nat :=
  uintSize v.major + uintSize v.minimumMinor + uintSize v.maximumMinor + v.unknown.length

def Binding.size (b : Binding) : Nat :=
  ([b.tenantID, b.sessionID, b.executionID, b.attemptID, b.sandboxBindingID].map
    fun text => textSize text.utf8ByteSize).sum + uintSize b.sessionGeneration + b.unknown.length

def Limits.size (l : Limits) : Nat :=
  (LimitField.all.map fun f => uintSize (l.value f)).sum + l.unknown.length

def repeatedSize (texts : List String) : Nat :=
  (texts.map fun text => delimitedSize text.utf8ByteSize).sum

/-- `proto.Size`. -/
def Hello.size (h : Hello) : Nat :=
  (h.versions.map fun v => delimitedSize v.size).getD 0 +
    (h.binding.map fun b => delimitedSize b.size).getD 0 + textSize h.challenge.length +
    textSize h.buildDigest.utf8ByteSize + textSize h.adapterKind.utf8ByteSize +
    textSize h.adapterDigest.utf8ByteSize + repeatedSize h.supportedCapabilities +
    repeatedSize h.requiredCapabilities + (h.limits.map fun l => delimitedSize l.size).getD 0 +
    textSize h.bootstrapProof.length + h.unknown.length

/-! ### Negotiation -/

/-- `HardLimits`. -/
def hardLimits : Limits where
  frameBytes := maxFrameBytes
  commandBytes := 262144
  eventBytes := 262144
  diagnosticBytes := 16384
  mutatingInflight := 1
  readonlyInflight := 32
  bufferedEvents := 256
  bufferedBytes := 16777216
  heartbeatIntervalMs := 10000
  livenessWindowMs := 30000
  unknown := []

/-- `known`: neither the message nor a message in it has unknown fields. -/
def Hello.known (h : Hello) : Bool :=
  h.unknown.isEmpty && h.versions.all (·.unknown.isEmpty) && h.binding.all (·.unknown.isEmpty) &&
    h.limits.all (·.unknown.isEmpty)

def Welcome.known (w : Welcome) : Bool :=
  w.unknown.isEmpty && w.binding.all (·.unknown.isEmpty) && w.limits.all (·.unknown.isEmpty)

def validBinding (b : Option Binding) : Bool :=
  b.any fun b => b.unknown.isEmpty && isID b.tenantID && isID b.sessionID && isID b.executionID &&
    isID b.attemptID && isID b.sandboxBindingID && 0 < b.sessionGeneration

/-- The loop of `capabilities` over one list: names, none of them twice. -/
def distinctNames (seen : List String) : List String → Bool
  | [] => true
  | c :: rest => isName c && !seen.contains c && distinctNames (c :: seen) rest

def capabilities (supported required : List String) : Bool :=
  !supported.isEmpty && supported.length ≤ 32 && required.length ≤ 32 &&
    distinctNames [] supported && distinctNames [] required &&
    required.all fun c => supported.contains c

/-- `intersectLimits`. -/
def intersectLimits (a b : Option Limits) : Except Error Limits :=
  match a, b with
  | some a, some b =>
    if !a.unknown.isEmpty || !b.unknown.isEmpty ||
        LimitField.all.any (fun f => a.value f = 0 || b.value f = 0 ||
          hardLimits.value f < a.value f || hardLimits.value f < b.value f) then .error errHandshake
    else
      let out := Limits.setAll fun f => min (a.value f) (b.value f)
      if out.livenessWindowMs < 2 * out.heartbeatIntervalMs ||
          out.frameBytes ≤ out.commandBytes || out.frameBytes ≤ out.eventBytes ||
          out.eventBytes < out.diagnosticBytes || out.bufferedBytes < out.eventBytes then
        .error errHandshake
      else .ok out
  | _, _ => .error errHandshake

/-- The first checks of `Negotiate`. -/
def compatible (h : Hello) (e : Expected) (connectionID : String) (epoch : Nat) : Bool :=
  h.size ≤ maxFrameBytes && h.known &&
    h.versions.any (fun v => v.major = major && v.minimumMinor ≤ minor &&
      v.minimumMinor ≤ v.maximumMinor) &&
    validBinding e.binding && h.binding = e.binding && e.challenge.length = 32 &&
    h.challenge = e.challenge && isDigest e.buildDigest && h.buildDigest = e.buildDigest &&
    isName e.adapterKind && h.adapterKind = e.adapterKind && isDigest e.adapterDigest &&
    h.adapterDigest = e.adapterDigest && isID connectionID && epoch ≠ 0 &&
    (h.bootstrapProof.length = 0 || h.bootstrapProof.length = 32)

/-- The capabilities that both sides support, in the order of the expectations. -/
def common (h : Hello) (e : Expected) : List String :=
  e.supportedCapabilities.filter fun c => h.supportedCapabilities.contains c

/-- The protobuf and hash libraries: deterministic marshalling, and SHA-256. -/
structure Wire where
  marshal : Welcome → Bytes
  sha256 : Bytes → Digest

/-- `negotiationDigest`: nonces are not evidence. -/
def Wire.negotiationDigest (wire : Wire) (w : Welcome) : String :=
  (wire.sha256 (wire.marshal { w with negotiationDigest := "", challenge := [] })).text

/-- The Welcome before its digest is set. -/
def welcome (h : Hello) (e : Expected) (connectionID : String) (epoch : Nat) (limits : Limits) :
    Welcome where
  major := major
  minor := minor
  binding := e.binding
  challenge := e.challenge
  connectionID := connectionID
  connectionEpoch := epoch
  capabilities := (common h e).insertionSort (· ≤ ·)
  limits := some limits
  negotiationDigest := ""
  buildDigest := e.buildDigest
  adapterKind := e.adapterKind
  adapterDigest := e.adapterDigest
  unknown := []

/-- `Negotiate`. -/
def negotiate (wire : Wire) (h : Option Hello) (e : Expected) (connectionID : String)
    (epoch : Nat) : Except Error Welcome :=
  match h with
  | none => .error errHandshake
  | some h =>
    if !compatible h e connectionID epoch then .error errHandshake
    else if !capabilities h.supportedCapabilities h.requiredCapabilities ||
        !capabilities e.supportedCapabilities e.requiredCapabilities then .error errHandshake
    else if !(h.requiredCapabilities.all fun c => (common h e).contains c) ||
        !(e.requiredCapabilities.all fun c => (common h e).contains c) then .error errHandshake
    else match intersectLimits h.limits e.limits with
      | .error err => .error err
      | .ok limits =>
        let w := welcome h e connectionID epoch limits
        .ok { w with negotiationDigest := wire.negotiationDigest w }

/-- `VerifyWelcome`. -/
def verifyWelcome (wire : Wire) (h : Option Hello) (e : Expected) (w : Option Welcome) :
    Except Error Unit :=
  match w with
  | none => .error errHandshake
  | some w =>
    if !w.known then .error errHandshake
    else match negotiate wire h e w.connectionID w.connectionEpoch with
      | .error _ => .error errHandshake
      | .ok expected => if expected = w then .ok () else .error errHandshake

end ThinkPixelAR.Handshake
