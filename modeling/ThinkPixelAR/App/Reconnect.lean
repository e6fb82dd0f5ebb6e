import ThinkPixelAR.App.AgentdService

/-!
The connection loop of agentd (`runConnections` in `internal/app/agentd/reconnect.go`, over
the bootstrap of `credentials.go` and `rotation.go`). Between two calls of the loop into its
environment there is one section of code; a section is one step, taken with the answer to
the call before it, and reads the clock once. The answers are arbitrary: the hooks, the
transport, the timers and the context. The trace records the calls. Clearing of buffers,
the private key and the contexts handed to the hooks are left out.
-/
namespace ThinkPixelAR.App

open Handshake (Bytes Binding VersionRange Limits Hello Expected Welcome)

def errProcess : Error := .new "harness process operation failed"
def errTransport : Error := .new "agentd transport rejected"

/-- `time.Second`. -/
def second : Int := 1000000000

structure StartupHarness where
  argv : List String
  workingDirectory : String
  startTimeoutMS : Nat
  stopGraceMS : Nat
  killWaitMS : Nat

/-- `agentd.Config`. -/
structure StartupConfig where
  controlDeadlineUnixMS : Int
  version : Nat
  endpoint : String
  serverName : String
  binding : Option Binding
  buildDigest : String
  adapterKind : String
  adapterDigest : String
  protocol : Option VersionRange
  capabilities : List String
  requiredCapabilities : List String
  limits : Option Limits
  harness : StartupHarness

def StartupConfig.zero : StartupConfig :=
  ⟨0, 0, "", "", none, "", "", "", none, [], [], none, ⟨[], "", 0, 0, 0⟩⟩

/-- Certificates are DER texts, the leaf first; `roots` is none for a nil pool. -/
structure TransportBootstrap where
  config : StartupConfig
  connectionID : String
  connectionEpoch : Nat
  sessionCredential : Bool
  certificate : List Bytes
  roots : Option (List Bytes)
  domain : String
  proof : Bytes
  challenge : Bytes

/-- `grpctransport.ClientConfig`, without the frame check. -/
structure ClientConfig where
  endpoint : String
  serverName : String
  trustDomain : String
  certificate : List Bytes
  serverRoots : List Bytes
  expected : Expected
  hello : Hello

/-- An opened session: its Welcome, and whether its context is done. -/
structure ClientSession where
  welcome : Welcome
  done : Bool

/-- The JSON and X.509 libraries: `json.Marshal` of a configuration, the end of a
certificate that parses, and `grpctransport.ValidateSessionIdentity` at an instant. -/
structure Credentials where
  marshal : StartupConfig → Option Bytes
  notAfter : Bytes → Option Time
  validIdentity : List Bytes → List Bytes → String → Option Binding → Time → Bool

def Credentials.sameStartupConfig (lib : Credentials) (a b : StartupConfig) : Bool :=
  match lib.marshal a, lib.marshal b with
  | some left, some right => left = right
  | _, _ => false

namespace TransportBootstrap

/-- The zero value, which `Destroy` leaves. -/
def zero : TransportBootstrap := ⟨.zero, "", 0, false, [], none, "", [], []⟩

/-- The Hello of `ClientConfig`. -/
def hello (b : TransportBootstrap) : Hello where
  versions := b.config.protocol
  binding := b.config.binding
  challenge := b.challenge
  buildDigest := b.config.buildDigest
  adapterKind := b.config.adapterKind
  adapterDigest := b.config.adapterDigest
  supportedCapabilities := b.config.capabilities
  requiredCapabilities := b.config.requiredCapabilities
  limits := b.config.limits
  bootstrapProof := b.proof
  unknown := []

def expected (b : TransportBootstrap) : Expected where
  binding := b.config.binding
  challenge := b.challenge
  buildDigest := b.config.buildDigest
  adapterKind := b.config.adapterKind
  adapterDigest := b.config.adapterDigest
  supportedCapabilities := b.config.capabilities
  requiredCapabilities := b.config.requiredCapabilities
  limits := b.config.limits

/-- `ClientConfig`. -/
def clientConfig (lib : Credentials) (now : Time) (b : TransportBootstrap) :
    Except Error ClientConfig :=
  match b.roots with
  | none => .error errConfig
  | some roots =>
    if (b.proof.length ≠ 0 && b.proof.length ≠ 32) ||
        !lib.validIdentity b.certificate roots b.domain b.config.binding now then
      .error errConfig
    else
      .ok {
        endpoint := b.config.endpoint
        serverName := b.config.serverName
        trustDomain := b.domain
        certificate := b.certificate
        serverRoots := roots
        expected := b.expected
        hello := b.hello }

/-- `Connected`. -/
def connected (b : TransportBootstrap) (s : ClientSession) : Except Error TransportBootstrap :=
  if s.done || s.welcome.binding ≠ b.config.binding then .error errConfig
  else if s.welcome.connectionEpoch ≤ b.connectionEpoch then .error errConfig
  else
    .ok { b with
      connectionID := s.welcome.connectionID
      connectionEpoch := s.welcome.connectionEpoch
      proof := [] }

/-- `InstallRotation` of a chain that it accepts. -/
def installRotation (b : TransportBootstrap) (chain : List Bytes) : TransportBootstrap :=
  { b with certificate := chain, sessionCredential := true, proof := [] }

/-- `RotationAt`. -/
def rotationAt (lib : Credentials) (now : Time) (b : TransportBootstrap) : Time :=
  if !b.sessionCredential then now
  else match b.certificate.head?.bind lib.notAfter with
    | none => now
    | some notAfter => notAfter - 30 * second

end TransportBootstrap

/-- Which hooks are set. -/
structure ConnectionHooks where
  check : Bool
  serve : Bool
  disconnected : Bool
  recovery : Bool

/-- What the `Recovery` hook returns: an error, nil, the bootstrap that is in use, or another. -/
inductive RecoveryResult where
  | failed
  | missing
  | same
  | fresh (next : TransportBootstrap)

inductive ReconnectMark where
  | connect (config : ClientConfig)
  /-- `Serve` is called with the timer of the renewal. -/
  | serve (renewal : Int)
  /-- `Serve` returned; the leaf certificates before and after it. -/
  | session (duration : Int) (previous leaf : Bytes)
  | disconnected (succeeded : Bool)
  | recovery (now : Time)
  /-- The bootstrap of the recovery replaced the one in use. -/
  | recovered (next : TransportBootstrap)

/-- The call or the wait the loop is in. -/
inductive ReconnectPhase where
  /-- Before the head of the loop. -/
  | looping
  /-- In `Disconnected`, since the certificate is about to end. -/
  | fencing (notAfter : Time)
  /-- Until the certificate has ended. -/
  | expiring (wait : Int)
  | recovering
  | connecting
  | serving (started : Time) (previous : Bytes)
  | disconnecting
  | backingOff
  | finished (result : Option Error)
  /-- An index out of range. -/
  | panicked
deriving DecidableEq

inductive ReconnectAnswer where
  /-- `ctx.Err() != nil` at the head of the loop. -/
  | context (done : Bool)
  /-- The result of `Disconnected`, and the context after it. -/
  | disconnected (failed done : Bool)
  /-- A select: the timer fired, or the context is done. `jitter` is the random number. -/
  | timer (fired : Bool) (jitter : Nat)
  | recovered (result : RecoveryResult)
  | connected (session : Option ClientSession)
  /-- `Serve` returned and may have replaced the certificate. -/
  | served (installed : Option (List Bytes))

/-- The answer, and the time since the last section; after a timer, since it was due. -/
structure ReconnectEvent where
  answer : ReconnectAnswer
  elapsed : Nat

structure Reconnect where
  b : TransportBootstrap
  recovered : Bool
  failures : Nat
  now : Time
  at_ : ReconnectPhase
  trace : List ReconnectMark

namespace Reconnect

def mark (s : Reconnect) (m : ReconnectMark) : Reconnect := { s with trace := s.trace ++ [m] }

/-- A return; `Destroy` is deferred. -/
def finish (s : Reconnect) (result : Option Error) : Reconnect :=
  { s with b := .zero, at_ := .finished result }

/-- The checks before the loop. -/
def start (hooks : ConnectionHooks) (b : Option TransportBootstrap) (deadline : Bool)
    (now : Time) : Reconnect :=
  match b with
  | none => ⟨.zero, false, 0, now, .finished (some errConfig), []⟩
  | some b =>
    if b.certificate.isEmpty || !hooks.check || !hooks.serve || !hooks.disconnected ||
        !deadline then
      ⟨b, false, 0, now, .finished (some errConfig), []⟩
    else ⟨b, false, 0, now, .looping, []⟩

/-- The backoff before the attempt after `failures` failures, before the jitter. -/
def delay (failures : Nat) : Int := min (second / 10 * 2 ^ (failures - 1)) (5 * second)

def jittered (failures jitter : Nat) : Int :=
  delay failures / 2 + (jitter : Int) % (delay failures / 2 + 1)

variable (lib : Credentials)

/-- From `b.ClientConfig` to the call of `connect`. -/
def dial (s : Reconnect) : Reconnect :=
  match s.b.clientConfig lib s.now with
  | .error _ => s.finish (some errConfig)
  | .ok config => { s with at_ := .connecting }.mark (.connect config)

/-- The head of the loop. -/
def head (s : Reconnect) (done : Bool) : Reconnect :=
  if done then s.finish none
  else match s.b.certificate with
    | [] => { s with at_ := .panicked }
    | leaf :: _ =>
      match lib.notAfter leaf with
      | none => s.finish (some errConfig)
      | some notAfter =>
        if notAfter - s.now ≤ 5 * second then { s with at_ := .fencing notAfter } else s.dial lib

/-- The call of `Recovery`. -/
def recover (s : Reconnect) : Reconnect :=
  { s with recovered := true, at_ := .recovering }.mark (.recovery s.now)

/-- After the `Disconnected` of an ending certificate. -/
def fenced (hooks : ConnectionHooks) (s : Reconnect) (notAfter : Time) (failed : Bool) :
    Reconnect :=
  let s := s.mark (.disconnected !failed)
  if failed then s.finish (some errProcess)
  else if s.recovered || !hooks.recovery then s.finish (some errConfig)
  else if notAfter - s.now > 0 then { s with at_ := .expiring (notAfter - s.now) }
  else s.recover

/-- After `Recovery`. -/
def adopt (s : Reconnect) : RecoveryResult → Reconnect
  | .fresh next =>
    if !lib.sameStartupConfig s.b.config next.config || next.proof.length ≠ 32 then
      s.finish (some errConfig)
    else match next.clientConfig lib s.now with
      | .error _ => s.finish (some errConfig)
      | .ok _ => dial lib ({ s with b := next }.mark (.recovered next))
  | _ => s.finish (some errConfig)

/-- After `connect`: the proof is gone whatever it returned. -/
def opened (s : Reconnect) (session : Option ClientSession) : Reconnect :=
  let s := { s with b := { s.b with proof := [] } }
  match session with
  | none => { s with at_ := .disconnecting }
  | some session =>
    if !session.welcome.capabilities.contains "rotation.v1" then s.finish (some errConfig)
    else match s.b.connected session with
      | .error _ => s.finish (some errConfig)
      | .ok b =>
        match b.certificate with
        | [] => { s with at_ := .panicked }
        | leaf :: _ =>
          { s with b := b, at_ := .serving s.now leaf }.mark
            (.serve (max (b.rotationAt lib s.now - s.now) 0))

/-- After `Serve`: a session of a second or a new certificate ends the burst. -/
def served (s : Reconnect) (started : Time) (previous : Bytes) (installed : Option (List Bytes)) :
    Reconnect :=
  let b := installed.elim s.b s.b.installRotation
  match b.certificate with
  | [] => { s with b := b, at_ := .panicked }
  | leaf :: _ =>
    let failures := if second ≤ s.now - started || previous ≠ leaf then 0 else s.failures
    { s with b := b, failures := failures, at_ := .disconnecting }.mark
      (.session (s.now - started) previous leaf)

/-- After the `Disconnected` of a connection. -/
def retried (s : Reconnect) (failed done : Bool) : Reconnect :=
  let s := s.mark (.disconnected !failed)
  if failed then s.finish (some errProcess)
  else if done then s.finish none
  else if 8 ≤ s.failures + 1 then { s with failures := s.failures + 1 }.finish (some errTransport)
  else { s with failures := s.failures + 1, at_ := .backingOff }

def wait (s : Reconnect) (elapsed : Int) : Reconnect := { s with now := s.now + elapsed }

/-- One section. An answer to another call than the one the loop is in changes nothing. -/
def step (hooks : ConnectionHooks) (s : Reconnect) (e : ReconnectEvent) : Reconnect :=
  match s.at_, e.answer with
  | .looping, .context done => (s.wait e.elapsed).head lib done
  | .fencing notAfter, .disconnected failed _ =>
    (s.wait e.elapsed).fenced hooks notAfter failed
  | .expiring wait, .timer true _ => (s.wait (wait + e.elapsed)).recover
  | .expiring _, .timer false _ => s.finish none
  | .recovering, .recovered result => (s.wait e.elapsed).adopt lib result
  | .connecting, .connected session => (s.wait e.elapsed).opened lib session
  | .serving started previous, .served installed =>
    (s.wait e.elapsed).served started previous installed
  | .disconnecting, .disconnected failed done => (s.wait e.elapsed).retried failed done
  | .backingOff, .timer true jitter =>
    { s.wait (jittered s.failures jitter + e.elapsed) with at_ := .looping }
  | .backingOff, .timer false _ => s.finish none
  | _, _ => s

end Reconnect
end ThinkPixelAR.App
