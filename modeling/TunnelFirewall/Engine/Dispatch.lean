import TunnelFirewall.Config.Basic
import TunnelFirewall.Engine.Dialogue
import TunnelFirewall.Engine.Stats
import TunnelFirewall.Tls.ClientHello

/-!
# The engine

A packet is read, held against the session cap if it opens a flow, attributed to an owner,
decided about and forwarded or refused. A flow is opened by an ICMP message, a UDP datagram
without a session and a TCP segment with the SYN flag; any other packet belongs to a flow that
was decided about before. TCP payloads are looked at for the server name of their session.
-/
namespace TunnelFirewall

/-- An answer about a packet. -/
inductive Decision
  | allow (redirect : Option Redirect)
  | refuse
deriving DecidableEq

/-- The port of name servers. -/
def dnsPort : UInt16 := 53

/-- The packet opens a flow, given whether it has a session. -/
def Packet.opensFlow (p : Packet) (hasSession : Bool) : Bool :=
  p.isIcmp || (p.isUdp && !hasSession) || p.isTcpSyn

namespace Engine

variable {σ : Type}

/-- The system's own name queries over TCP are not the policy's business. -/
def isRootDns (p : Packet) (owner : Owner) : Bool :=
  p.isTcpSyn && owner.isRoot && p.destinationPort == dnsPort

/-- Decides about a packet. Sessions and established connections were decided about before; all
other packets are for the policy. -/
def decide (p : Packet) (hasSession : Bool) (owner : Owner) : Dialogue σ Decision := do
  if hasSession || (p.isTcp && !p.flags.syn) || isRootDns p owner then
    return .allow none
  match ← Dialogue.askAddress (FlowRecord.ofPacket p owner) with
  | some redirect => return .allow redirect.effective?
  | none => return .refuse

/-- Carries a decision out. -/
def carryOut (p : Packet) (owner : Owner) : Decision → Dialogue σ Outcome
  | .allow redirect => do
    Dialogue.forward p owner redirect
    return .allowed p.protocol redirect
  | .refuse => do
    if p.isUdp then
      Dialogue.refuseUdp p owner
    return .blocked p.protocol

/-- Handles a packet of a handled protocol while `openSessions` sessions are open. -/
def handle (maxSessions : Nat) (p : Packet) (openSessions : Nat) : Dialogue σ Outcome := do
  let hasSession ← if p.isUdp then Dialogue.askSession p else pure false
  let opensFlow := p.opensFlow hasSession
  if opensFlow && maxSessions ≤ openSessions then
    return .dropped (.sessionLimit openSessions maxSessions)
  let owner ← if opensFlow then Dialogue.askOwner (.ofPacket p) else pure .notLooked
  let decision ← decide p hasSession owner
  carryOut p owner decision

/-- Answers what becomes of a buffer while `openSessions` sessions are open. -/
def answer (settings : EngineSettings) (bytes : Bytes) (openSessions : Nat) :
    Dialogue σ Outcome :=
  match Packet.ofBytes settings.verifyIPv4Checksum bytes with
  | .error e => pure (.dropped (.malformed e))
  | .ok p =>
    if p.isHandled then handle settings.maxSessions.toNat p openSessions
    else pure (.dropped (.unsupportedProtocol p.protocol))

/-- Answers what a TCP payload means for its session, and what the session becomes. -/
def inspectPayload (payload : Bytes) (session : Tls.Session) :
    Dialogue σ (Tls.Verdict × Tls.Session) :=
  match Tls.inspect payload session.hostname with
  | .hostname name =>
    let (isNew, session) := session.record name
    pure (if isNew then .captured name else .allow, session)
  | .readyToDecide =>
    match session.hostname with
    | some name => do
      let blocked ← Dialogue.askDomain name session.owner
      return (if blocked then .block else .allow, session)
    | none => pure (.allow, session)
  | _ => pure (.allow, session)

end Engine

/-- An engine: its settings and its counters. -/
structure Engine where
  settings : EngineSettings
  stats : Stats := {}
deriving DecidableEq

namespace Engine

variable {σ : Type}

/-- Takes a buffer while `openSessions` sessions are open, and counts it. -/
def dispatch (engine : Engine) (bytes : Bytes) (openSessions : Nat) :
    Dialogue σ (Outcome × Engine) := do
  let outcome ← answer engine.settings bytes openSessions
  return (outcome, { engine with stats := (engine.stats.receive bytes.length).count outcome })

/-- Looks at a TCP payload of a session, and counts the verdict. -/
def inspectTls (engine : Engine) (payload : Bytes) (session : Tls.Session) :
    Dialogue σ (Tls.Verdict × Tls.Session × Engine) := do
  let (verdict, session) ← inspectPayload payload session
  return (verdict, session, { engine with stats := engine.stats.countVerdict verdict })

/-- Ends the work of an engine. -/
def shutdown (engine : Engine) : Dialogue σ Engine := do
  Dialogue.forgetOwners
  return engine

end Engine

end TunnelFirewall
