import TunnelFirewall.Diagnostic.Domain
import TunnelFirewall.Engine.Dispatch
import TunnelFirewall.Owner.Cache

/-!
# The flow table of the diagnostic program

The diagnostic program forwards nothing. It keeps the UDP flows it has seen and the TLS session
of every open TCP connection, which is all that the engine asks of its collaborators. Its
policy allows every address and blocks a list of domains.
-/
namespace TunnelFirewall.Diagnostic

/-- What tells one flow from another. -/
structure FlowKey where
  protocol : Protocol
  source : Address
  sourcePort : UInt16
  destination : Address
  destinationPort : UInt16
deriving DecidableEq

/-- The flow of a packet. -/
def FlowKey.ofPacket (p : Packet) : FlowKey :=
  ⟨p.protocol, p.source, p.sourcePort, p.destination, p.destinationPort⟩

/-- The flows that are open. -/
structure Flows where
  udp : List FlowKey := []
  tcp : List (FlowKey × Tls.Session) := []
deriving DecidableEq

namespace Flows

def size (flows : Flows) : Nat := flows.udp.length + flows.tcp.length

def hasUdp (key : FlowKey) (flows : Flows) : Bool := flows.udp.contains key

/-- Opens a UDP flow, if it is not open. -/
def insertUdp (key : FlowKey) (flows : Flows) : Flows :=
  if flows.hasUdp key then flows else { flows with udp := flows.udp ++ [key] }

def eraseUdp (key : FlowKey) (flows : Flows) : Flows :=
  { flows with udp := flows.udp.filter (· != key) }

def session? (key : FlowKey) (flows : Flows) : Option Tls.Session :=
  (flows.tcp.find? fun entry => entry.1 == key).map Prod.snd

def eraseTcp (key : FlowKey) (flows : Flows) : Flows :=
  { flows with tcp := flows.tcp.filter fun entry => entry.1 != key }

/-- Changes the session of a TCP connection that is open. -/
def setSession (key : FlowKey) (session : Tls.Session) (flows : Flows) : Flows :=
  { flows with tcp := flows.tcp.map fun entry => if entry.1 = key then (key, session) else entry }

/-- Gives a TCP connection a session in place of any it has. -/
def insertTcp (key : FlowKey) (session : Tls.Session) (flows : Flows) : Flows :=
  if (flows.session? key).isSome then flows.setSession key session
  else { flows with tcp := flows.tcp ++ [(key, session)] }

/-- Follows a TCP segment: SYN opens a connection anew, and FIN or RST without it close one. -/
def followTcp (p : Packet) (owner : Owner) (flows : Flows) : Flows :=
  let key := FlowKey.ofPacket p
  if p.isTcpSyn then flows.insertTcp key { owner }
  else if p.flags.fin || p.flags.rst then flows.eraseTcp key
  else flows

end Flows

/-- What the collaborators keep. -/
structure Desk where
  flows : Flows := {}
  cache : OwnerCache

/-- The world at the time of a packet: the moment in milliseconds and the connection tables. -/
structure Surroundings where
  moment : Nat
  files : TableFiles

/-- The collaborators of the diagnostic program, in given surroundings. -/
def collaborators [HexDecoder] (blocked : List String) (around : Surroundings) :
    Collaborators Desk where
  hasSession p desk := (p.isUdp && desk.flows.hasUdp (.ofPacket p), desk)
  resolveOwner query desk :=
    let (owner, cache) := desk.cache.resolve around.files around.moment query
    (owner, { desk with cache })
  allowAddress _ desk := (some {}, desk)
  blockDomain hostname _ desk := (isDomainBlocked blocked hostname, desk)
  forwardIcmp _ _ desk := desk
  forwardUdp p _ _ desk := { desk with flows := desk.flows.insertUdp (.ofPacket p) }
  forwardTcp p owner _ desk := { desk with flows := desk.flows.followTcp p owner }
  refuseUdp p _ desk := { desk with flows := desk.flows.eraseUdp (.ofPacket p) }
  forgetOwners desk := { desk with cache := desk.cache.reset }

end TunnelFirewall.Diagnostic
