import TunnelFirewall.Packet.Basic

/-!
# Owners of flows

The application behind a flow is known by the uid that owns its local socket. A question about
an owner names the flow; the answer may also be that no socket matched, that the connection
table was no use, or that nobody asked.
-/
namespace TunnelFirewall

/-- What is known about the owner of a flow. -/
inductive Owner
  /-- The socket belongs to this uid. -/
  | uid (id : UInt32)
  /-- No socket matched. -/
  | notFound
  /-- The connection table could not be read or understood. -/
  | unavailable
  /-- The packet needed no owner. -/
  | notLooked
deriving DecidableEq

namespace Owner

/-- The owner is the system itself. -/
def isRoot : Owner → Bool
  | .uid id => id == 0
  | _ => false

/-- The uid, if it is known. -/
def uid? : Owner → Option UInt32
  | .uid id => some id
  | _ => none

/-- One number for every answer: the uid, `-1` when it is not known, `-2` when the table was no
use. -/
def sentinel : Owner → Int
  | .uid id => id.toNat
  | .notFound | .notLooked => -1
  | .unavailable => -2

def text : Owner → String
  | .uid id => toString id.toNat
  | .notFound => "not found"
  | .unavailable => "unavailable"
  | .notLooked => "-"

end Owner

/-- A flow whose owner is asked for. -/
structure FlowQuery where
  version : IpVersion
  protocol : Protocol
  source : Address
  sourcePort : UInt16
  destination : Address
  destinationPort : UInt16
deriving DecidableEq

/-- The flow that a packet belongs to. -/
def FlowQuery.ofPacket (p : Packet) : FlowQuery :=
  ⟨p.version, p.protocol, p.source, p.sourcePort, p.destination, p.destinationPort⟩

end TunnelFirewall
