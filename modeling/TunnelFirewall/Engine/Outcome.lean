import TunnelFirewall.Address.Text
import TunnelFirewall.Owner.Basic

/-!
# Decisions about packets

What the address policy is shown and may answer, and what becomes of a packet in the end.
-/
namespace TunnelFirewall

/-- Where an allowed flow is to be sent instead. -/
structure Redirect where
  address : Option Address := none
  port : UInt16 := 0
deriving DecidableEq

namespace Redirect

/-- A redirect takes effect only with an address and a port. -/
def isEffective (r : Redirect) : Bool := r.address.isSome && r.port != 0

/-- The redirect, if it takes effect. -/
def effective? (r : Redirect) : Option Redirect := if r.isEffective then some r else none

end Redirect

/-- What the address policy is shown of a flow. -/
structure FlowRecord where
  version : IpVersion
  protocol : Protocol
  /-- TCP control bits, empty for other protocols. -/
  flags : String
  source : Address
  sourcePort : UInt16
  destination : Address
  destinationPort : UInt16
  /-- ICMP type and code, empty for other protocols. -/
  detail : String
  owner : Owner
deriving DecidableEq

/-- The record of the flow that a packet belongs to. -/
def FlowRecord.ofPacket (p : Packet) (owner : Owner) : FlowRecord where
  version := p.version
  protocol := p.protocol
  flags := if p.isTcp then p.flags.summary else ""
  source := p.source
  sourcePort := p.sourcePort
  destination := p.destination
  destinationPort := p.destinationPort
  detail :=
    match p.transport.icmp with
    | some (type, code) => s!"type {type}/{code}"
    | none => ""
  owner := owner

/-- Why a packet was dropped. -/
inductive DropReason
  /-- It is no packet. -/
  | malformed (error : PacketError)
  /-- Its protocol is not handled. -/
  | unsupportedProtocol (protocol : Protocol)
  /-- It would open a session past the cap. -/
  | sessionLimit (openSessions max : Nat)
deriving DecidableEq

def DropReason.message : DropReason → String
  | .malformed error => "malformed: " ++ error.message
  | .unsupportedProtocol protocol => s!"unsupported protocol {protocol}"
  | .sessionLimit openSessions max => s!"{openSessions} of max {max} sessions"

/-- What became of a packet. -/
inductive Outcome
  | dropped (reason : DropReason)
  /-- It was forwarded, perhaps elsewhere. -/
  | allowed (protocol : Protocol) (redirect : Option Redirect)
  /-- The policy refused it. -/
  | blocked (protocol : Protocol)
deriving DecidableEq

namespace Outcome

def isAllowed : Outcome → Bool
  | .allowed .. => true
  | _ => false

def isDropped : Outcome → Bool
  | .dropped _ => true
  | _ => false

def text : Outcome → String
  | .dropped reason => "dropped (" ++ reason.message ++ ")"
  | .allowed protocol (some ⟨some address, port⟩) =>
    s!"allowed p{protocol} -> " ++ address.text ++ s!"/{port}"
  | .allowed protocol _ => s!"allowed p{protocol}"
  | .blocked protocol => s!"blocked p{protocol}"

end Outcome

end TunnelFirewall
