import TunnelFirewall.Packet.Network
import TunnelFirewall.Packet.Transport

/-!
# Packets

A packet is a buffer that its network header and its transport header accept, together with
the two. Reading copies nothing out of place: the payload is the buffer from the payload offset
on.
-/
namespace TunnelFirewall

/-- A buffer and what its headers say. -/
structure Packet where
  bytes : Bytes
  network : NetworkHeader
  transport : TransportHeader
deriving DecidableEq

namespace Packet

/-- Reads the two headers of a buffer. -/
def ofBytes (verify : Bool) (bytes : Bytes) : Except PacketError Packet :=
  match NetworkHeader.ofBytes verify bytes with
  | .error e => .error e
  | .ok network =>
    match TransportHeader.ofSegment network.protocol (bytes.drop network.payloadOffset) with
    | .error e => .error e
    | .ok transport => .ok ⟨bytes, network, transport⟩

def version (p : Packet) : IpVersion := p.network.version

/-- The upper-layer protocol. -/
def protocol (p : Packet) : Protocol := p.network.protocol

def source (p : Packet) : Address := p.network.source

def destination (p : Packet) : Address := p.network.destination

/-- The port it comes from, or the ICMP identifier. -/
def sourcePort (p : Packet) : UInt16 := p.transport.sourcePort

/-- The port it goes to, or the ICMP identifier. -/
def destinationPort (p : Packet) : UInt16 := p.transport.destinationPort

def flags (p : Packet) : TcpFlags := p.transport.tcpFlags

def length (p : Packet) : Nat := p.bytes.length

/-- The segment behind the network headers, its own header included. -/
def payload (p : Packet) : Bytes := p.bytes.drop p.network.payloadOffset

def isTcp (p : Packet) : Bool := p.protocol == .tcp

def isUdp (p : Packet) : Bool := p.protocol == .udp

def isIcmp (p : Packet) : Bool := p.protocol == .icmp || p.protocol == .icmpv6

/-- A TCP segment that opens a connection. -/
def isTcpSyn (p : Packet) : Bool := p.isTcp && p.flags.syn

/-- A packet of a protocol that the firewall handles. -/
def isHandled (p : Packet) : Bool := p.isTcp || p.isUdp || p.isIcmp

/-- What a TCP segment carries behind its header, by its data offset; empty for any other
packet and when the offset lies past the end. -/
def tcpPayload (p : Packet) : Bytes :=
  if p.isTcp then p.payload.drop p.transport.tcpHeaderLength else []

end Packet

end TunnelFirewall
