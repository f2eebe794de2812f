/-!
# Malformed packets

Every way in which a buffer fails to be a packet. None of them is fatal: the packet is dropped.
-/
namespace TunnelFirewall

/-- The header that a length check is about. -/
inductive Layer
  | ipv4
  | ipv6
  | icmp
  | udp
  | tcp
deriving DecidableEq

def Layer.name : Layer → String
  | .ipv4 => "IPv4"
  | .ipv6 => "IPv6"
  | .icmp => "ICMP"
  | .udp => "UDP"
  | .tcp => "TCP"

/-- Why a buffer is no packet. -/
inductive PacketError
  | empty
  | unsupportedVersion (version : Nat)
  | truncated (layer : Layer) (need got : Nat)
  | fragmented (offset : Nat)
  | invalidHeaderLength (headerLength packetLength : Nat)
  | lengthMismatch (declared actual : Nat)
  | badChecksum
deriving DecidableEq

def PacketError.message : PacketError → String
  | .empty => "empty packet"
  | .unsupportedVersion version => s!"unknown IP version {version}"
  | .truncated layer need got => layer.name ++ s!" packet too short: {got} < {need}"
  | .fragmented offset => s!"IPv4 fragment at offset {offset}"
  | .invalidHeaderLength headerLength packetLength =>
    s!"invalid IPv4 header length {headerLength} for packet of {packetLength} bytes"
  | .lengthMismatch declared actual => s!"invalid length {actual}, header length {declared}"
  | .badChecksum => "invalid IPv4 header checksum"

end TunnelFirewall
