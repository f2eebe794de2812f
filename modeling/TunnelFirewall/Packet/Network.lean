import TunnelFirewall.Address.Basic
import TunnelFirewall.Bytes.Checksum
import TunnelFirewall.Packet.Error
import TunnelFirewall.Packet.Extension

/-!
# Network headers

The IPv4 header and the fixed IPv6 header. An IPv4 header is accepted when the packet is no
fragment with more to come, its header length lies between the fixed size and the packet's
length, its total length is exactly the packet's length and, if asked, its checksum verifies;
the first of these that fails is the error. An IPv6 packet only has to hold its fixed header.
-/
namespace TunnelFirewall

/-- What the network layer says about a packet. -/
structure NetworkHeader where
  version : IpVersion
  /-- The upper-layer protocol. -/
  protocol : Protocol
  source : Address
  destination : Address
  /-- Where the upper-layer header starts. -/
  payloadOffset : Nat
deriving DecidableEq

namespace NetworkHeader

/-- Reads an IPv4 header, checking its checksum when `verify` holds. -/
def ofIPv4 (verify : Bool) (packet : Bytes) : Except PacketError NetworkHeader :=
  if h : packet.length < 20 then .error (.truncated .ipv4 20 packet.length)
  else
    let headerLength := packet[0].toNat % 16 * 4
    let totalLength := Bytes.word packet[2] packet[3]
    let fragment := Bytes.word packet[6] packet[7]
    if fragment / 0x2000 % 2 = 1 then .error (.fragmented (fragment % 0x2000 * 8))
    else if headerLength < 20 ∨ packet.length < headerLength then
      .error (.invalidHeaderLength headerLength packet.length)
    else if totalLength ≠ packet.length then .error (.lengthMismatch totalLength packet.length)
    else if verify && !Checksum.verifies (packet.take headerLength) then .error .badChecksum
    else
      .ok {
        version := .v4
        protocol := packet[9]
        source := .v4 ⟨packet[12], packet[13], packet[14], packet[15]⟩
        destination := .v4 ⟨packet[16], packet[17], packet[18], packet[19]⟩
        payloadOffset := headerLength }

/-- Reads a fixed IPv6 header and follows its extension headers. -/
def ofIPv6 (packet : Bytes) : Except PacketError NetworkHeader :=
  if h : packet.length < 40 then .error (.truncated .ipv6 40 packet.length)
  else
    let (protocol, payloadOffset) := Extension.resolve packet packet[6]
    .ok {
      version := .v6
      protocol
      source :=
        .v6 ⟨(packet.drop 8).take 16, by simp only [List.length_take, List.length_drop]; omega⟩
      destination :=
        .v6 ⟨(packet.drop 24).take 16, by simp only [List.length_take, List.length_drop]; omega⟩
      payloadOffset }

/-- Reads the header of the version in the first half octet. -/
def ofBytes (verify : Bool) : Bytes → Except PacketError NetworkHeader
  | [] => .error .empty
  | first :: rest =>
    match first.toNat / 16 with
    | 4 => ofIPv4 verify (first :: rest)
    | 6 => ofIPv6 (first :: rest)
    | version => .error (.unsupportedVersion version)

end NetworkHeader

end TunnelFirewall
