import TunnelFirewall.Packet.Error
import TunnelFirewall.Packet.Extension

/-!
# Transport headers

The fields of TCP, UDP, ICMP and ICMPv6 headers that a decision looks at. ICMP has no ports, so
its identifier stands in both places. Any other protocol has empty fields.
-/
namespace TunnelFirewall

/-- The control bits of a TCP header. -/
structure TcpFlags where
  bits : UInt8
deriving DecidableEq

namespace TcpFlags

/-- The sender has finished. -/
def fin (flags : TcpFlags) : Bool := flags.bits &&& 0x01 != 0

/-- The segment opens a connection. -/
def syn (flags : TcpFlags) : Bool := flags.bits &&& 0x02 != 0

/-- The connection is reset. -/
def rst (flags : TcpFlags) : Bool := flags.bits &&& 0x04 != 0

/-- The data is to be passed on at once. -/
def psh (flags : TcpFlags) : Bool := flags.bits &&& 0x08 != 0

/-- The acknowledgement number counts. -/
def ack (flags : TcpFlags) : Bool := flags.bits &&& 0x10 != 0

/-- One letter for each bit that is set, in the order of the letters `SAPFR`. -/
def summary (flags : TcpFlags) : String :=
  String.ofList ([(flags.syn, 'S'), (flags.ack, 'A'), (flags.psh, 'P'), (flags.fin, 'F'),
    (flags.rst, 'R')].filterMap fun (set, letter) => if set then some letter else none)

end TcpFlags

/-- What the transport layer says about a packet. -/
structure TransportHeader where
  sourcePort : UInt16 := 0
  destinationPort : UInt16 := 0
  tcpFlags : TcpFlags := ⟨0⟩
  /-- The size of a TCP header by its data offset, zero for other protocols. -/
  tcpHeaderLength : Nat := 0
  /-- ICMP type and code. -/
  icmp : Option (UInt8 × UInt8) := none
deriving DecidableEq

namespace TransportHeader

/-- Two bytes as a port. -/
def port (high low : UInt8) : UInt16 := UInt16.ofNat (Bytes.word high low)

def ofIcmp (segment : Bytes) : Except PacketError TransportHeader :=
  if h : 8 ≤ segment.length then
    let identifier := port segment[4] segment[5]
    .ok { sourcePort := identifier, destinationPort := identifier,
          icmp := some (segment[0], segment[1]) }
  else .error (.truncated .icmp 8 segment.length)

def ofUdp (segment : Bytes) : Except PacketError TransportHeader :=
  if h : 8 ≤ segment.length then
    .ok { sourcePort := port segment[0] segment[1], destinationPort := port segment[2] segment[3] }
  else .error (.truncated .udp 8 segment.length)

def ofTcp (segment : Bytes) : Except PacketError TransportHeader :=
  if h : 20 ≤ segment.length then
    .ok { sourcePort := port segment[0] segment[1], destinationPort := port segment[2] segment[3],
          tcpFlags := ⟨segment[13]⟩, tcpHeaderLength := segment[12].toNat / 16 * 4 }
  else .error (.truncated .tcp 20 segment.length)

/-- Reads the header of a protocol at the start of a segment. -/
def ofSegment (protocol : Protocol) (segment : Bytes) : Except PacketError TransportHeader :=
  if protocol = .icmp ∨ protocol = .icmpv6 then ofIcmp segment
  else if protocol = .udp then ofUdp segment
  else if protocol = .tcp then ofTcp segment
  else .ok {}

end TransportHeader

end TunnelFirewall
