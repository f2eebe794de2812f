import TunnelFirewall.Failure
import TunnelFirewall.Packet.Basic
import TunnelFirewall.Proofs.Packet.Chain
import TunnelFirewall.Proofs.Packet.IPv4

/-!
# The layout of a packet

The headers of an accepted packet lie in its buffer, and what is reported of them stands at their
places. The transport layer refuses a packet only if its segment is too short for the least header.
What is taken for TCP data starts where the data offset says, and so begins inside the TCP header if
that says less than five words.
-/
namespace TunnelFirewall

namespace TransportHeader

/-- What the ICMP header at the start of a segment says. -/
def icmpContent (segment : Bytes) : TransportHeader where
  sourcePort := port (segment.byteAt 4) (segment.byteAt 5)
  destinationPort := port (segment.byteAt 4) (segment.byteAt 5)
  icmp := some (segment.byteAt 0, segment.byteAt 1)

/-- What the UDP header at the start of a segment says. -/
def udpContent (segment : Bytes) : TransportHeader where
  sourcePort := port (segment.byteAt 0) (segment.byteAt 1)
  destinationPort := port (segment.byteAt 2) (segment.byteAt 3)

/-- What the TCP header at the start of a segment says. -/
def tcpContent (segment : Bytes) : TransportHeader where
  sourcePort := port (segment.byteAt 0) (segment.byteAt 1)
  destinationPort := port (segment.byteAt 2) (segment.byteAt 3)
  tcpFlags := ⟨segment.byteAt 13⟩
  tcpHeaderLength := 4 * ((segment.byteAt 12).toNat / 16)

/-- The size of the least header of a protocol. -/
def leastSize (protocol : Protocol) : Nat :=
  if protocol = .tcp then 20 else if protocol.isUpperLayer then 8 else 0

variable {segment : Bytes} {protocol : Protocol} {header : TransportHeader}

theorem toNat_port (high low : UInt8) : (port high low).toNat = Bytes.word high low :=
  UInt16.toNat_ofNat_of_lt' (Bytes.word_lt high low)

theorem ofIcmp_of_le (h : 8 ≤ segment.length) : ofIcmp segment = .ok (icmpContent segment) := by
  rw [ofIcmp, dif_pos h]
  simp (disch := omega) only [icmpContent, Bytes.byteAt_of_lt]

theorem ofUdp_of_le (h : 8 ≤ segment.length) : ofUdp segment = .ok (udpContent segment) := by
  rw [ofUdp, dif_pos h]
  simp (disch := omega) only [udpContent, Bytes.byteAt_of_lt]

theorem ofTcp_of_le (h : 20 ≤ segment.length) : ofTcp segment = .ok (tcpContent segment) := by
  rw [ofTcp, dif_pos h]
  simp (disch := omega) only [tcpContent, Bytes.byteAt_of_lt, Nat.mul_comm 4]

theorem ofIcmp_eq_ok_iff :
    ofIcmp segment = .ok header ↔ 8 ≤ segment.length ∧ header = icmpContent segment := by
  by_cases h : 8 ≤ segment.length
  · simp [ofIcmp_of_le h, h, eq_comm]
  · simp [ofIcmp, h]

theorem ofUdp_eq_ok_iff :
    ofUdp segment = .ok header ↔ 8 ≤ segment.length ∧ header = udpContent segment := by
  by_cases h : 8 ≤ segment.length
  · simp [ofUdp_of_le h, h, eq_comm]
  · simp [ofUdp, h]

theorem ofTcp_eq_ok_iff :
    ofTcp segment = .ok header ↔ 20 ≤ segment.length ∧ header = tcpContent segment := by
  by_cases h : 20 ≤ segment.length
  · simp [ofTcp_of_le h, h, eq_comm]
  · simp [ofTcp, h]

theorem ofSegment_icmp (h : protocol = .icmp ∨ protocol = .icmpv6) :
    ofSegment protocol segment = ofIcmp segment :=
  if_pos h

theorem ofSegment_other (h : protocol.isUpperLayer = false) :
    ofSegment protocol segment = .ok {} := by
  simp only [Protocol.isUpperLayer, Bool.or_eq_false_iff, beq_eq_false_iff_ne] at h
  obtain ⟨⟨⟨htcp, hudp⟩, hicmp⟩, hicmpv6⟩ := h
  rw [ofSegment, if_neg (not_or_intro hicmp hicmpv6), if_neg hudp, if_neg htcp]

/-- Every segment that holds the least header of its protocol is read. -/
theorem exists_ofSegment (hfits : leastSize protocol ≤ segment.length) :
    ∃ header, ofSegment protocol segment = .ok header := by
  cases hupper : protocol.isUpperLayer with
  | false => exact ⟨_, ofSegment_other hupper⟩
  | true =>
    simp only [Protocol.isUpperLayer, Bool.or_eq_true, beq_iff_eq] at hupper
    rcases hupper with ((rfl | rfl) | rfl) | rfl
    · exact ⟨_, ofTcp_of_le hfits⟩
    · exact ⟨_, ofUdp_of_le hfits⟩
    · exact ⟨_, ofIcmp_of_le hfits⟩
    · exact ⟨_, ofIcmp_of_le hfits⟩

end TransportHeader

namespace Extension

variable {packet : Bytes} {next : Protocol}

theorem offset_resolve_le (hfixed : 40 ≤ packet.length) :
    (resolve packet next).2 ≤ packet.length := by
  by_cases hfallback : resolve packet next = (next, 40)
  · rw [hfallback]
    exact hfixed
  · obtain ⟨headers, upper, hsome, hchain, -, hresolve⟩ := exists_chain_of_resolve_ne hfallback
    rw [hresolve]
    exact hchain.end_le hsome

end Extension

namespace IPv6Header

variable {packet : Bytes}

/-- What the fixed header of an IPv6 packet and the extension headers behind it say. -/
def content (packet : Bytes) (fixed : 40 ≤ packet.length) : NetworkHeader where
  version := .v6
  protocol := (Extension.resolve packet (packet.byteAt 6)).1
  source := .v6 ⟨(packet.drop 8).take 16, by rw [List.length_take, List.length_drop]; omega⟩
  destination := .v6 ⟨(packet.drop 24).take 16, by rw [List.length_take, List.length_drop]; omega⟩
  payloadOffset := (Extension.resolve packet (packet.byteAt 6)).2

theorem ofIPv6_of_le (fixed : 40 ≤ packet.length) :
    NetworkHeader.ofIPv6 packet = .ok (content packet fixed) := by
  rw [NetworkHeader.ofIPv6, dif_neg (Nat.not_lt.2 fixed)]
  simp (disch := omega) only [content, Bytes.byteAt_of_lt]

theorem ofIPv6_eq_ok_iff {header : NetworkHeader} :
    NetworkHeader.ofIPv6 packet = .ok header ↔
      ∃ fixed : 40 ≤ packet.length, header = content packet fixed := by
  constructor
  · intro h
    by_cases hshort : packet.length < 40
    · rw [NetworkHeader.ofIPv6, dif_pos hshort] at h
      cases h
    · rw [ofIPv6_of_le (Nat.not_lt.1 hshort)] at h
      exact ⟨Nat.not_lt.1 hshort, (Except.ok.inj h).symm⟩
  · rintro ⟨fixed, rfl⟩
    exact ofIPv6_of_le fixed

end IPv6Header

namespace NetworkHeader

variable {verify : Bool} {bytes : Bytes} {header : NetworkHeader}

/-- The number in the first half octet. -/
def versionNumber (bytes : Bytes) : Nat := (bytes.byteAt 0).toNat / 16

theorem ofBytes_eq_ok_iff :
    ofBytes verify bytes = .ok header ↔
      bytes ≠ [] ∧ (versionNumber bytes = 4 ∧ ofIPv4 verify bytes = .ok header ∨
        versionNumber bytes = 6 ∧ ofIPv6 bytes = .ok header) := by
  cases bytes with
  | nil =>
    constructor
    · intro h
      cases h
    · rintro ⟨h, -⟩
      exact absurd rfl h
  | cons first rest =>
    have hnumber : versionNumber (first :: rest) = first.toNat / 16 := rfl
    rw [hnumber, ofBytes]
    split
    · simp_all
    · simp_all
    · rename_i hfour hsix
      constructor
      · intro h
        cases h
      · rintro ⟨-, ⟨hversion, -⟩ | ⟨hversion, -⟩⟩
        · exact absurd hversion hfour
        · exact absurd hversion hsix

theorem payloadOffset_le (h : ofBytes verify bytes = .ok header) :
    header.payloadOffset ≤ bytes.length := by
  obtain ⟨-, ⟨-, hfour⟩ | ⟨-, hsix⟩⟩ := ofBytes_eq_ok_iff.1 h
  · obtain ⟨hvalid, rfl⟩ := IPv4Header.ofIPv4_eq_ok_iff.1 hfour
    exact hvalid.inside.2
  · obtain ⟨hfixed, rfl⟩ := IPv6Header.ofIPv6_eq_ok_iff.1 hsix
    exact Extension.offset_resolve_le hfixed

end NetworkHeader

namespace Packet

variable {verify : Bool} {bytes : Bytes} {p : Packet}

/-- A packet is its buffer, with the network header that the buffer starts with and the transport
header that stands where the network header says. -/
theorem ofBytes_eq_ok_iff :
    ofBytes verify bytes = .ok p ↔
      p.bytes = bytes ∧ NetworkHeader.ofBytes verify bytes = .ok p.network ∧
        TransportHeader.ofSegment p.protocol p.payload = .ok p.transport := by
  constructor
  · intro h
    unfold ofBytes at h
    split at h
    · cases h
    · rename_i network hnetwork
      split at h
      · cases h
      · rename_i transport htransport
        obtain rfl := Except.ok.inj h
        exact ⟨rfl, hnetwork, htransport⟩
  · rintro ⟨rfl, hnetwork, htransport⟩
    simp only [protocol, payload] at htransport
    simp only [ofBytes, hnetwork, htransport]

theorem exists_ofBytes {header : NetworkHeader}
    (hnetwork : NetworkHeader.ofBytes verify bytes = .ok header)
    (hfits : header.payloadOffset + TransportHeader.leastSize header.protocol ≤ bytes.length) :
    ∃ p, ofBytes verify bytes = .ok p ∧ p.network = header := by
  have hsegment : TransportHeader.leastSize header.protocol ≤
      (bytes.drop header.payloadOffset).length := by
    rw [List.length_drop]
    omega
  obtain ⟨transport, htransport⟩ := TransportHeader.exists_ofSegment hsegment
  exact ⟨⟨bytes, header, transport⟩, ofBytes_eq_ok_iff.2 ⟨rfl, hnetwork, htransport⟩, rfl⟩

theorem byteAt_payload (p : Packet) (i : Nat) :
    p.payload.byteAt i = p.bytes.byteAt (p.network.payloadOffset + i) :=
  Bytes.byteAt_drop p.network.payloadOffset

theorem length_payload (p : Packet) :
    p.payload.length = p.bytes.length - p.network.payloadOffset :=
  List.length_drop

/-- The headers of a packet lie in its buffer and are reported as they stand there: the payload goes
from the payload offset to the end, and the fields of the transport header stand behind that offset.
Conversely only a segment that is too short for the least transport header is refused behind a
network header. -/
theorem ofBytes_layout (verify : Bool) (bytes : Bytes) :
    (∀ p, ofBytes verify bytes = .ok p →
      let start := p.network.payloadOffset
      start ≤ bytes.length ∧ p.payload = bytes.drop start ∧
      (p.protocol = 6 → start + 20 ≤ bytes.length ∧
        p.sourcePort.toNat = bytes.wordAt start ∧
        p.destinationPort.toNat = bytes.wordAt (start + 2) ∧
        p.flags.bits = bytes.byteAt (start + 13)) ∧
      (p.protocol = 17 → start + 8 ≤ bytes.length ∧
        p.sourcePort.toNat = bytes.wordAt start ∧
        p.destinationPort.toNat = bytes.wordAt (start + 2)) ∧
      (p.protocol = 1 ∨ p.protocol = 58 → start + 8 ≤ bytes.length ∧
        p.transport.icmp = some (bytes.byteAt start, bytes.byteAt (start + 1)) ∧
        p.sourcePort.toNat = bytes.wordAt (start + 4) ∧
        p.destinationPort.toNat = bytes.wordAt (start + 4)) ∧
      (p.protocol ∉ ([1, 6, 17, 58] : List Protocol) →
        p.sourcePort = 0 ∧ p.destinationPort = 0 ∧ p.flags.bits = 0 ∧ p.transport.icmp = none)) ∧
    ∀ header, NetworkHeader.ofBytes verify bytes = .ok header →
      header.payloadOffset + TransportHeader.leastSize header.protocol ≤ bytes.length →
        ∃ p, ofBytes verify bytes = .ok p ∧ p.network = header := by
  refine ⟨?_, fun header => exists_ofBytes⟩
  intro p hp start
  obtain ⟨rfl, hnetwork, hsegment⟩ := ofBytes_eq_ok_iff.1 hp
  have hlength : p.payload.length = p.bytes.length - start := p.length_payload
  have hbyte : ∀ i, p.payload.byteAt i = p.bytes.byteAt (start + i) := p.byteAt_payload
  have hinside : start ≤ p.bytes.length := NetworkHeader.payloadOffset_le hnetwork
  refine ⟨hinside, rfl, ?tcp, ?udp, ?icmp, ?other⟩
  case tcp =>
    intro hprotocol
    rw [hprotocol] at hsegment
    obtain ⟨hfits, htransport⟩ := TransportHeader.ofTcp_eq_ok_iff.1 hsegment
    simp only [sourcePort, destinationPort, flags, htransport, TransportHeader.tcpContent,
      TransportHeader.toNat_port, hbyte]
    exact ⟨by omega, rfl, rfl, trivial⟩
  case udp =>
    intro hprotocol
    rw [hprotocol] at hsegment
    obtain ⟨hfits, htransport⟩ := TransportHeader.ofUdp_eq_ok_iff.1 hsegment
    simp only [sourcePort, destinationPort, htransport, TransportHeader.udpContent,
      TransportHeader.toNat_port, hbyte]
    exact ⟨by omega, rfl, rfl⟩
  case icmp =>
    intro hprotocol
    rw [TransportHeader.ofSegment_icmp hprotocol] at hsegment
    obtain ⟨hfits, htransport⟩ := TransportHeader.ofIcmp_eq_ok_iff.1 hsegment
    simp only [sourcePort, destinationPort, htransport, TransportHeader.icmpContent,
      TransportHeader.toNat_port, hbyte]
    exact ⟨by omega, rfl, rfl, rfl⟩
  case other =>
    intro hprotocol
    rw [← Protocol.isUpperLayer_iff, Bool.not_eq_true] at hprotocol
    rw [TransportHeader.ofSegment_other hprotocol] at hsegment
    rw [sourcePort, destinationPort, flags, ← Except.ok.inj hsegment]
    exact ⟨rfl, rfl, rfl, rfl⟩

/-- A ping from `10.0.0.1` to `192.0.2.1`, numbered `0x1234`. -/
def pingPacket : Bytes :=
  [69, 0, 0, 28, 0, 0, 0, 0, 64, 1, 0, 0, 10, 0, 0, 1, 192, 0, 2, 1, 8, 0, 0, 0, 0x12, 0x34, 0, 0]

theorem ofBytes_layout_ping :
    ∃ p, ofBytes false pingPacket = .ok p ∧ p.protocol = 1 ∧ p.payload = pingPacket.drop 20 ∧
      p.transport.icmp = some (8, 0) ∧ p.sourcePort.toNat = 0x1234 := by
  let header : NetworkHeader := ⟨.v4, .icmp, .v4 ⟨10, 0, 0, 1⟩, .v4 ⟨192, 0, 2, 1⟩, 20⟩
  have hheader : NetworkHeader.ofBytes false pingPacket = .ok header := by decide +kernel
  obtain ⟨hfields, haccepted⟩ := ofBytes_layout false pingPacket
  obtain ⟨p, hp, hnetwork⟩ := haccepted header hheader (by decide)
  have hprotocol : p.protocol = 1 := congrArg NetworkHeader.protocol hnetwork
  have hstart : p.network.payloadOffset = 20 := congrArg NetworkHeader.payloadOffset hnetwork
  obtain ⟨-, hpayload, -, -, hicmp, -⟩ := hfields p hp
  obtain ⟨-, hicmp, hsource, -⟩ := hicmp (.inl hprotocol)
  rw [hstart] at hpayload hicmp hsource
  exact ⟨p, hp, hprotocol, hpayload, hicmp, hsource⟩

/-- The size of the TCP header of a packet as its data offset gives it, in words of four bytes. -/
def tcpHeaderSize (p : Packet) : Nat :=
  4 * ((p.bytes.byteAt (p.network.payloadOffset + 12)).toNat / 16)

theorem tcpPayload_of_tcp (parses : ofBytes verify bytes = .ok p) (tcp : p.protocol = 6) :
    p.network.payloadOffset + 20 ≤ bytes.length ∧
      p.tcpPayload = bytes.drop (p.network.payloadOffset + p.tcpHeaderSize) := by
  obtain ⟨rfl, -, hsegment⟩ := ofBytes_eq_ok_iff.1 parses
  rw [tcp] at hsegment
  obtain ⟨hfits, htransport⟩ := TransportHeader.ofTcp_eq_ok_iff.1 hsegment
  rw [length_payload] at hfits
  have hsize : p.transport.tcpHeaderLength = p.tcpHeaderSize := by
    simp only [htransport, TransportHeader.tcpContent, byteAt_payload, tcpHeaderSize]
  have htcp : p.isTcp = true := beq_iff_eq.2 tcp
  rw [tcpPayload, if_pos htcp, hsize, payload, List.drop_drop]
  exact ⟨by omega, rfl⟩

theorem tcpPayload_of_ne (other : p.protocol ≠ 6) : p.tcpPayload = [] := by
  have hother : p.isTcp = false := beq_eq_false_iff_ne.2 other
  rw [tcpPayload, hother]
  rfl

/-- What is taken for the data of a TCP segment starts where the data offset says. That is behind
the fixed header exactly if the data offset is five words or more. Otherwise the end of the fixed
header comes first, as many bytes as the data offset falls short of it. No other packet has such
data. -/
theorem tcpPayload_behind_header_iff (parses : ofBytes verify bytes = .ok p) :
    let start := p.network.payloadOffset
    (p.protocol = 6 →
      p.tcpPayload = bytes.drop (start + p.tcpHeaderSize) ∧
      (p.tcpPayload = bytes.drop (start + max 20 p.tcpHeaderSize) ↔ 20 ≤ p.tcpHeaderSize) ∧
      (p.tcpHeaderSize < 20 → ∃ header : Bytes, header.length = 20 - p.tcpHeaderSize ∧
        bytes.take (start + 20) = bytes.take (start + p.tcpHeaderSize) ++ header ∧
        p.tcpPayload = header ++ bytes.drop (start + 20))) ∧
    (p.protocol ≠ 6 → p.tcpPayload = []) := by
  intro start
  refine ⟨?_, tcpPayload_of_ne⟩
  intro tcp
  obtain ⟨hinside, hdata⟩ := tcpPayload_of_tcp parses tcp
  refine ⟨hdata, ?_, ?_⟩
  · rw [hdata]
    constructor
    · intro h
      have hlength := congrArg List.length h
      rw [List.length_drop, List.length_drop] at hlength
      omega
    · intro h
      rw [Nat.max_eq_right h]
  · intro hshort
    have hend : start + p.tcpHeaderSize + (20 - p.tcpHeaderSize) = start + 20 := by omega
    refine ⟨(bytes.drop (start + p.tcpHeaderSize)).take (20 - p.tcpHeaderSize), ?_, ?_, ?_⟩
    · rw [List.length_take, List.length_drop]
      omega
    · rw [← List.take_add, hend]
    · have hsplit := List.take_append_drop (20 - p.tcpHeaderSize)
        (bytes.drop (start + p.tcpHeaderSize))
      rw [List.drop_drop, hend] at hsplit
      exact hdata.trans hsplit.symm

/-- A TCP segment without data from port 5891 of `10.0.0.1` to port 443 of `192.0.2.1`, with a data
offset of so many words. Its first two bytes are those of a TLS record of application data. -/
def bareSegment (words : UInt8) : Bytes :=
  [69, 0, 0, 40, 0, 0, 0, 0, 64, 6, 174, 206, 10, 0, 0, 1, 192, 0, 2, 1] ++
    [23, 3, 1, 187, 0, 0, 0, 0, 0, 0, 0, 0, words * 16, 16, 0, 0, 0, 0, 0, 0]

/-- What is read of such a segment. -/
def barePacket (words : UInt8) : Packet where
  bytes := bareSegment words
  network := ⟨.v4, .tcp, .v4 ⟨10, 0, 0, 1⟩, .v4 ⟨192, 0, 2, 1⟩, 20⟩
  transport := ⟨5891, 443, ⟨16⟩, words.toNat * 4, none⟩

theorem parses_bareSegment {words : UInt8} (h : words = 0 ∨ words = 2) :
    ofBytes true (bareSegment words) = .ok (barePacket words) := by
  rcases h with rfl | rfl <;> decide +kernel

/-- With a data offset of two words the last twelve bytes of the header are taken for data. -/
theorem tcpPayload_behind_header_iff_bare :
    ofBytes true (bareSegment 2) = .ok (barePacket 2) ∧ (barePacket 2).protocol = 6 ∧
      (barePacket 2).tcpHeaderSize = 8 ∧
      (barePacket 2).tcpPayload = (bareSegment 2).drop 28 ∧
      (barePacket 2).tcpPayload ≠ (bareSegment 2).drop 40 := by
  have hparses := @parses_bareSegment 2 (.inr rfl)
  have hsize : (barePacket 2).tcpHeaderSize = 8 := by decide
  obtain ⟨hdata, hbehind, -⟩ := (tcpPayload_behind_header_iff hparses).1 rfl
  refine ⟨hparses, rfl, hsize, hdata, ?_⟩
  intro hempty
  have hle : 20 ≤ (barePacket 2).tcpHeaderSize := hbehind.1 hempty
  rw [hsize] at hle
  omega

/-- With a data offset of zero the whole TCP header is taken for data. -/
theorem exists_header_taken_for_data :
    ¬∀ (verify : Bool) (bytes : Bytes) (p : Packet), ofBytes verify bytes = .ok p →
      p.protocol = 6 →
        p.tcpPayload = bytes.drop (p.network.payloadOffset + max 20 p.tcpHeaderSize) := by
  intro h
  have hdata := h true (bareSegment 0) (barePacket 0) (parses_bareSegment (.inl rfl)) rfl
  exact absurd hdata (by decide)

end Packet

end TunnelFirewall
