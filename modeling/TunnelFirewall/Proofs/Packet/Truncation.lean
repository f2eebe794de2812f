import TunnelFirewall.Proofs.Engine.Drop
import TunnelFirewall.Proofs.Packet.Layout

/-!
# IPv6 packets that are cut off

An IPv6 packet that is read to a protocol that the firewall handles is read the same when more bytes
follow: every header of its chain and its transport header are where they were. So a part of an IPv6
packet is refused, or dropped for a protocol that is not handled, or read like the whole packet.
-/
namespace TunnelFirewall

namespace Extension

variable {packet : Bytes} {offset : Nat} {next last : Protocol} {headers : List Header}

theorem Chain.append (hchain : Chain packet offset next headers last) (suffix : Bytes) :
    Chain (packet ++ suffix) offset next headers last := by
  induction headers generalizing offset next with
  | nil => exact hchain
  | cons h tail ih =>
    obtain ⟨htype, hinside, hrest⟩ := hchain
    refine ⟨htype, ?_, ih hrest⟩
    rw [List.drop_append]
    exact hinside.trans (List.prefix_append _ _)

/-- A chain that was followed to its end has fewer than sixteen headers, and is followed there again
when more bytes come behind it. -/
theorem resolve_append (hupper : (resolve packet next).1.isUpperLayer = true) (suffix : Bytes) :
    resolve (packet ++ suffix) next = resolve packet next := by
  by_cases hfallback : resolve packet next = (next, 40)
  · rw [hfallback] at hupper ⊢
    exact resolve_of_isUpperLayer hupper
  · obtain ⟨headers, upper, hsome, hchain, hupper, hresolve⟩ :=
      exists_chain_of_resolve_ne hfallback
    have hlength : headers.length < 16 := by
      rw [← Nat.not_le]
      exact fun hlong => hfallback (hchain.resolve_of_long hlong)
    rw [hresolve]
    exact (hchain.append suffix).resolve_of_short hsome hupper hlength

theorem resolve_of_not_isUpperLayer (h : (resolve packet next).1.isUpperLayer = false) :
    resolve packet next = (next, 40) := by
  by_cases hfallback : resolve packet next = (next, 40)
  · exact hfallback
  · obtain ⟨headers, upper, -, -, hupper, hresolve⟩ := exists_chain_of_resolve_ne hfallback
    rw [hresolve, hupper] at h
    cases h

end Extension

namespace IPv6Header

variable {packet : Bytes} {fixed : 40 ≤ packet.length}

theorem content_append (hupper : (content packet fixed).protocol.isUpperLayer = true)
    (suffix : Bytes) (fixed' : 40 ≤ (packet ++ suffix).length) :
    content (packet ++ suffix) fixed' = content packet fixed := by
  have hnext : (packet ++ suffix).byteAt 6 = packet.byteAt 6 :=
    Bytes.byteAt_append (by omega) suffix
  have hresolve := Extension.resolve_append hupper suffix
  have hsource : ((packet ++ suffix).drop 8).take 16 = (packet.drop 8).take 16 :=
    Bytes.take_drop_append (by omega) suffix
  have hdestination : ((packet ++ suffix).drop 24).take 16 = (packet.drop 24).take 16 :=
    Bytes.take_drop_append fixed suffix
  simp only [content, hnext, hresolve, hsource, hdestination]

end IPv6Header

namespace TransportHeader

variable {segment : Bytes} {protocol : Protocol} {header : TransportHeader}

theorem ofSegment_append (h : ofSegment protocol segment = .ok header) (suffix : Bytes) :
    ofSegment protocol (segment ++ suffix) = .ok header := by
  have hmore : segment.length ≤ (segment ++ suffix).length :=
    (List.prefix_append segment suffix).length_le
  cases hupper : protocol.isUpperLayer with
  | false =>
    rw [ofSegment_other hupper] at h ⊢
    exact h
  | true =>
    simp only [Protocol.isUpperLayer, Bool.or_eq_true, beq_iff_eq, or_assoc] at hupper
    rcases hupper with rfl | rfl | hicmp
    · obtain ⟨hfits, rfl⟩ := ofTcp_eq_ok_iff.1 h
      refine ofTcp_eq_ok_iff.2 ⟨Nat.le_trans hfits hmore, ?_⟩
      simp (disch := omega) only [tcpContent, Bytes.byteAt_append]
    · obtain ⟨hfits, rfl⟩ := ofUdp_eq_ok_iff.1 h
      refine ofUdp_eq_ok_iff.2 ⟨Nat.le_trans hfits hmore, ?_⟩
      simp (disch := omega) only [udpContent, Bytes.byteAt_append]
    · rw [ofSegment_icmp hicmp] at h ⊢
      obtain ⟨hfits, rfl⟩ := ofIcmp_eq_ok_iff.1 h
      refine ofIcmp_eq_ok_iff.2 ⟨Nat.le_trans hfits hmore, ?_⟩
      simp (disch := omega) only [icmpContent, Bytes.byteAt_append]

end TransportHeader

namespace NetworkHeader

variable {verify : Bool} {bytes : Bytes} {header : NetworkHeader}

theorem versionNumber_append (h : bytes ≠ []) (suffix : Bytes) :
    versionNumber (bytes ++ suffix) = versionNumber bytes := by
  rw [versionNumber, versionNumber, Bytes.byteAt_append (List.length_pos_iff.2 h)]

/-- An IPv6 header is one of a packet with that version number, and no checksum counts for it. -/
theorem ofBytes_v6_iff :
    ofBytes verify bytes = .ok header ∧ header.version = .v6 ↔
      versionNumber bytes = 6 ∧ ∃ fixed, header = IPv6Header.content bytes fixed := by
  rw [ofBytes_eq_ok_iff]
  constructor
  · rintro ⟨⟨-, ⟨-, hfour⟩ | ⟨hversion, hsix⟩⟩, hv6⟩
    · obtain ⟨-, rfl⟩ := IPv4Header.ofIPv4_eq_ok_iff.1 hfour
      cases hv6
    · exact ⟨hversion, IPv6Header.ofIPv6_eq_ok_iff.1 hsix⟩
  · rintro ⟨hversion, fixed, rfl⟩
    have hne : bytes ≠ [] := List.ne_nil_of_length_pos (by omega)
    exact ⟨⟨hne, .inr ⟨hversion, IPv6Header.ofIPv6_of_le fixed⟩⟩, rfl⟩

end NetworkHeader

namespace Packet

variable {verify : Bool} {bytes : Bytes} {p : Packet}

theorem ofBytes_append (parses : ofBytes verify bytes = .ok p) (hv6 : p.version = .v6)
    (hupper : p.protocol.isUpperLayer = true) (check : Bool) (suffix : Bytes) :
    ofBytes check (bytes ++ suffix) = .ok { p with bytes := bytes ++ suffix } := by
  obtain ⟨rfl, hnetwork, hsegment⟩ := ofBytes_eq_ok_iff.1 parses
  have hinside := NetworkHeader.payloadOffset_le hnetwork
  obtain ⟨hversion, fixed, hcontent⟩ := NetworkHeader.ofBytes_v6_iff.1 ⟨hnetwork, hv6⟩
  have hne : p.bytes ≠ [] := List.ne_nil_of_length_pos (by omega)
  refine ofBytes_eq_ok_iff.2 ⟨rfl, ?_, ?_⟩
  · have fixed' : 40 ≤ (p.bytes ++ suffix).length := by
      rw [List.length_append]
      omega
    have hsame := IPv6Header.content_append (by rwa [← hcontent]) suffix fixed'
    refine (NetworkHeader.ofBytes_v6_iff.2 ⟨?_, fixed', ?_⟩).1
    · rwa [NetworkHeader.versionNumber_append hne]
    · rw [hsame, ← hcontent]
  · have hpayload :
        ({ p with bytes := p.bytes ++ suffix } : Packet).payload = p.payload ++ suffix :=
      List.drop_append_of_le_length hinside
    rw [hpayload]
    exact TransportHeader.ofSegment_append hsegment suffix

theorem isHandled_eq (p : Packet) : p.isHandled = p.protocol.isUpperLayer :=
  (Bool.or_assoc _ _ _).symm

theorem ofBytes_of_v6 (parses : ofBytes verify bytes = .ok p) (hv6 : p.version = .v6)
    (check : Bool) : ofBytes check bytes = .ok p := by
  obtain ⟨hbytes, hnetwork, hsegment⟩ := ofBytes_eq_ok_iff.1 parses
  have hheader := NetworkHeader.ofBytes_v6_iff.1 ⟨hnetwork, hv6⟩
  exact ofBytes_eq_ok_iff.2 ⟨hbytes, (NetworkHeader.ofBytes_v6_iff.2 hheader).1, hsegment⟩

theorem version_eq_v6 (parses : ofBytes verify bytes = .ok p)
    (hversion : NetworkHeader.versionNumber bytes = 6) : p.version = .v6 := by
  obtain ⟨-, hnetwork, -⟩ := ofBytes_eq_ok_iff.1 parses
  obtain ⟨-, ⟨hfour, -⟩ | ⟨-, hsix⟩⟩ := NetworkHeader.ofBytes_eq_ok_iff.1 hnetwork
  · omega
  · obtain ⟨fixed, hcontent⟩ := IPv6Header.ofIPv6_eq_ok_iff.1 hsix
    rw [version, hcontent]
    rfl

/-- A chain that leads to no handled protocol is given up, and the payload then starts right behind
the fixed header. -/
theorem fallback_of_v6 (parses : ofBytes verify bytes = .ok p) (hv6 : p.version = .v6)
    (hother : p.protocol.isUpperLayer = false) :
    p.protocol = bytes.byteAt 6 ∧ p.network.payloadOffset = 40 := by
  obtain ⟨-, hnetwork, -⟩ := ofBytes_eq_ok_iff.1 parses
  obtain ⟨-, fixed, hcontent⟩ := NetworkHeader.ofBytes_v6_iff.1 ⟨hnetwork, hv6⟩
  rw [protocol, hcontent] at hother
  have hresolve := Extension.resolve_of_not_isUpperLayer hother
  rw [protocol, hcontent, IPv6Header.content, hresolve]
  exact ⟨rfl, rfl⟩

/-- If a part of a buffer is read as an IPv6 packet of a handled protocol, the whole buffer is read
the same. So a part of an IPv6 packet is refused, or it is given up for the protocol that the fixed
header announces and dropped without a call, or it is read like the whole packet. -/
theorem ofBytes_of_cut_v6 (verify check : Bool) (part suffix : Bytes) :
    (∀ p, ofBytes verify part = .ok p → p.version = .v6 →
      p.protocol ∈ ([1, 6, 17, 58] : List Protocol) →
        ofBytes check (part ++ suffix) = .ok { p with bytes := part ++ suffix }) ∧
    (NetworkHeader.versionNumber (part ++ suffix) = 6 →
      (∃ e, ofBytes verify part = .error e) ∨
      (∃ p, ofBytes verify part = .ok p ∧ p.protocol ∉ ([1, 6, 17, 58] : List Protocol) ∧
        p.protocol = part.byteAt 6 ∧ p.network.payloadOffset = 40 ∧
        ∀ (σ : Type) (engine : Engine) (openSessions : Nat) (host : Collaborators σ) (s : σ),
          ∃ after, engine.dispatch part openSessions host s =
            ⟨(.dropped (.unsupportedProtocol p.protocol), after), s, []⟩) ∨
      ∃ p, ofBytes verify part = .ok p ∧
        ofBytes check (part ++ suffix) = .ok { p with bytes := part ++ suffix }) := by
  constructor
  · intro p parses hv6 hhandled
    exact ofBytes_append parses hv6 (Protocol.isUpperLayer_iff.2 hhandled) check suffix
  · intro hversion
    cases parses : ofBytes verify part with
    | error e => exact .inl ⟨e, rfl⟩
    | ok p =>
      have hne : part ≠ [] := by
        rintro rfl
        cases parses
      rw [NetworkHeader.versionNumber_append hne] at hversion
      have hv6 := version_eq_v6 parses hversion
      cases hupper : p.protocol.isUpperLayer with
      | true => exact .inr (.inr ⟨p, rfl, ofBytes_append parses hv6 hupper check suffix⟩)
      | false =>
        have hother : p.protocol ∉ ([1, 6, 17, 58] : List Protocol) := by
          rw [← Protocol.isUpperLayer_iff, hupper]
          exact Bool.false_ne_true
        obtain ⟨hprotocol, hoffset⟩ := fallback_of_v6 parses hv6 hupper
        refine .inr (.inl ⟨p, rfl, hother, hprotocol, hoffset, ?_⟩)
        intro σ engine openSessions host s
        have hparses := ofBytes_of_v6 parses hv6 engine.settings.verifyIPv4Checksum
        have hunhandled : ¬p.isHandled := by
          rw [isHandled_eq, hupper]
          exact Bool.false_ne_true
        rw [Engine.dispatch_eq, Engine.answer_of_unhandled hparses hunhandled]
        exact ⟨_, rfl⟩

/-- The fixed header of a UDP packet, and the ports 53 and 40000, a length and no checksum. -/
def dnsPacket : Bytes :=
  [96, 0, 0, 0, 0, 12, 17, 64] ++ List.replicate 32 1 ++ [0, 53, 156, 64, 0, 12, 0, 0]

/-- Without its data the packet is read like the whole. -/
theorem ofBytes_of_cut_v6_dns :
    ∃ p, ofBytes true dnsPacket = .ok p ∧ p.version = .v6 ∧ p.protocol = 17 ∧
      ofBytes true (dnsPacket ++ [1, 2, 3, 4]) =
        .ok { p with bytes := dnsPacket ++ [1, 2, 3, 4] } := by
  have hread : ((ofBytes true dnsPacket).map fun p => (p.version, p.protocol)) =
      .ok (.v6, 17) := by decide +kernel
  cases hp : ofBytes true dnsPacket with
  | error e =>
    rw [hp] at hread
    cases hread
  | ok p =>
    rw [hp] at hread
    obtain ⟨hversion, hprotocol⟩ := Prod.mk.inj (Except.ok.inj hread)
    have hhandled : p.protocol ∈ ([1, 6, 17, 58] : List Protocol) := by
      rw [hprotocol]
      decide
    exact ⟨p, rfl, hversion, hprotocol,
      (ofBytes_of_cut_v6 true true dnsPacket [1, 2, 3, 4]).1 p hp hversion hhandled⟩

end Packet

end TunnelFirewall
