import TunnelFirewall.Proofs.Engine.Course

/-!
# Mediation

No packet is forwarded on the engine's own authority. A packet that is forwarded belongs to a
session, to an established connection or to the system's name queries, or the policy was asked
about its flow, under the owner that was just looked up, and allowed it; and a packet for which
one of these holds is forwarded.
-/
namespace TunnelFirewall

/-- The call hands a packet on. -/
def Call.forwards : Call → Bool
  | .icmp .. | .udp .. | .tcp .. => true
  | _ => false

/-- The call asks the policy about a flow. -/
def Call.asksPolicy : Call → Bool
  | .addressCheck .. => true
  | _ => false

namespace Call

@[simp] theorem forwards_ownerLookup (query : FlowQuery) (owner : Owner) :
    (ownerLookup query owner).forwards = false := rfl

@[simp] theorem forwards_addressCheck (record : FlowRecord) (redirect : Option Redirect) :
    (addressCheck record redirect).forwards = false := rfl

@[simp] theorem asksPolicy_ownerLookup (query : FlowQuery) (owner : Owner) :
    (ownerLookup query owner).asksPolicy = false := rfl

@[simp] theorem asksPolicy_addressCheck (record : FlowRecord) (redirect : Option Redirect) :
    (addressCheck record redirect).asksPolicy = true := rfl

end Call

/-- The query asks for the owner of the packet's flow. -/
structure FlowQuery.Names (query : FlowQuery) (p : Packet) : Prop where
  version : query.version = p.network.version
  protocol : query.protocol = p.network.protocol
  source : query.source = p.network.source
  sourcePort : query.sourcePort = p.transport.sourcePort
  destination : query.destination = p.network.destination
  destinationPort : query.destinationPort = p.transport.destinationPort

/-- The record shows the packet's headers, its TCP flags and its ICMP type and code. -/
structure FlowRecord.Shows (record : FlowRecord) (p : Packet) : Prop where
  version : record.version = p.network.version
  protocol : record.protocol = p.network.protocol
  source : record.source = p.network.source
  sourcePort : record.sourcePort = p.transport.sourcePort
  destination : record.destination = p.network.destination
  destinationPort : record.destinationPort = p.transport.destinationPort
  flags : p.network.protocol = .tcp → record.flags = p.transport.tcpFlags.summary
  noFlags : p.network.protocol ≠ .tcp → record.flags = ""
  detail : ∀ type code, p.transport.icmp = some (type, code) →
    record.detail = s!"type {type}/{code}"
  noDetail : p.transport.icmp = none → record.detail = ""

theorem FlowQuery.names_ofPacket (p : Packet) : (FlowQuery.ofPacket p).Names p :=
  ⟨rfl, rfl, rfl, rfl, rfl, rfl⟩

theorem FlowRecord.shows_ofPacket (p : Packet) (owner : Owner) :
    (FlowRecord.ofPacket p owner).Shows p where
  version := rfl
  protocol := rfl
  source := rfl
  sourcePort := rfl
  destination := rfl
  destinationPort := rfl
  flags h := by simp [ofPacket, Packet.isTcp, Packet.protocol, Packet.flags, h]
  noFlags h := by simp [ofPacket, Packet.isTcp, Packet.protocol, h]
  detail type code h := by simp [ofPacket, h]
  noDetail h := by simp [ofPacket, h]

/-- What entitles a packet to be forwarded, given the calls that were made for it. -/
inductive Ground (p : Packet) (calls : List Call) : Prop
  /-- It is a UDP datagram for which a session was found. -/
  | session (udp : p.protocol = .udp) (found : .sessionCheck p true ∈ calls)
  /-- It is a TCP segment that opens no connection. -/
  | established (tcp : p.protocol = .tcp) (notSyn : p.flags.syn = false)
  /-- It opens a TCP connection to a name server for uid 0. -/
  | nameQuery (query : FlowQuery) (tcp : p.protocol = .tcp)
      (syn : p.flags.syn) (port : p.destinationPort = 53)
      (names : query.Names p) (root : .ownerLookup query (.uid 0) ∈ calls)
  /-- The policy was asked once, about this flow and the owner just looked up, and allowed it. -/
  | policy (query : FlowQuery) (record : FlowRecord) (redirect : Redirect)
      (names : query.Names p) (shows : record.Shows p)
      (owner : .ownerLookup query record.owner ∈ calls)
      (allowed : calls.filter Call.asksPolicy = [.addressCheck record (some redirect)])

namespace Engine

variable {σ : Type} {settings : EngineSettings} {bytes : Bytes} {openSessions : Nat}
  {outcome : Outcome} {calls : List Call} {p : Packet} {found : Bool} {owner : Owner}

theorem isHandled_iff : p.isHandled ↔
    p.protocol = .tcp ∨ p.protocol = .udp ∨ p.protocol = .icmp ∨ p.protocol = .icmpv6 := by
  simp [Packet.isHandled, Packet.isTcp, Packet.isUdp, Packet.isIcmp, or_assoc]

@[simp] theorem forwards_forwardCall (redirect : Option Redirect) :
    (forwardCall p owner redirect).forwards := by
  unfold forwardCall
  split
  · rfl
  split <;> rfl

@[simp] theorem asksPolicy_forwardCall (redirect : Option Redirect) :
    (forwardCall p owner redirect).asksPolicy = false := by
  unfold forwardCall
  split
  · rfl
  split <;> rfl

@[simp] theorem filter_sessionCalls : (sessionCalls p found).filter Call.asksPolicy = [] := by
  unfold sessionCalls
  split <;> rfl

@[simp] theorem mem_sessionCalls {call : Call} :
    call ∈ sessionCalls p found ↔ p.isUdp ∧ call = .sessionCheck p found := by
  unfold sessionCalls
  split <;> simp [*]

@[simp] theorem mem_refusalCalls {call : Call} :
    call ∈ refusalCalls p owner ↔ p.isUdp ∧ call = .udpRefusal p owner := by
  unfold refusalCalls
  split <;> simp [*]

theorem opensFlow_of_session (h : p.isUdp ∧ true = found) : p.opensFlow found = false := by
  obtain ⟨udp, rfl⟩ := h
  have hi : p.isIcmp = false :=
    Bool.eq_false_iff.2 fun h => by simp [not_isUdp_of_isIcmp h] at udp
  have ht : p.isTcp = false :=
    Bool.eq_false_iff.2 fun h => by simp [not_isUdp_of_isTcp h] at udp
  simp [Packet.opensFlow, Packet.isTcpSyn, hi, ht]

theorem opensFlow_of_established (protocol : p.protocol = .tcp) (notSyn : p.flags.syn = false) :
    p.opensFlow found = false := by
  have tcp : p.isTcp := by simpa [Packet.isTcp] using protocol
  have hi : p.isIcmp = false :=
    Bool.eq_false_iff.2 fun h => by simp [not_isTcp_of_isIcmp h] at tcp
  simp [Packet.opensFlow, Packet.isTcpSyn, hi, not_isUdp_of_isTcp tcp, notSyn]

@[simp] theorem forwards_sessionCalls : (sessionCalls p found).any Call.forwards = false := by
  unfold sessionCalls
  split <;> rfl

@[simp] theorem forwards_refusalCalls : (refusalCalls p owner).any Call.forwards = false := by
  unfold refusalCalls
  split <;> rfl

/-- Handlers are called by exactly the dispatches that allow. -/
theorem Course.forwards_eq (h : Course settings bytes openSessions outcome calls) :
    calls.any Call.forwards = outcome.isAllowed := by
  cases h <;> simp [Outcome.isAllowed]

/-- Whatever allows a packet has a ground for it. -/
theorem Course.ground (h : Course settings bytes openSessions outcome calls)
    (allowed : outcome.isAllowed) :
    ∃ p, Packet.ofBytes settings.verifyIPv4Checksum bytes = .ok p ∧ p.isHandled ∧
      Ground p calls := by
  cases h with
  | malformed => cases allowed
  | unsupported => cases allowed
  | capped => cases allowed
  | refused => cases allowed
  | @established p found packet old =>
    refine ⟨p, packet.parses, packet.handled, ?_⟩
    have hbypass := opensFlow_eq_not_bypass packet.handled packet.session
    rw [old, eq_comm, Bool.not_eq_false', Bool.or_eq_true] at hbypass
    rcases hbypass with hfound | htcp
    · subst hfound
      have udp := packet.session rfl
      refine .session (by simpa [Packet.isUdp] using udp) ?_
      simp [sessionCalls, udp]
    · simp only [Packet.isTcp, Bool.and_eq_true, beq_iff_eq, Bool.not_eq_true'] at htcp
      exact .established htcp.1 htcp.2
  | @rootDns p found owner packet opens room exempt =>
    refine ⟨p, packet.parses, packet.handled, ?_⟩
    simp only [isRootDns, Packet.isTcpSyn, Packet.isTcp, Bool.and_eq_true, beq_iff_eq] at exempt
    obtain ⟨⟨⟨tcp, syn⟩, root⟩, port⟩ := exempt
    refine .nameQuery (.ofPacket p) tcp syn port (FlowQuery.names_ofPacket p) ?_
    cases owner with
    | uid id =>
      simp only [Owner.isRoot, beq_iff_eq] at root
      simp [root]
    | notFound | unavailable | notLooked => cases root
  | @permitted p found owner redirect packet opens room subject =>
    refine ⟨p, packet.parses, packet.handled, ?_⟩
    refine .policy (.ofPacket p) (.ofPacket p owner) redirect (FlowQuery.names_ofPacket p)
      (FlowRecord.shows_ofPacket p owner) ?_ ?_
    · simp [FlowRecord.ofPacket]
    · simp [List.filter_cons]

/-- A packet with a ground is allowed. -/
theorem Course.allowed_of_ground (h : Course settings bytes openSessions outcome calls)
    (parses : Packet.ofBytes settings.verifyIPv4Checksum bytes = .ok p)
    (handled : p.isHandled) (ground : Ground p calls) : outcome.isAllowed := by
  have same {q : Packet} (hq : Packet.ofBytes settings.verifyIPv4Checksum bytes = .ok q) :
      q = p := Except.ok.inj (hq.symm.trans parses)
  cases h with
  | malformed hp => rw [parses] at hp; cases hp
  | unsupported hp unhandled =>
    rw [same hp, handled] at unhandled
    cases unhandled
  | established => rfl
  | rootDns => rfl
  | permitted => rfl
  | capped packet opens full =>
    obtain rfl := same packet.parses
    cases ground with
    | session udp hfound =>
      rw [opensFlow_of_session (by simpa using hfound)] at opens
      cases opens
    | established tcp notSyn =>
      rw [opensFlow_of_established tcp notSyn] at opens
      cases opens
    | nameQuery query tcp syn port names root => simp at root
    | policy query record redirect names shows owner allowed => simp at allowed
  | refused packet opens room subject =>
    obtain rfl := same packet.parses
    cases ground with
    | session udp hfound =>
      rw [opensFlow_of_session (by simpa using hfound)] at opens
      cases opens
    | established tcp notSyn =>
      rw [opensFlow_of_established tcp notSyn] at opens
      cases opens
    | nameQuery query tcp syn port names root =>
      obtain ⟨rfl, rfl⟩ : query = _ ∧ Owner.uid 0 = _ := by simpa using root
      simp [isRootDns, Packet.isTcpSyn, Packet.isTcp, Owner.isRoot, dnsPort, tcp, syn, port]
        at subject
    | policy query record redirect names shows owner allowed => simp [List.filter_cons] at allowed

/-- Complete mediation. A dispatch that calls a handler or reports that it allowed the packet has
parsed a packet of a handled protocol and has a ground for it, in calls that the collaborators
really answered; without a ground no packet reaches a handler. -/
theorem dispatch_forwards_iff_ground (engine : Engine) (bytes : Bytes) (openSessions : Nat)
    (host : Collaborators σ) (s : σ) :
    host.Replays s (engine.dispatch bytes openSessions host s).calls
        (engine.dispatch bytes openSessions host s).state ∧
      (((∃ call ∈ (engine.dispatch bytes openSessions host s).calls, call.forwards) ∨
          (engine.dispatch bytes openSessions host s).value.1.isAllowed) ↔
        ∃ p, Packet.ofBytes engine.settings.verifyIPv4Checksum bytes = .ok p ∧
          (p.protocol = .tcp ∨ p.protocol = .udp ∨ p.protocol = .icmp ∨ p.protocol = .icmpv6) ∧
          Ground p (engine.dispatch bytes openSessions host s).calls) := by
  have course := dispatch_course engine bytes openSessions host s
  have hforwards := course.forwards_eq
  rw [← List.any_eq_true, hforwards, or_self]
  refine ⟨genuine_dispatch engine bytes openSessions host s, fun allowed => ?_, ?_⟩
  · obtain ⟨p, parses, handled, ground⟩ := course.ground allowed
    exact ⟨p, parses, isHandled_iff.1 handled, ground⟩
  · rintro ⟨p, parses, handled, ground⟩
    exact course.allowed_of_ground parses (isHandled_iff.2 handled) ground

end Engine

end TunnelFirewall
