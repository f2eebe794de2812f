import TunnelFirewall.Proofs.Engine.Mediation

/-!
# The effects of a dispatch

A packet opens a flow or belongs to one that is known, which the collaborators' own answer about
its session decides. The calls of a dispatch fall into questions about the owner, questions to the
policy, the forwarding of the packet and the end of a refused flow; what each of these are follows
from the packet, the room for it and the answers.
-/
namespace TunnelFirewall

variable {σ : Type}

namespace Packet

variable {p : Packet}

theorem isIcmp_iff : p.isIcmp ↔ p.protocol = 1 ∨ p.protocol = 58 := by
  simp [isIcmp, Protocol.icmp, Protocol.icmpv6]

theorem isUdp_iff : p.isUdp ↔ p.protocol = 17 := by
  simp [isUdp, Protocol.udp]

theorem isTcp_iff : p.isTcp ↔ p.protocol = 6 := by
  simp [isTcp, Protocol.tcp]

/-- In state `s` the packet opens a flow: it is an ICMP message, a UDP datagram for which the
collaborators know no session, or a TCP segment with the SYN flag. -/
def IsNewFlow (p : Packet) (host : Collaborators σ) (s : σ) : Prop :=
  p.protocol = 1 ∨ p.protocol = 58 ∨ (p.protocol = 17 ∧ (host.hasSession p s).1 = false) ∨
    (p.protocol = 6 ∧ p.flags.syn)

theorem IsNewFlow.isHandled {host : Collaborators σ} {s : σ} (h : p.IsNewFlow host s) :
    p.isHandled := by
  simp only [Packet.isHandled, Bool.or_eq_true, isTcp_iff, isUdp_iff, isIcmp_iff]
  rcases h with icmp | icmpv6 | ⟨udp, -⟩ | ⟨tcp, -⟩
  · exact .inr (.inl icmp)
  · exact .inr (.inr icmpv6)
  · exact .inl (.inr udp)
  · exact .inl (.inl tcp)

end Packet

def Call.asksOwner : Call → Bool
  | .ownerLookup .. => true
  | _ => false

/-- The call ends a flow that was refused. -/
def Call.refuses : Call → Bool
  | .udpRefusal .. => true
  | _ => false

/-- Calls by what they do, each kind in order. -/
structure Effects where
  lookups : List Call
  checks : List Call
  forwarded : List Call
  refusals : List Call

def Effects.ofCalls (calls : List Call) : Effects where
  lookups := calls.filter Call.asksOwner
  checks := calls.filter Call.asksPolicy
  forwarded := calls.filter Call.forwards
  refusals := calls.filter Call.refuses

namespace Engine

open Dialogue

section Calls

variable (p : Packet) (found : Bool) (owner : Owner) (calls : List Call)

@[simp] theorem effects_sessionCalls_append :
    Effects.ofCalls (sessionCalls p found ++ calls) = Effects.ofCalls calls := by
  unfold sessionCalls
  split <;> rfl

@[simp] theorem effects_ownerLookup (query : FlowQuery) :
    Effects.ofCalls (.ownerLookup query owner :: calls) =
      { Effects.ofCalls calls with
        lookups := .ownerLookup query owner :: (Effects.ofCalls calls).lookups } := rfl

@[simp] theorem effects_addressCheck (record : FlowRecord) (redirect : Option Redirect) :
    Effects.ofCalls (.addressCheck record redirect :: calls) =
      { Effects.ofCalls calls with
        checks := .addressCheck record redirect :: (Effects.ofCalls calls).checks } := rfl

@[simp] theorem effects_forwardCall (redirect : Option Redirect) :
    Effects.ofCalls [forwardCall p owner redirect] =
      ⟨[], [], [forwardCall p owner redirect], []⟩ := by
  unfold forwardCall
  split
  · rfl
  split <;> rfl

@[simp] theorem effects_refusalCalls :
    Effects.ofCalls (refusalCalls p owner) = ⟨[], [], [], refusalCalls p owner⟩ := by
  unfold refusalCalls
  split <;> rfl

end Calls

variable {settings : EngineSettings} {bytes : Bytes} {openSessions : Nat} {outcome : Outcome}
  {calls : List Call} {p : Packet} {found : Bool} {host : Collaborators σ} {s t : σ}

/-- Whether the packet has a session, and the state after that was asked where it has to be. -/
def knownSession (p : Packet) (host : Collaborators σ) (s : σ) : Bool × σ :=
  if p.isUdp then host.hasSession p s else (false, s)

theorem askSession_apply (p : Packet) (host : Collaborators σ) (s : σ) :
    (if p.isUdp then askSession p else pure false : Dialogue σ Bool) host s =
      ⟨(knownSession p host s).1, (knownSession p host s).2,
        sessionCalls p (knownSession p host s).1⟩ := by
  unfold knownSession sessionCalls
  split <;> rfl

theorem isNewFlow_iff : p.IsNewFlow host s ↔ p.opensFlow (knownSession p host s).1 := by
  simp only [Packet.opensFlow, Packet.isTcpSyn, Bool.or_eq_true, Bool.and_eq_true,
    Bool.not_eq_true', Packet.isIcmp_iff, Packet.isUdp_iff, Packet.isTcp_iff, or_assoc]
  refine or_congr_right (or_congr_right (or_congr_left (and_congr_right fun udp => ?_)))
  rw [knownSession, if_pos (Packet.isUdp_iff.2 udp)]

theorem Handled.isNewFlow_iff {rest : List Call} (packet : Handled settings bytes p found)
    (h : host.Replays s (sessionCalls p found ++ rest) t) :
    p.IsNewFlow host s ↔ p.opensFlow found := by
  -- A course has some answer about the session; that it was really given makes it this one.
  suffices answered : (knownSession p host s).1 = found by rw [Engine.isNewFlow_iff, answered]
  unfold knownSession
  unfold sessionCalls at h
  by_cases udp : p.isUdp
  · rw [if_pos udp] at h ⊢
    cases h with
    | cons happens _ =>
      have answered : host.hasSession p s = (found, _) := happens
      rw [answered]
  · rw [if_neg udp, eq_comm, Bool.eq_false_iff]
    exact fun h => udp (packet.session h)

/-- What becomes of a buffer in state `s`, and with which effects. -/
inductive Treatment (settings : EngineSettings) (bytes : Bytes) (openSessions : Nat)
    (host : Collaborators σ) (s : σ) : Outcome → Effects → Prop
  | malformed {e : PacketError}
      (parses : Packet.ofBytes settings.verifyIPv4Checksum bytes = .error e) :
      Treatment settings bytes openSessions host s (.dropped (.malformed e)) ⟨[], [], [], []⟩
  | unsupported {p : Packet}
      (parses : Packet.ofBytes settings.verifyIPv4Checksum bytes = .ok p)
      (unhandled : p.isHandled = false) :
      Treatment settings bytes openSessions host s (.dropped (.unsupportedProtocol p.protocol))
        ⟨[], [], [], []⟩
  | capped {p : Packet} (parses : Packet.ofBytes settings.verifyIPv4Checksum bytes = .ok p)
      (new : p.IsNewFlow host s) (full : settings.maxSessions.toNat ≤ openSessions) :
      Treatment settings bytes openSessions host s
        (.dropped (.sessionLimit openSessions settings.maxSessions.toNat)) ⟨[], [], [], []⟩
  | established {p : Packet} (parses : Packet.ofBytes settings.verifyIPv4Checksum bytes = .ok p)
      (handled : p.isHandled) (known : ¬p.IsNewFlow host s) :
      Treatment settings bytes openSessions host s (.allowed p.protocol none)
        ⟨[], [], [forwardCall p .notLooked none], []⟩
  | exempt {p : Packet} {owner : Owner}
      (parses : Packet.ofBytes settings.verifyIPv4Checksum bytes = .ok p)
      (new : p.IsNewFlow host s) (room : openSessions < settings.maxSessions.toNat) :
      Treatment settings bytes openSessions host s (.allowed p.protocol none)
        ⟨[.ownerLookup (.ofPacket p) owner], [], [forwardCall p owner none], []⟩
  | permitted {p : Packet} {owner : Owner} {redirect : Redirect}
      (parses : Packet.ofBytes settings.verifyIPv4Checksum bytes = .ok p)
      (new : p.IsNewFlow host s) (room : openSessions < settings.maxSessions.toNat) :
      Treatment settings bytes openSessions host s (.allowed p.protocol redirect.effective?)
        ⟨[.ownerLookup (.ofPacket p) owner], [.addressCheck (.ofPacket p owner) (some redirect)],
          [forwardCall p owner redirect.effective?], []⟩
  | refused {p : Packet} {owner : Owner}
      (parses : Packet.ofBytes settings.verifyIPv4Checksum bytes = .ok p)
      (new : p.IsNewFlow host s) (room : openSessions < settings.maxSessions.toNat) :
      Treatment settings bytes openSessions host s (.blocked p.protocol)
        ⟨[.ownerLookup (.ofPacket p) owner], [.addressCheck (.ofPacket p owner) none], [],
          refusalCalls p owner⟩

theorem Course.treatment (h : Course settings bytes openSessions outcome calls)
    (replays : host.Replays s calls t) :
    Treatment settings bytes openSessions host s outcome (Effects.ofCalls calls) := by
  cases h with
  | malformed parses => exact .malformed parses
  | unsupported parses unhandled => exact .unsupported parses unhandled
  | capped packet opens full =>
    rw [← List.append_nil (sessionCalls _ _)] at replays ⊢
    rw [effects_sessionCalls_append]
    exact .capped packet.parses ((packet.isNewFlow_iff replays).2 opens) full
  | established packet old =>
    have known := mt (packet.isNewFlow_iff replays).1 (Bool.eq_false_iff.1 old)
    simp only [effects_sessionCalls_append, effects_forwardCall]
    exact .established packet.parses packet.handled known
  | rootDns packet opens room exempt =>
    have new := (packet.isNewFlow_iff replays).2 opens
    simp only [effects_sessionCalls_append, effects_ownerLookup, effects_forwardCall]
    exact .exempt packet.parses new room
  | permitted packet opens room subject =>
    have new := (packet.isNewFlow_iff replays).2 opens
    simp only [effects_sessionCalls_append, effects_ownerLookup, effects_addressCheck,
      effects_forwardCall]
    exact .permitted packet.parses new room
  | refused packet opens room subject =>
    have new := (packet.isNewFlow_iff replays).2 opens
    simp only [effects_sessionCalls_append, List.cons_append, List.nil_append,
      effects_ownerLookup, effects_addressCheck, effects_refusalCalls]
    exact .refused packet.parses new room

/-- Every dispatch is one of the treatments. -/
theorem dispatch_treatment (engine : Engine) (bytes : Bytes) (openSessions : Nat)
    (host : Collaborators σ) (s : σ) :
    Treatment engine.settings bytes openSessions host s
      (engine.dispatch bytes openSessions host s).value.1
      (Effects.ofCalls (engine.dispatch bytes openSessions host s).calls) :=
  (dispatch_course engine bytes openSessions host s).treatment
    (genuine_dispatch engine bytes openSessions host s)

end Engine

end TunnelFirewall
