import TunnelFirewall.Proofs.Engine.Admission

/-!
# Dropped packets

A packet that is dropped leaves a trace in three counters and nowhere else. The collaborators hear
of it only if the cap refuses a UDP datagram, which takes the question about its session.
-/
namespace TunnelFirewall

variable {σ : Type}

theorem Stats.toNat_maxPacketLength_receive (length : Nat) (stats : Stats) :
    (stats.receive length).maxPacketLength.toNat =
      max stats.maxPacketLength.toNat (min length (UInt64.size - 1)) := by
  have hlt : min length (UInt64.size - 1) < UInt64.size := by unfold UInt64.size; omega
  rw [receive, toNat_max, UInt64.toNat_ofNat_of_lt' hlt]

namespace Engine

open Dialogue

variable {settings : EngineSettings} {bytes : Bytes} {openSessions : Nat} {p : Packet}
  {e : PacketError} {host : Collaborators σ} {s : σ}

theorem answer_of_error (parses : Packet.ofBytes settings.verifyIPv4Checksum bytes = .error e) :
    answer settings bytes openSessions host s = ⟨.dropped (.malformed e), s, []⟩ := by
  simp [answer, parses]

theorem answer_of_unhandled (parses : Packet.ofBytes settings.verifyIPv4Checksum bytes = .ok p)
    (unhandled : ¬p.isHandled) :
    answer settings bytes openSessions host s =
      ⟨.dropped (.unsupportedProtocol p.protocol), s, []⟩ := by
  simp [answer, parses, unhandled]

theorem answer_of_full (parses : Packet.ofBytes settings.verifyIPv4Checksum bytes = .ok p)
    (new : p.IsNewFlow host s) (full : settings.maxSessions.toNat ≤ openSessions) :
    answer settings bytes openSessions host s =
      ⟨.dropped (.sessionLimit openSessions settings.maxSessions.toNat),
        if p.protocol = 17 then (host.hasSession p s).2 else s,
        if p.protocol = 17 then [.sessionCheck p false] else []⟩ := by
  rw [answer_of_isHandled parses new.isHandled, handle_of_full new full]
  by_cases udp : p.protocol = 17
  · -- A datagram opens a flow only if the answer about its session is no.
    have unknown : (host.hasSession p s).1 = false := by
      simpa [Packet.IsNewFlow, udp] using new
    simp [knownSession, sessionCalls, Packet.isUdp_iff, udp, unknown]
  · simp [knownSession, sessionCalls, Packet.isUdp_iff, udp]

/-- The frame of a drop. Without a packet, and for a packet of a protocol that is not handled, no
collaborator is called and the state stays; at the session limit the one call is the question
about a UDP datagram's session. The engine counts the packet, its length and this drop, and
nothing else changes. -/
theorem dispatch_dropped_frame (engine : Engine) (bytes : Bytes) (openSessions : Nat)
    (host : Collaborators σ) (s : σ) :
    ∃ longest : UInt64,
      longest.toNat = max engine.stats.maxPacketLength.toNat (min bytes.length (UInt64.size - 1)) ∧
      let seen : Stats := { engine.stats with
        received := engine.stats.received + 1, maxPacketLength := longest }
      (∀ e, Packet.ofBytes engine.settings.verifyIPv4Checksum bytes = .error e →
        engine.dispatch bytes openSessions host s =
          ⟨(.dropped (.malformed e), { engine with stats := { seen with
              droppedMalformed := engine.stats.droppedMalformed + 1 } }), s, []⟩) ∧
      (∀ p, Packet.ofBytes engine.settings.verifyIPv4Checksum bytes = .ok p →
        p.protocol ∉ [1, 6, 17, 58] →
        engine.dispatch bytes openSessions host s =
          ⟨(.dropped (.unsupportedProtocol p.protocol), { engine with stats := { seen with
              droppedUnsupported := engine.stats.droppedUnsupported + 1 } }), s, []⟩) ∧
      ∀ reported cap,
        (engine.dispatch bytes openSessions host s).value.1 =
          .dropped (.sessionLimit reported cap) →
        ∃ p, Packet.ofBytes engine.settings.verifyIPv4Checksum bytes = .ok p ∧
          engine.dispatch bytes openSessions host s =
            ⟨(.dropped (.sessionLimit reported cap), { engine with stats := { seen with
                droppedSessionLimit := engine.stats.droppedSessionLimit + 1 } }),
              if p.protocol = 17 then (host.hasSession p s).2 else s,
              if p.protocol = 17 then [.sessionCheck p false] else []⟩ := by
  refine ⟨_, engine.stats.toNat_maxPacketLength_receive bytes.length, ?malformed, ?unsupported,
    ?limit⟩
  case malformed =>
    intro e parses
    rw [dispatch_eq, answer_of_error parses]
    rfl
  case unsupported =>
    intro p parses other
    have unhandled : ¬p.isHandled := by
      intro handled
      apply other
      rcases isHandled_iff.1 handled with h | h | h | h
      all_goals rw [h]; decide
    rw [dispatch_eq, answer_of_unhandled parses unhandled]
    rfl
  case limit =>
    intro reported cap limit
    obtain ⟨rfl, rfl, full, p, parses, new⟩ :=
      (dispatch_treatment engine bytes openSessions host s).sessionLimit_iff.1 limit
    refine ⟨p, parses, ?_⟩
    rw [dispatch_eq, answer_of_full parses new full]
    rfl

end Engine

end TunnelFirewall
