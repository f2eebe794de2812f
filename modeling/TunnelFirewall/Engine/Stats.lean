import TunnelFirewall.Engine.Outcome
import TunnelFirewall.Tls.Outcome

/-!
# Counters

Every packet is counted when it arrives and once more by what became of it, and every verdict
on a TLS payload by what it was. Counters have 64 bits.
-/
namespace TunnelFirewall

/-- The counters of an engine. -/
structure Stats where
  received : UInt64 := 0
  allowed : UInt64 := 0
  blocked : UInt64 := 0
  droppedMalformed : UInt64 := 0
  droppedUnsupported : UInt64 := 0
  droppedSessionLimit : UInt64 := 0
  tlsHostnames : UInt64 := 0
  tlsBlocked : UInt64 := 0
  /-- The length of the longest packet. -/
  maxPacketLength : UInt64 := 0
deriving DecidableEq

namespace Stats

/-- Counts a packet that arrives. -/
def receive (length : Nat) (s : Stats) : Stats :=
  { s with received := s.received + 1
           maxPacketLength := max s.maxPacketLength (UInt64.ofNat (min length (UInt64.size - 1))) }

/-- Counts what became of a packet. -/
def count (outcome : Outcome) (s : Stats) : Stats :=
  match outcome with
  | .allowed .. => { s with allowed := s.allowed + 1 }
  | .blocked _ => { s with blocked := s.blocked + 1 }
  | .dropped (.malformed _) => { s with droppedMalformed := s.droppedMalformed + 1 }
  | .dropped (.unsupportedProtocol _) => { s with droppedUnsupported := s.droppedUnsupported + 1 }
  | .dropped (.sessionLimit ..) => { s with droppedSessionLimit := s.droppedSessionLimit + 1 }

/-- Counts a verdict on a TLS payload. -/
def countVerdict (verdict : Tls.Verdict) (s : Stats) : Stats :=
  match verdict with
  | .captured _ => { s with tlsHostnames := s.tlsHostnames + 1 }
  | .block => { s with tlsBlocked := s.tlsBlocked + 1 }
  | .allow => s

/-- Packets that were dropped for whatever reason. -/
def dropped (s : Stats) : UInt64 :=
  s.droppedMalformed + s.droppedUnsupported + s.droppedSessionLimit

end Stats

end TunnelFirewall
