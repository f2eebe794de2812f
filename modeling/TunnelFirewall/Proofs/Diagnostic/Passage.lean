import TunnelFirewall.Proofs.Diagnostic.Journal
import TunnelFirewall.Proofs.Engine.Drop

/-!
# The passage of a packet

The policy of the diagnostic program refuses no address and sends nothing elsewhere. So what the
engine says to a packet can be told from the packet and the open flows alone: either one of the
engine's own reasons to drop it, or that it is forwarded. Whoever owns the flow has no say in it and
is only written down in the session of a connection.
-/
namespace TunnelFirewall.Diagnostic

namespace Flows

/-- The packet belongs to a UDP flow that is open. -/
def knows (p : Packet) (flows : Flows) : Bool := p.isUdp && flows.hasUdp (.ofPacket p)

/-- The packet that is forwarded, or the reason why none is. -/
def passage (settings : EngineSettings) (bytes : Bytes) (flows : Flows) :
    Except DropReason Packet :=
  match Packet.ofBytes settings.verifyIPv4Checksum bytes with
  | .error e => .error (.malformed e)
  | .ok p =>
    if p.isHandled then
      if p.opensFlow (flows.knows p) && settings.maxSessions.toNat ≤ flows.size then
        .error (.sessionLimit flows.size settings.maxSessions.toNat)
      else .ok p
    else .error (.unsupportedProtocol p.protocol)

/-- The flows after a packet of this owner was forwarded. -/
def forwarded (p : Packet) (owner : Owner) (flows : Flows) : Flows :=
  if p.isIcmp then flows
  else if p.isUdp then flows.insertUdp (.ofPacket p)
  else flows.followTcp p owner

theorem passage_eq_ok_iff {settings : EngineSettings} {bytes : Bytes} {flows : Flows} {p : Packet} :
    flows.passage settings bytes = .ok p ↔
      Packet.ofBytes settings.verifyIPv4Checksum bytes = .ok p ∧ p.isHandled ∧
        (p.opensFlow (flows.knows p) → flows.size < settings.maxSessions.toNat) := by
  unfold passage
  cases parses : Packet.ofBytes settings.verifyIPv4Checksum bytes with
  | error e => simp
  | ok q =>
    constructor
    · intro h
      dsimp only at h
      split at h
      case isTrue handled =>
        split at h
        · cases h
        case isFalse room =>
          obtain rfl := Except.ok.inj h
          exact ⟨rfl, handled, by simpa using room⟩
      case isFalse => cases h
    · rintro ⟨hq, handled, room⟩
      obtain rfl := Except.ok.inj hq
      have hroom : ¬(q.opensFlow (flows.knows q) && settings.maxSessions.toNat ≤ flows.size) := by
        simpa using room
      simp only [handled, if_true, if_neg hroom]

end Flows

section Dispatch

variable [HexDecoder] {blocked : List String} {around : Surroundings} {desk : Desk} {p : Packet}

theorem knownSession_collaborators (p : Packet) (blocked : List String) (around : Surroundings)
    (desk : Desk) :
    Engine.knownSession p (collaborators blocked around) desk = (desk.flows.knows p, desk) := by
  unfold Engine.knownSession Flows.knows
  by_cases udp : p.isUdp
  · simp [udp, collaborators]
  · simp [udp]

theorem isNewFlow_iff_opensFlow :
    p.IsNewFlow (collaborators blocked around) desk ↔ p.opensFlow (desk.flows.knows p) := by
  rw [Engine.isNewFlow_iff, knownSession_collaborators]

theorem forward_flows (p : Packet) (owner : Owner) (redirect : Option Redirect)
    (blocked : List String) (around : Surroundings) (desk : Desk) :
    (Dialogue.forward p owner redirect (collaborators blocked around) desk).state.flows =
      desk.flows.forwarded p owner := by
  unfold Dialogue.forward Flows.forwarded
  split
  · rfl
  split
  · rfl
  · rfl

/-- Whether the policy is asked or passed over, the packet is forwarded as it is. -/
theorem decide_passes (p : Packet) (found : Bool) (owner : Owner) (blocked : List String)
    (around : Surroundings) (desk : Desk) :
    let x := (Engine.decide p found owner >>= Engine.carryOut p owner)
      (collaborators blocked around) desk
    x.value = .allowed p.protocol none ∧ x.state.flows = desk.flows.forwarded p owner := by
  have hpolicy : (collaborators blocked around).allowAddress (.ofPacket p owner) desk =
    (some {}, desk) := rfl
  have hredirect : ({} : Redirect).effective? = none := rfl
  by_cases bypass : found || (p.isTcp && !p.flags.syn) || Engine.isRootDns p owner
  · simp [Engine.decide, bypass, Engine.carryOut, forward_flows]
  · simp [Engine.decide, bypass, Engine.carryOut, Dialogue.askAddress, hpolicy, hredirect,
      forward_flows]

/-- The search for the owner of a flow changes the cache and not the flows. -/
theorem proceed_passes (p : Packet) (found : Bool) (blocked : List String)
    (around : Surroundings) (desk : Desk) :
    let x := Engine.proceed p found (collaborators blocked around) desk
    x.value = .allowed p.protocol none ∧ ∃ owner, x.state.flows = desk.flows.forwarded p owner := by
  intro x
  let search := (if p.opensFlow found then Dialogue.askOwner (.ofPacket p) else pure .notLooked :
    Dialogue Desk Owner) (collaborators blocked around) desk
  have hsearch : search.state.flows = desk.flows := by
    unfold search
    split
    · rfl
    · rfl
  obtain ⟨hvalue, hflows⟩ := decide_passes p found search.value blocked around search.state
  rw [hsearch] at hflows
  exact ⟨hvalue, search.value, hflows⟩

/-- A dispatch does what the packet and the open flows say. -/
theorem dispatch_passage (engine : Engine) (bytes : Bytes) (blocked : List String)
    (around : Surroundings) (desk : Desk) :
    let x := engine.dispatch bytes desk.flows.size (collaborators blocked around) desk
    match desk.flows.passage engine.settings bytes with
    | .error reason => x.value.1 = .dropped reason ∧ x.state = desk
    | .ok p => x.value.1 = .allowed p.protocol none ∧
        ∃ owner, x.state.flows = desk.flows.forwarded p owner := by
  intro x
  unfold x Flows.passage
  rw [Engine.dispatch_eq]
  cases parses : Packet.ofBytes engine.settings.verifyIPv4Checksum bytes with
  | error e =>
    rw [Engine.answer_of_error parses]
    exact ⟨rfl, rfl⟩
  | ok p =>
    by_cases handled : p.isHandled
    case neg =>
      rw [Engine.answer_of_unhandled parses handled]
      simp [handled]
    rw [Engine.answer_of_isHandled parses handled]
    -- The engine is told the size of the flows that it asks about the session.
    by_cases full : p.opensFlow (desk.flows.knows p) &&
        engine.settings.maxSessions.toNat ≤ desk.flows.size
    · obtain ⟨opens, hcap⟩ : p.opensFlow (desk.flows.knows p) ∧
          engine.settings.maxSessions.toNat ≤ desk.flows.size := by simpa using full
      rw [Engine.handle_of_full (isNewFlow_iff_opensFlow.2 opens) hcap, knownSession_collaborators]
      simp [handled, full]
    · have admitted : ¬(p.IsNewFlow (collaborators blocked around) desk ∧
          engine.settings.maxSessions.toNat ≤ desk.flows.size) := by
        rw [isNewFlow_iff_opensFlow]
        simpa using full
      rw [Engine.handle_of_admitted admitted, Dialogue.bind_apply, Engine.askSession_apply,
        knownSession_collaborators]
      simpa only [handled, if_true, if_neg full] using
        proceed_passes p (desk.flows.knows p) blocked around desk

end Dispatch

/-- A look at a payload asks about a name at most, which changes nothing. -/
theorem inspectPayload_state [HexDecoder] (payload : Bytes) (session : Tls.Session)
    (blocked : List String) (around : Surroundings) (desk : Desk) :
    (Engine.inspectPayload payload session (collaborators blocked around) desk).state = desk := by
  unfold Engine.inspectPayload
  cases Tls.inspect payload session.hostname with
  | readyToDecide =>
    cases session.hostname with
    | none => rfl
    | some name => rfl
  | _ => rfl

end TunnelFirewall.Diagnostic
