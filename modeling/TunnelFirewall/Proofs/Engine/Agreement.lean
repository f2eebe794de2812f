import TunnelFirewall.Proofs.Engine.Effects

/-!
# Outcomes and effects

The outcome of a dispatch and the calls it makes tell the same story. A packet is reported as
allowed exactly if it was forwarded once, under the owner that was found and with the redirect
that is reported, and as blocked exactly if the policy was asked once and refused.
-/
namespace TunnelFirewall

variable {σ : Type}

/-- The call hands the packet to the forwarder of its protocol under this owner and, where that
forwarder takes one, with this redirect. -/
inductive Call.Delivers (p : Packet) (owner : Owner) (redirect : Option Redirect) : Call → Prop
  | icmp (protocol : p.protocol = 1 ∨ p.protocol = 58) : Delivers p owner redirect (.icmp p owner)
  | udp (protocol : p.protocol = 17) : Delivers p owner redirect (.udp p owner redirect)
  | tcp (protocol : p.protocol = 6) : Delivers p owner redirect (.tcp p owner redirect)

/-- The owner under which the packet goes, by the questions about owners that were asked: the
answer to the one question about its flow if it opens one, and otherwise nobody was asked. -/
inductive Attributed (p : Packet) (host : Collaborators σ) (s : σ) : List Call → Owner → Prop
  | looked {query : FlowQuery} {owner : Owner} (new : p.IsNewFlow host s) (names : query.Names p) :
      Attributed p host s [.ownerLookup query owner] owner
  | notLooked (known : ¬p.IsNewFlow host s) : Attributed p host s [] .notLooked

/-- The packet is forwarded once and no flow is ended. The redirect is the one that the policy
answered, if that has an address and a port, and without such an answer there is none. -/
structure Effects.Deliver (effects : Effects) (p : Packet) (host : Collaborators σ) (s : σ)
    (redirect : Option Redirect) : Prop where
  once : ∃ owner call, Attributed p host s effects.lookups owner ∧
    call.Delivers p owner redirect ∧ effects.forwarded = [call]
  unrefused : effects.refusals = []
  redirect : ∀ r, redirect = some r ↔
    (∃ record, .addressCheck record (some r) ∈ effects.checks) ∧ r.address.isSome ∧ r.port ≠ 0

/-- Nothing is forwarded, and the flow of a UDP packet, and of no other, is ended under the owner
that was looked up. -/
structure Effects.Refuse (effects : Effects) (p : Packet) (host : Collaborators σ) (s : σ) :
    Prop where
  unforwarded : effects.forwarded = []
  opens : p.IsNewFlow host s
  ended : ∃ owner, Attributed p host s effects.lookups owner ∧
    effects.refusals = if p.protocol = 17 then [.udpRefusal p owner] else []

theorem Redirect.effective?_eq_some_iff {r r' : Redirect} :
    r.effective? = some r' ↔ r' = r ∧ r'.address.isSome ∧ r'.port ≠ 0 := by
  unfold effective? isEffective
  constructor
  · intro h
    split at h
    · rename_i effective
      obtain rfl := Option.some.inj h
      exact ⟨rfl, by simpa using effective⟩
    · cases h
  · rintro ⟨rfl, address, port⟩
    simp [address, port]

namespace Engine

variable {settings : EngineSettings} {bytes : Bytes} {openSessions : Nat} {outcome : Outcome}
  {effects : Effects} {p : Packet} {owner : Owner} {redirect redirect' : Option Redirect}
  {protocol : Protocol} {host : Collaborators σ} {s : σ}

theorem delivers_forwardCall (handled : p.isHandled) :
    (forwardCall p owner redirect).Delivers p owner redirect := by
  unfold forwardCall
  by_cases icmp : p.isIcmp
  · rw [if_pos icmp]
    exact .icmp (Packet.isIcmp_iff.1 icmp)
  rw [if_neg icmp]
  by_cases udp : p.isUdp
  · rw [if_pos udp]
    exact .udp (Packet.isUdp_iff.1 udp)
  · rw [if_neg udp]
    have tcp : p.isTcp := by simpa [Packet.isHandled, icmp, udp] using handled
    exact .tcp (Packet.isTcp_iff.1 tcp)

theorem attributed_ofPacket (new : p.IsNewFlow host s) :
    Attributed p host s [.ownerLookup (.ofPacket p) owner] owner :=
  .looked new (FlowQuery.names_ofPacket p)

theorem deliver_redirect_eq (h : effects.Deliver p host s redirect)
    (h' : effects.Deliver p host s redirect') : redirect = redirect' :=
  Option.ext fun r => (h.redirect r).trans (h'.redirect r).symm

theorem Treatment.deliver
    (h : Treatment settings bytes openSessions host s (.allowed protocol redirect) effects) :
    ∃ p, Packet.ofBytes settings.verifyIPv4Checksum bytes = .ok p ∧ p.protocol = protocol ∧
      effects.Deliver p host s redirect := by
  cases h with
  | @established p parses handled known =>
    refine ⟨p, parses, rfl, ⟨.notLooked, _, .notLooked known, delivers_forwardCall handled, rfl⟩,
      rfl, ?_⟩
    simp
  | @exempt p owner parses new room =>
    refine ⟨p, parses, rfl, ⟨owner, _, attributed_ofPacket new,
      delivers_forwardCall new.isHandled, rfl⟩, rfl, ?_⟩
    simp
  | @permitted p owner redirect parses new room =>
    refine ⟨p, parses, rfl, ⟨owner, _, attributed_ofPacket new,
      delivers_forwardCall new.isHandled, rfl⟩, rfl, fun r => ?_⟩
    rw [Redirect.effective?_eq_some_iff]
    simp

theorem Treatment.refuse
    (h : Treatment settings bytes openSessions host s (.blocked protocol) effects) :
    ∃ p record, Packet.ofBytes settings.verifyIPv4Checksum bytes = .ok p ∧
      p.protocol = protocol ∧ effects.checks = [.addressCheck record none] ∧
      effects.Refuse p host s := by
  cases h with
  | @refused p owner parses new room =>
    refine ⟨p, _, parses, rfl, rfl, rfl, new, owner, attributed_ofPacket new, ?_⟩
    simp [refusalCalls, Packet.isUdp_iff]

theorem Treatment.forwarded_length
    (h : Treatment settings bytes openSessions host s outcome effects) :
    effects.forwarded.length = if outcome.isAllowed then 1 else 0 := by
  cases h <;> rfl

theorem Treatment.allowed_iff
    (h : Treatment settings bytes openSessions host s outcome effects) :
    outcome = .allowed protocol redirect ↔
      ∃ p, Packet.ofBytes settings.verifyIPv4Checksum bytes = .ok p ∧ p.protocol = protocol ∧
        effects.Deliver p host s redirect := by
  constructor
  · rintro rfl
    exact h.deliver
  · rintro ⟨p, parses, rfl, delivered⟩
    obtain ⟨owner, call, -, -, once⟩ := delivered.once
    have length := h.forwarded_length
    rw [once] at length
    cases outcome with
    | dropped reason => cases length
    | blocked protocol => cases length
    | allowed protocol redirect' =>
      obtain ⟨q, hq, rfl, delivered'⟩ := h.deliver
      obtain rfl := Except.ok.inj (parses.symm.trans hq)
      -- The answers of the policy leave one redirect only.
      rw [deliver_redirect_eq delivered' delivered]

theorem Treatment.blocked_iff
    (h : Treatment settings bytes openSessions host s outcome effects) :
    outcome = .blocked protocol ↔
      ∃ p record, Packet.ofBytes settings.verifyIPv4Checksum bytes = .ok p ∧
        p.protocol = protocol ∧ effects.checks = [.addressCheck record none] := by
  constructor
  · rintro rfl
    obtain ⟨p, record, parses, hprotocol, asked, -⟩ := h.refuse
    exact ⟨p, record, parses, hprotocol, asked⟩
  · rintro ⟨p, record, parses, rfl, asked⟩
    cases h with
    | malformed => cases asked
    | unsupported => cases asked
    | capped => cases asked
    | established => cases asked
    | exempt => cases asked
    | permitted => cases asked
    | refused hp new room =>
      obtain rfl := Except.ok.inj (parses.symm.trans hp)
      rfl

/-- A dispatch keeps account of calls that the collaborators really answered, and forwards a
packet once or not at all. It reports a packet as allowed exactly if these calls deliver the
packet, with the protocol and the redirect of the report, and as blocked exactly if the policy was
asked once and refused; then the calls refuse it. -/
theorem dispatch_outcome_iff_effects (engine : Engine) (bytes : Bytes) (openSessions : Nat)
    (host : Collaborators σ) (s : σ) :
    let exchange := engine.dispatch bytes openSessions host s
    let effects := Effects.ofCalls exchange.calls
    host.Replays s exchange.calls exchange.state ∧
      effects.forwarded.length = (if exchange.value.1.isAllowed then 1 else 0) ∧
      (∀ protocol redirect, exchange.value.1 = .allowed protocol redirect ↔
        ∃ p, Packet.ofBytes engine.settings.verifyIPv4Checksum bytes = .ok p ∧
          p.protocol = protocol ∧ effects.Deliver p host s redirect) ∧
      (∀ protocol, exchange.value.1 = .blocked protocol ↔
        ∃ p record, Packet.ofBytes engine.settings.verifyIPv4Checksum bytes = .ok p ∧
          p.protocol = protocol ∧ effects.checks = [.addressCheck record none]) ∧
      ∀ protocol, exchange.value.1 = .blocked protocol →
        ∃ p, Packet.ofBytes engine.settings.verifyIPv4Checksum bytes = .ok p ∧
          p.protocol = protocol ∧ effects.Refuse p host s := by
  intro exchange effects
  have treatment : Treatment engine.settings bytes openSessions host s exchange.value.1 effects :=
    dispatch_treatment engine bytes openSessions host s
  refine ⟨genuine_dispatch engine bytes openSessions host s, treatment.forwarded_length,
    fun protocol redirect => treatment.allowed_iff, fun protocol => treatment.blocked_iff, ?_⟩
  intro protocol blocked
  rw [blocked] at treatment
  obtain ⟨p, record, parses, hprotocol, -, refused⟩ := treatment.refuse
  exact ⟨p, parses, hprotocol, refused⟩

section Example

/-- A redirect to port 8080 of the own host. -/
def toProxy : Redirect := ⟨some (.v4 ⟨127, 0, 0, 1⟩), 8080⟩

/-- A UDP packet without data from port 5353 of `10.0.0.1` to port 53 of `192.0.2.1`. -/
def emptyQuery : Bytes :=
  [69, 0, 0, 28, 0, 0, 0, 0, 64, 17, 0, 0, 10, 0, 0, 1, 192, 0, 2, 1] ++
    [20, 233, 0, 53, 0, 8, 0, 0]

/-- The query is sent to the proxy, or its flow is ended. -/
theorem dispatch_outcome_iff_effects_query :
    let engine : Engine := { settings := { verifyIPv4Checksum := false } }
    let effects (host : Collaborators Unit) :=
      Effects.ofCalls (engine.dispatch emptyQuery 0 host ()).calls
    let lenient := Collaborators.steady (some toProxy) false
    let strict := Collaborators.steady none true
    ∃ p, Packet.ofBytes false emptyQuery = .ok p ∧ p.protocol = 17 ∧
      (effects lenient).Deliver p lenient () (some toProxy) ∧
      (effects strict).Refuse p strict () := by
  intro engine effects lenient strict
  have hallowed : (engine.dispatch emptyQuery 0 lenient ()).value.1 =
      .allowed 17 (some toProxy) := by decide +kernel
  have hblocked : (engine.dispatch emptyQuery 0 strict ()).value.1 = .blocked 17 := by
    decide +kernel
  obtain ⟨-, -, hallows, -, -⟩ := dispatch_outcome_iff_effects engine emptyQuery 0 lenient ()
  obtain ⟨-, -, -, -, hblocks⟩ := dispatch_outcome_iff_effects engine emptyQuery 0 strict ()
  obtain ⟨p, hp, hprotocol, delivered⟩ := (hallows 17 (some toProxy)).1 hallowed
  obtain ⟨p', hp', -, refused⟩ := hblocks 17 hblocked
  obtain rfl := Except.ok.inj (hp.symm.trans hp')
  exact ⟨p, hp, hprotocol, delivered, refused⟩

end Example

end Engine

end TunnelFirewall
