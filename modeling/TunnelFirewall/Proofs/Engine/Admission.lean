import TunnelFirewall.Proofs.Engine.Effects

/-!
# Admission

The session cap refuses the packets that open a flow and no others. Where it refuses none, the
number of open sessions cannot be told from what a dispatch does. The owner of a flow is asked for
exactly if the packet opens it and is not refused.
-/
namespace TunnelFirewall.Engine

open Dialogue

variable {σ : Type} {settings : EngineSettings} {bytes : Bytes} {openSessions maxSessions : Nat}
  {outcome : Outcome} {effects : Effects} {p : Packet} {host : Collaborators σ} {s : σ}

/-- What a packet comes to past the cap. -/
def proceed (p : Packet) (found : Bool) : Dialogue σ Outcome :=
  (if p.opensFlow found then askOwner (.ofPacket p) else pure .notLooked) >>= fun owner =>
    decide p found owner >>= carryOut p owner

theorem handle_of_full (opens : p.IsNewFlow host s) (full : maxSessions ≤ openSessions) :
    handle maxSessions p openSessions host s =
      ⟨.dropped (.sessionLimit openSessions maxSessions), (knownSession p host s).2,
        sessionCalls p (knownSession p host s).1⟩ := by
  rw [isNewFlow_iff] at opens
  rw [handle_eq, bind_apply, askSession_apply]
  simp [opens, full]

/-- Past the cap nothing depends on it. -/
theorem handle_of_admitted (h : ¬(p.IsNewFlow host s ∧ maxSessions ≤ openSessions)) :
    handle maxSessions p openSessions host s =
      ((if p.isUdp then askSession p else pure false) >>= proceed p) host s := by
  have past : (p.opensFlow (knownSession p host s).1 && maxSessions ≤ openSessions) = false := by
    rw [isNewFlow_iff] at h
    simpa using h
  rw [handle_eq, bind_apply, bind_apply, askSession_apply]
  dsimp only
  rw [past]
  rfl

theorem dispatch_eq (engine : Engine) (bytes : Bytes) (openSessions : Nat)
    (host : Collaborators σ) (s : σ) :
    engine.dispatch bytes openSessions host s =
      let x := answer engine.settings bytes openSessions host s
      ⟨(x.value, { engine with stats := (engine.stats.receive bytes.length).count x.value }),
        x.state, x.calls⟩ := by
  simp [dispatch]

theorem answer_of_isHandled (parses : Packet.ofBytes settings.verifyIPv4Checksum bytes = .ok p)
    (handled : p.isHandled) :
    (answer settings bytes openSessions : Dialogue σ Outcome) =
      handle settings.maxSessions.toNat p openSessions := by
  simp [answer, parses, handled]

/-- A buffer that the cap refuses with neither number of open sessions is treated alike with
both. -/
theorem dispatch_congr {engine : Engine} {first second : Nat}
    (hfirst : ∀ p, Packet.ofBytes engine.settings.verifyIPv4Checksum bytes = .ok p →
      ¬(p.IsNewFlow host s ∧ engine.settings.maxSessions.toNat ≤ first))
    (hsecond : ∀ p, Packet.ofBytes engine.settings.verifyIPv4Checksum bytes = .ok p →
      ¬(p.IsNewFlow host s ∧ engine.settings.maxSessions.toNat ≤ second)) :
    engine.dispatch bytes first host s = engine.dispatch bytes second host s := by
  have answers : answer engine.settings bytes first host s =
      answer engine.settings bytes second host s := by
    cases parses : Packet.ofBytes engine.settings.verifyIPv4Checksum bytes with
    | error e => simp [answer, parses]
    | ok p =>
      by_cases handled : p.isHandled
      · rw [answer_of_isHandled parses handled, answer_of_isHandled parses handled,
          handle_of_admitted (hfirst p parses), handle_of_admitted (hsecond p parses)]
      · simp [answer, parses, handled]
  rw [dispatch_eq, dispatch_eq, answers]

theorem Treatment.sessionLimit_iff
    (h : Treatment settings bytes openSessions host s outcome effects) {reported cap : Nat} :
    outcome = .dropped (.sessionLimit reported cap) ↔
      reported = openSessions ∧ cap = settings.maxSessions.toNat ∧ cap ≤ openSessions ∧
        ∃ p, Packet.ofBytes settings.verifyIPv4Checksum bytes = .ok p ∧ p.IsNewFlow host s := by
  constructor
  · rintro rfl
    cases h with
    | capped parses new full => exact ⟨rfl, rfl, full, _, parses, new⟩
  · rintro ⟨rfl, rfl, full, p, parses, new⟩
    cases h with
    | malformed hp => rw [parses] at hp; cases hp
    | unsupported hp unhandled =>
      obtain rfl := Except.ok.inj (parses.symm.trans hp)
      rw [new.isHandled] at unhandled
      cases unhandled
    | capped => rfl
    | established hp handled known =>
      obtain rfl := Except.ok.inj (parses.symm.trans hp)
      exact absurd new known
    | exempt hp hnew room => omega
    | permitted hp hnew room => omega
    | refused hp hnew room => omega

/-- The owner is asked for once if the packet opens a flow and there is room for it, and never
otherwise. -/
theorem Treatment.lookups (h : Treatment settings bytes openSessions host s outcome effects) :
    (∃ p owner, Packet.ofBytes settings.verifyIPv4Checksum bytes = .ok p ∧ p.IsNewFlow host s ∧
        openSessions < settings.maxSessions.toNat ∧
        effects.lookups = [.ownerLookup (.ofPacket p) owner]) ∨
      ((∀ p, Packet.ofBytes settings.verifyIPv4Checksum bytes = .ok p → p.IsNewFlow host s →
          settings.maxSessions.toNat ≤ openSessions) ∧
        effects.lookups = []) := by
  cases h with
  | malformed hp =>
    refine .inr ⟨fun p parses => ?_, rfl⟩
    rw [hp] at parses
    cases parses
  | unsupported hp unhandled =>
    refine .inr ⟨fun p parses new => ?_, rfl⟩
    obtain rfl := Except.ok.inj (parses.symm.trans hp)
    rw [new.isHandled] at unhandled
    cases unhandled
  | capped hp new full => exact .inr ⟨fun _ _ _ => full, rfl⟩
  | established hp handled known =>
    refine .inr ⟨fun p parses new => ?_, rfl⟩
    obtain rfl := Except.ok.inj (parses.symm.trans hp)
    exact absurd new known
  | exempt hp new room => exact .inl ⟨_, _, hp, new, room, rfl⟩
  | permitted hp new room => exact .inl ⟨_, _, hp, new, room, rfl⟩
  | refused hp new room => exact .inl ⟨_, _, hp, new, room, rfl⟩

/-- Admission control. A dispatch reports the session limit exactly if the packet opens a flow and
the cap is reached. For a packet that opens none, and below the cap for every packet, two numbers
of open sessions lead to the same outcome, counters, calls and state. The owner is asked for at
most once, and exactly if the packet opens a flow below the cap. -/
theorem dispatch_admission (engine : Engine) (bytes : Bytes) (host : Collaborators σ) (s : σ) :
    (∀ openSessions reported cap,
      (engine.dispatch bytes openSessions host s).value.1 = .dropped (.sessionLimit reported cap) ↔
        reported = openSessions ∧ cap = engine.settings.maxSessions.toNat ∧ cap ≤ openSessions ∧
          ∃ p, Packet.ofBytes engine.settings.verifyIPv4Checksum bytes = .ok p ∧
            p.IsNewFlow host s) ∧
      (∀ p, Packet.ofBytes engine.settings.verifyIPv4Checksum bytes = .ok p →
        ¬p.IsNewFlow host s → ∀ first second,
          engine.dispatch bytes first host s = engine.dispatch bytes second host s) ∧
      (∀ first < engine.settings.maxSessions.toNat, ∀ second < engine.settings.maxSessions.toNat,
        engine.dispatch bytes first host s = engine.dispatch bytes second host s) ∧
      ∀ openSessions,
        let lookups := (Effects.ofCalls (engine.dispatch bytes openSessions host s).calls).lookups
        lookups.length ≤ 1 ∧
          (lookups ≠ [] ↔ ∃ p, Packet.ofBytes engine.settings.verifyIPv4Checksum bytes = .ok p ∧
            p.IsNewFlow host s ∧ openSessions < engine.settings.maxSessions.toNat) := by
  have treatment (openSessions : Nat) := dispatch_treatment engine bytes openSessions host s
  refine ⟨?limit, ?known, ?room, ?owner⟩
  case limit =>
    intro openSessions reported cap
    exact (treatment openSessions).sessionLimit_iff
  case known =>
    intro p parses known first second
    have outside (openSessions : Nat) (q : Packet)
        (hq : Packet.ofBytes engine.settings.verifyIPv4Checksum bytes = .ok q) :
        ¬(q.IsNewFlow host s ∧ engine.settings.maxSessions.toNat ≤ openSessions) := by
      rintro ⟨new, -⟩
      obtain rfl := Except.ok.inj (parses.symm.trans hq)
      exact known new
    exact dispatch_congr (outside first) (outside second)
  case room =>
    intro first hfirst second hsecond
    apply dispatch_congr
    · rintro _ _ ⟨-, full⟩
      omega
    · rintro _ _ ⟨-, full⟩
      omega
  case owner =>
    intro openSessions lookups
    rcases (treatment openSessions).lookups with
      ⟨p, owner, parses, new, room, asked⟩ | ⟨closed, unasked⟩
    · have asked : lookups = [.ownerLookup (.ofPacket p) owner] := asked
      rw [asked]
      exact ⟨Nat.le_refl 1, fun _ => ⟨p, parses, new, room⟩, fun _ => List.cons_ne_nil _ _⟩
    · have unasked : lookups = [] := unasked
      rw [unasked]
      refine ⟨Nat.zero_le 1, fun h => absurd rfl h, ?_⟩
      rintro ⟨p, parses, new, room⟩
      have full := closed p parses new
      omega

end TunnelFirewall.Engine
