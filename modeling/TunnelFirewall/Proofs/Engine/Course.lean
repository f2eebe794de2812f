import TunnelFirewall.Engine.Dispatch

/-!
# The course of a dispatch

Every call of a dialogue is an answer that the collaborators gave in the state they had reached.
The calls and the outcome of one dispatch follow one of seven courses, and each course says what
the packet and the answers were.
-/
namespace TunnelFirewall

variable {σ α β : Type}

/-- In state `s` the collaborators answer like this, and are then in the other state. -/
def Call.Happens (host : Collaborators σ) (s : σ) : Call → σ → Prop
  | .sessionCheck p found, t => host.hasSession p s = (found, t)
  | .ownerLookup query owner, t => host.resolveOwner query s = (owner, t)
  | .addressCheck record redirect, t => host.allowAddress record s = (redirect, t)
  | .domainCheck hostname owner blocked, t => host.blockDomain hostname owner s = (blocked, t)
  | .icmp p owner, t => host.forwardIcmp p owner s = t
  | .udp p owner redirect, t => host.forwardUdp p owner redirect s = t
  | .tcp p owner redirect, t => host.forwardTcp p owner redirect s = t
  | .udpRefusal p owner, t => host.refuseUdp p owner s = t
  | .ownerReset, t => host.forgetOwners s = t

/-- The collaborators, called in this order from the first state on, give these answers and end
in the last state. -/
inductive Collaborators.Replays (host : Collaborators σ) : σ → List Call → σ → Prop
  | nil (s : σ) : Replays host s [] s
  | cons {s t u : σ} {call : Call} {calls : List Call} :
      call.Happens host s t → Replays host t calls u → Replays host s (call :: calls) u

theorem Collaborators.Replays.append {host : Collaborators σ} {s t u : σ} {front back : List Call}
    (hf : host.Replays s front t) (hb : host.Replays t back u) :
    host.Replays s (front ++ back) u := by
  induction hf with
  | nil s => exact hb
  | cons h _ ih => exact .cons h (ih hb)

theorem Collaborators.Replays.single {host : Collaborators σ} {s t : σ} {call : Call}
    (h : call.Happens host s t) : host.Replays s [call] t :=
  .cons h (.nil t)

/-- Collaborators that know no session and no owner, and a policy that always answers the same. -/
def Collaborators.steady (redirect : Option Redirect) (blocks : Bool) : Collaborators Unit where
  hasSession _ s := (false, s)
  resolveOwner _ s := (.notFound, s)
  allowAddress _ s := (redirect, s)
  blockDomain _ _ s := (blocks, s)
  forwardIcmp _ _ s := s
  forwardUdp _ _ _ s := s
  forwardTcp _ _ _ s := s
  refuseUdp _ _ s := s
  forgetOwners s := s

namespace Dialogue

/-- The calls of a dialogue are the ones its collaborators answered. -/
def Genuine (d : Dialogue σ α) : Prop :=
  ∀ (host : Collaborators σ) (s : σ), host.Replays s (d host s).calls (d host s).state

theorem genuine_pure (a : α) : Genuine (pure a : Dialogue σ α) :=
  fun _ s => .nil s

theorem Genuine.bind {first : Dialogue σ α} {second : α → Dialogue σ β} (hf : Genuine first)
    (hs : ∀ a, Genuine (second a)) : Genuine (first >>= second) :=
  fun host s => (hf host s).append (hs _ host _)

theorem Genuine.ite {c : Prop} [Decidable c] {d e : Dialogue σ α} (hd : Genuine d)
    (he : Genuine e) : Genuine (if c then d else e) := by
  split
  · exact hd
  · exact he

theorem ite_bind {c : Prop} [Decidable c] (d e : Dialogue σ α) (next : α → Dialogue σ β) :
    (if c then d else e) >>= next = if c then d >>= next else e >>= next := by
  split <;> rfl

theorem genuine_askSession (p : Packet) : Genuine (askSession p : Dialogue σ Bool) :=
  fun _ _ => .single rfl

theorem genuine_askOwner (query : FlowQuery) : Genuine (askOwner query : Dialogue σ Owner) :=
  fun _ _ => .single rfl

theorem genuine_askAddress (record : FlowRecord) :
    Genuine (askAddress record : Dialogue σ (Option Redirect)) :=
  fun _ _ => .single rfl

theorem genuine_refuseUdp (p : Packet) (owner : Owner) :
    Genuine (refuseUdp p owner : Dialogue σ Unit) :=
  fun _ _ => .single rfl

theorem genuine_forward (p : Packet) (owner : Owner) (redirect : Option Redirect) :
    Genuine (forward p owner redirect : Dialogue σ Unit) := by
  intro host s
  unfold forward
  split
  · exact .single rfl
  split
  · exact .single rfl
  · exact .single rfl

end Dialogue

namespace Engine

open Dialogue

theorem genuine_decide (p : Packet) (hasSession : Bool) (owner : Owner) :
    Genuine (decide p hasSession owner : Dialogue σ Decision) := by
  unfold decide
  split
  · exact genuine_pure _
  · refine (genuine_askAddress _).bind fun answer => ?_
    cases answer with
    | none => exact genuine_pure _
    | some redirect => exact genuine_pure _

theorem carryOut_refuse (p : Packet) (owner : Owner) :
    (carryOut p owner .refuse : Dialogue σ Outcome) =
      (if p.isUdp then refuseUdp p owner else pure ()) >>= fun _ => pure (.blocked p.protocol) := by
  rw [ite_bind]
  rfl

theorem handle_eq (maxSessions : Nat) (p : Packet) (openSessions : Nat) :
    (handle maxSessions p openSessions : Dialogue σ Outcome) =
      (if p.isUdp then askSession p else pure false) >>= fun found =>
        if p.opensFlow found && maxSessions ≤ openSessions then
          pure (.dropped (.sessionLimit openSessions maxSessions))
        else
          (if p.opensFlow found then askOwner (.ofPacket p) else pure .notLooked) >>= fun owner =>
            decide p found owner >>= carryOut p owner := by
  simp only [ite_bind]
  rfl

theorem genuine_carryOut (p : Packet) (owner : Owner) (decision : Decision) :
    Genuine (carryOut p owner decision : Dialogue σ Outcome) := by
  cases decision with
  | allow redirect => exact (genuine_forward p owner redirect).bind fun _ => genuine_pure _
  | refuse =>
    rw [carryOut_refuse]
    exact ((genuine_refuseUdp p owner).ite (genuine_pure _)).bind fun _ => genuine_pure _

theorem genuine_handle (maxSessions : Nat) (p : Packet) (openSessions : Nat) :
    Genuine (handle maxSessions p openSessions : Dialogue σ Outcome) := by
  rw [handle_eq]
  refine ((genuine_askSession p).ite (genuine_pure _)).bind fun found => ?_
  refine Genuine.ite (genuine_pure _) ?_
  refine ((genuine_askOwner _).ite (genuine_pure _)).bind fun owner => ?_
  exact (genuine_decide p found owner).bind (genuine_carryOut p owner)

/-- A dispatch keeps account of every call it makes, with the answer it got. -/
theorem genuine_dispatch (engine : Engine) (bytes : Bytes) (openSessions : Nat) :
    Genuine (engine.dispatch bytes openSessions : Dialogue σ (Outcome × Engine)) := by
  refine Genuine.bind ?_ fun outcome => genuine_pure _
  unfold answer
  split
  · exact genuine_pure _
  · exact (genuine_handle _ _ _).ite (genuine_pure _)

/-- The question whether the packet has a session, where it is asked. -/
def sessionCalls (p : Packet) (found : Bool) : List Call :=
  if p.isUdp then [.sessionCheck p found] else []

/-- The call that forwards a packet. -/
def forwardCall (p : Packet) (owner : Owner) (redirect : Option Redirect) : Call :=
  if p.isIcmp then .icmp p owner
  else if p.isUdp then .udp p owner redirect
  else .tcp p owner redirect

/-- The call that ends a refused flow, where there is one. -/
def refusalCalls (p : Packet) (owner : Owner) : List Call :=
  if p.isUdp then [.udpRefusal p owner] else []

/-- The buffer is a packet of a handled protocol, and `found` says whether it has a session. -/
structure Handled (settings : EngineSettings) (bytes : Bytes) (p : Packet) (found : Bool) :
    Prop where
  parses : Packet.ofBytes settings.verifyIPv4Checksum bytes = .ok p
  handled : p.isHandled
  /-- Only UDP has sessions. -/
  session : found → p.isUdp

/-- What a dispatch can come to, with the calls it makes on the way. -/
inductive Course (settings : EngineSettings) (bytes : Bytes) (openSessions : Nat) :
    Outcome → List Call → Prop
  | malformed {e : PacketError}
      (parses : Packet.ofBytes settings.verifyIPv4Checksum bytes = .error e) :
      Course settings bytes openSessions (.dropped (.malformed e)) []
  | unsupported {p : Packet}
      (parses : Packet.ofBytes settings.verifyIPv4Checksum bytes = .ok p)
      (unhandled : p.isHandled = false) :
      Course settings bytes openSessions (.dropped (.unsupportedProtocol p.protocol)) []
  | capped {p : Packet} {found : Bool} (packet : Handled settings bytes p found)
      (opens : p.opensFlow found) (full : settings.maxSessions.toNat ≤ openSessions) :
      Course settings bytes openSessions
        (.dropped (.sessionLimit openSessions settings.maxSessions.toNat)) (sessionCalls p found)
  | established {p : Packet} {found : Bool} (packet : Handled settings bytes p found)
      (old : p.opensFlow found = false) :
      Course settings bytes openSessions (.allowed p.protocol none)
        (sessionCalls p found ++ [forwardCall p .notLooked none])
  | rootDns {p : Packet} {found : Bool} {owner : Owner} (packet : Handled settings bytes p found)
      (opens : p.opensFlow found) (room : openSessions < settings.maxSessions.toNat)
      (exempt : isRootDns p owner) :
      Course settings bytes openSessions (.allowed p.protocol none)
        (sessionCalls p found ++ [.ownerLookup (.ofPacket p) owner, forwardCall p owner none])
  | permitted {p : Packet} {found : Bool} {owner : Owner} {redirect : Redirect}
      (packet : Handled settings bytes p found) (opens : p.opensFlow found)
      (room : openSessions < settings.maxSessions.toNat) (subject : isRootDns p owner = false) :
      Course settings bytes openSessions (.allowed p.protocol redirect.effective?)
        (sessionCalls p found ++ [.ownerLookup (.ofPacket p) owner,
          .addressCheck (.ofPacket p owner) (some redirect),
          forwardCall p owner redirect.effective?])
  | refused {p : Packet} {found : Bool} {owner : Owner} (packet : Handled settings bytes p found)
      (opens : p.opensFlow found) (room : openSessions < settings.maxSessions.toNat)
      (subject : isRootDns p owner = false) :
      Course settings bytes openSessions (.blocked p.protocol)
        (sessionCalls p found ++ ([.ownerLookup (.ofPacket p) owner,
          .addressCheck (.ofPacket p owner) none] ++ refusalCalls p owner))

theorem not_isUdp_of_isTcp {p : Packet} (h : p.isTcp) : p.isUdp = false := by
  simp only [Packet.isTcp, Packet.isUdp, beq_iff_eq] at h ⊢
  rw [h]
  rfl

theorem not_isUdp_of_isIcmp {p : Packet} (h : p.isIcmp) : p.isUdp = false := by
  simp only [Packet.isIcmp, Packet.isUdp, Bool.or_eq_true, beq_iff_eq] at h ⊢
  rcases h with h | h <;> rw [h] <;> rfl

theorem not_isTcp_of_isIcmp {p : Packet} (h : p.isIcmp) : p.isTcp = false := by
  simp only [Packet.isIcmp, Packet.isTcp, Bool.or_eq_true, beq_iff_eq] at h ⊢
  rcases h with h | h <;> rw [h] <;> rfl

/-- The two tests for a flow that was decided about before, the one for the cap and the one for
the policy, agree on every packet of a handled protocol. -/
theorem opensFlow_eq_not_bypass {p : Packet} {found : Bool} (handled : p.isHandled)
    (session : found → p.isUdp) :
    p.opensFlow found = !(found || (p.isTcp && !p.flags.syn)) := by
  unfold Packet.opensFlow Packet.isTcpSyn
  by_cases hi : p.isIcmp
  · have hu := not_isUdp_of_isIcmp hi
    have hf : found = false := by simpa [hu] using session
    simp [hi, hf, not_isTcp_of_isIcmp hi]
  by_cases ht : p.isTcp
  · have hu := not_isUdp_of_isTcp ht
    have hf : found = false := by simpa [hu] using session
    simp [hi, hu, hf, ht]
  · have hu : p.isUdp := by simpa [Packet.isHandled, hi, ht] using handled
    simp [hi, hu, ht]

theorem forward_calls (p : Packet) (owner : Owner) (redirect : Option Redirect)
    (host : Collaborators σ) (s : σ) :
    (forward p owner redirect host s).calls = [forwardCall p owner redirect] := by
  unfold forward forwardCall
  split
  · rfl
  split <;> rfl

theorem carryOut_allow (p : Packet) (owner : Owner) (redirect : Option Redirect)
    (host : Collaborators σ) (s : σ) :
    (carryOut p owner (.allow redirect) host s).value = .allowed p.protocol redirect ∧
      (carryOut p owner (.allow redirect) host s).calls = [forwardCall p owner redirect] := by
  simp [carryOut, forward_calls]

theorem carryOut_refuse_calls (p : Packet) (owner : Owner) (host : Collaborators σ) (s : σ) :
    (carryOut p owner .refuse host s).value = .blocked p.protocol ∧
      (carryOut p owner .refuse host s).calls = refusalCalls p owner := by
  rw [carryOut_refuse]
  unfold refusalCalls
  split <;> exact ⟨rfl, rfl⟩

/-- Past the policy a packet is forwarded as it is. -/
theorem decide_bypass (p : Packet) (found : Bool) (owner : Owner)
    (h : found || (p.isTcp && !p.flags.syn) || isRootDns p owner) (host : Collaborators σ)
    (s : σ) :
    ((decide p found owner >>= carryOut p owner) host s).value = .allowed p.protocol none ∧
      ((decide p found owner >>= carryOut p owner) host s).calls = [forwardCall p owner none] := by
  simp [decide, h, carryOut_allow]

/-- Every other packet is shown to the policy once, and the answer is carried out. -/
theorem decide_policy (p : Packet) (found : Bool) (owner : Owner)
    (h : (found || (p.isTcp && !p.flags.syn) || isRootDns p owner) = false)
    (host : Collaborators σ) (s : σ) :
    (∃ redirect : Redirect,
      ((decide p found owner >>= carryOut p owner) host s).value =
          .allowed p.protocol redirect.effective? ∧
        ((decide p found owner >>= carryOut p owner) host s).calls =
          [.addressCheck (.ofPacket p owner) (some redirect),
            forwardCall p owner redirect.effective?]) ∨
      ((decide p found owner >>= carryOut p owner) host s).value = .blocked p.protocol ∧
        ((decide p found owner >>= carryOut p owner) host s).calls =
          .addressCheck (.ofPacket p owner) none :: refusalCalls p owner := by
  generalize hans : host.allowAddress (.ofPacket p owner) s = asked
  obtain ⟨answer, t⟩ := asked
  cases answer with
  | some redirect =>
    refine .inl ⟨redirect, ?_⟩
    simp [decide, h, askAddress, hans, carryOut_allow]
  | none =>
    refine .inr ?_
    simp [decide, h, askAddress, hans, carryOut_refuse_calls]

/-- Of the packets only UDP datagrams are asked about, and only they can have a session. -/
theorem askSession_course (p : Packet) (host : Collaborators σ) (s : σ) :
    ((if p.isUdp then askSession p else pure false : Dialogue σ Bool) host s).calls =
        sessionCalls p ((if p.isUdp then askSession p else pure false) host s).value ∧
      (((if p.isUdp then askSession p else pure false : Dialogue σ Bool) host s).value →
        p.isUdp) := by
  unfold sessionCalls
  split
  · exact ⟨rfl, fun _ => ‹_›⟩
  · exact ⟨rfl, nofun⟩

/-- What a packet of a handled protocol comes to, once it is known whether it has a session. -/
theorem handle_course {settings : EngineSettings} {bytes : Bytes} {p : Packet}
    (parses : Packet.ofBytes settings.verifyIPv4Checksum bytes = .ok p) (handled : p.isHandled)
    (openSessions : Nat) (host : Collaborators σ) (s : σ) :
    Course settings bytes openSessions
      (handle settings.maxSessions.toNat p openSessions host s).value
      (handle settings.maxSessions.toNat p openSessions host s).calls := by
  rw [handle_eq]
  obtain ⟨hcalls, hsession⟩ := askSession_course p host s
  rw [bind_apply]
  generalize (if p.isUdp then askSession p else pure false : Dialogue σ Bool) host s = asked at *
  obtain ⟨found, t, calls⟩ := asked
  dsimp only at hcalls hsession ⊢
  subst hcalls
  have packet : Handled settings bytes p found := ⟨parses, handled, hsession⟩
  have hbypass := opensFlow_eq_not_bypass handled hsession
  cases opens : p.opensFlow found with
  | false =>
    have hb : (found || (p.isTcp && !p.flags.syn)) = true := by
      rw [← Bool.not_not (found || _), ← hbypass, opens]
      rfl
    obtain ⟨hv, hc⟩ := decide_bypass p found .notLooked (by rw [hb]; rfl) host t
    simp only [Bool.false_and, Bool.false_eq_true, if_false, bind_apply, pure_apply] at hv hc ⊢
    rw [hv, List.nil_append, hc]
    exact .established packet opens
  | true =>
    by_cases full : settings.maxSessions.toNat ≤ openSessions
    · simp only [full, Bool.true_and, decide_true, if_true, pure_apply, List.append_nil]
      exact .capped packet opens full
    have hb : (found || (p.isTcp && !p.flags.syn)) = false := by
      rw [← Bool.not_not (found || _), ← hbypass, opens]
      rfl
    simp only [full, Bool.true_and, decide_false, Bool.false_eq_true, if_false, if_true]
    rw [bind_apply]
    generalize hask : (askOwner (.ofPacket p) : Dialogue σ Owner) host t = asked
    obtain ⟨owner, u, calls⟩ := asked
    have hcalls : calls = [.ownerLookup (.ofPacket p) owner] := by
      rw [askOwner] at hask
      cases hask
      rfl
    subst hcalls
    have room := Nat.lt_of_not_le full
    cases exempt : isRootDns p owner with
    | true =>
      obtain ⟨hv, hc⟩ := decide_bypass p found owner (by rw [exempt, Bool.or_true]) host u
      simp only [hv, hc]
      exact .rootDns packet opens room exempt
    | false =>
      have hp := decide_policy p found owner (by rw [hb, exempt]; rfl) host u
      obtain ⟨redirect, hv, hc⟩ | ⟨hv, hc⟩ := hp
      · simp only [hv, hc]
        exact .permitted packet opens room exempt
      · simp only [hv, hc]
        exact .refused packet opens room exempt

/-- Every dispatch follows one of the courses. -/
theorem dispatch_course (engine : Engine) (bytes : Bytes) (openSessions : Nat)
    (host : Collaborators σ) (s : σ) :
    Course engine.settings bytes openSessions (engine.dispatch bytes openSessions host s).value.1
      (engine.dispatch bytes openSessions host s).calls := by
  simp only [dispatch, bind_apply, pure_apply, List.append_nil]
  cases parses : Packet.ofBytes engine.settings.verifyIPv4Checksum bytes with
  | error e =>
    simp only [answer, parses]
    exact .malformed parses
  | ok p =>
    cases handled : p.isHandled with
    | true =>
      simp only [answer, parses, handled, if_true]
      exact handle_course parses handled openSessions host s
    | false =>
      simp only [answer, parses, handled, Bool.false_eq_true, if_false]
      exact .unsupported parses handled

end Engine

end TunnelFirewall
