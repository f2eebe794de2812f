import TunnelFirewall.Proofs.Diagnostic.Domain
import TunnelFirewall.Proofs.Diagnostic.Passage

/-!
# What the reports depend on

The connection tables, the cache and the time of a packet can only tell who owns a flow. Owners are
kept in the sessions of connections and never looked at again. So packets that are taken in states
which differ by their owners alone get the same reports, and leave states which differ by no more.
-/
namespace TunnelFirewall

/-- The session of nobody in particular. -/
def Tls.Session.anonymous (session : Tls.Session) : Tls.Session :=
  { session with owner := .notLooked }

theorem Tls.Session.hostname_eq_of_anonymous {s t : Tls.Session} (h : s.anonymous = t.anonymous) :
    s.hostname = t.hostname := by
  have hname : s.anonymous.hostname = t.anonymous.hostname := by rw [h]
  exact hname

namespace Diagnostic

namespace Flows

/-- The flows without the owners of their sessions. -/
def anonymous (flows : Flows) : Flows :=
  { flows with tcp := flows.tcp.map fun entry => (entry.1, entry.2.anonymous) }

variable (key : FlowKey) (session : Tls.Session) (p : Packet) (owner : Owner) (flows : Flows)

theorem size_anonymous : flows.anonymous.size = flows.size := by
  simp [size, anonymous]

theorem session?_anonymous :
    flows.anonymous.session? key = (flows.session? key).map Tls.Session.anonymous := by
  simp [session?, anonymous, List.find?_map, Function.comp_def]

theorem anonymous_insertUdp : (flows.insertUdp key).anonymous = flows.anonymous.insertUdp key := by
  unfold insertUdp
  have hknown : flows.anonymous.hasUdp key = flows.hasUdp key := rfl
  rw [hknown]
  split
  · rfl
  · rfl

theorem anonymous_eraseTcp : (flows.eraseTcp key).anonymous = flows.anonymous.eraseTcp key := by
  simp [eraseTcp, anonymous, List.filter_map, Function.comp_def]

theorem anonymous_setSession :
    (flows.setSession key session).anonymous =
      flows.anonymous.setSession key session.anonymous := by
  simp only [setSession, anonymous, List.map_map, mk.injEq, List.map_inj_left, true_and,
    Function.comp_apply]
  intro entry _
  split
  · rfl
  · rfl

theorem anonymous_insertTcp :
    (flows.insertTcp key session).anonymous = flows.anonymous.insertTcp key session.anonymous := by
  unfold insertTcp
  rw [session?_anonymous, Option.isSome_map]
  split
  · exact anonymous_setSession key session flows
  · simp [anonymous]

theorem anonymous_followTcp :
    (flows.followTcp p owner).anonymous = flows.anonymous.followTcp p .notLooked := by
  unfold followTcp
  dsimp only
  split
  · exact anonymous_insertTcp _ _ flows
  split
  · exact anonymous_eraseTcp _ flows
  · rfl

theorem anonymous_forwarded :
    (flows.forwarded p owner).anonymous = flows.anonymous.forwarded p .notLooked := by
  unfold forwarded
  split
  · rfl
  split
  · exact anonymous_insertUdp _ flows
  · exact anonymous_followTcp p owner flows

theorem passage_anonymous (settings : EngineSettings) (bytes : Bytes) :
    flows.anonymous.passage settings bytes = flows.passage settings bytes := by
  have hknows (p : Packet) : flows.anonymous.knows p = flows.knows p := rfl
  simp only [passage, hknows, size_anonymous]

end Flows

variable [HexDecoder]

/-- A dispatch does what the packet and the flows say, whoever owns them. -/
theorem dispatch_anonymous (engine : Engine) (bytes : Bytes) (blocked : List String)
    (around : Surroundings) (desk : Desk) :
    let x := engine.dispatch bytes desk.flows.size (collaborators blocked around) desk
    match desk.flows.anonymous.passage engine.settings bytes with
    | .error reason => x.value.1 = .dropped reason ∧
        x.state.flows.anonymous = desk.flows.anonymous
    | .ok p => x.value.1 = .allowed p.protocol none ∧
        x.state.flows.anonymous = desk.flows.anonymous.forwarded p .notLooked := by
  intro x
  have hdispatch := dispatch_passage engine bytes blocked around desk
  rw [Flows.passage_anonymous]
  cases admitted : desk.flows.passage engine.settings bytes with
  | error reason =>
    rw [admitted] at hdispatch
    exact ⟨hdispatch.1, by rw [hdispatch.2]⟩
  | ok p =>
    rw [admitted] at hdispatch
    obtain ⟨hvalue, owner, hflows⟩ := hdispatch
    exact ⟨hvalue, by rw [hflows, Flows.anonymous_forwarded]⟩

/-- Of a session a look takes the server name alone. -/
theorem inspectPayload_anonymous {blocked blocked' : List String} {session session' : Tls.Session}
    (hblocked : ∀ name, isDomainBlocked blocked name = isDomainBlocked blocked' name)
    (hsession : session.anonymous = session'.anonymous) (payload : Bytes)
    (around around' : Surroundings) (desk desk' : Desk) :
    let x := Engine.inspectPayload payload session (collaborators blocked around) desk
    let y := Engine.inspectPayload payload session' (collaborators blocked' around') desk'
    x.value.1 = y.value.1 ∧ x.value.2.anonymous = y.value.2.anonymous := by
  have hname := Tls.Session.hostname_eq_of_anonymous hsession
  unfold Engine.inspectPayload
  rw [hname]
  cases Tls.inspect payload session'.hostname with
  | hostname name =>
    by_cases taken : session'.hostname = none ∧ name ≠ ""
    · simp [Tls.Session.record, hname, taken, Tls.Session.anonymous]
    · simp [Tls.Session.record, hname, taken, hsession]
  | readyToDecide =>
    cases session'.hostname with
    | none => exact ⟨rfl, hsession⟩
    | some name =>
      have hanswer : (if isDomainBlocked blocked name then Tls.Verdict.block else .allow) =
          if isDomainBlocked blocked' name then .block else .allow := by rw [hblocked]
      exact ⟨hanswer, hsession⟩
  | _ => exact ⟨rfl, hsession⟩

namespace State

/-- The states have the same settings, block the same names, and differ in their flows by the owners
alone. -/
structure Alike (s t : State) : Prop where
  settings : s.engine.settings = t.engine.settings
  blocked : ∀ name, isDomainBlocked s.blocked name = isDomainBlocked t.blocked name
  flows : s.desk.flows.anonymous = t.desk.flows.anonymous

variable {s t : State}

theorem dispatch_alike (h : s.Alike t) (bytes : Bytes) (around around' : Surroundings) :
    let x := s.engine.dispatch bytes s.desk.flows.size (collaborators s.blocked around) s.desk
    let y := t.engine.dispatch bytes t.desk.flows.size (collaborators t.blocked around') t.desk
    x.value.1 = y.value.1 ∧ x.state.flows.anonymous = y.state.flows.anonymous := by
  have hs := dispatch_anonymous s.engine bytes s.blocked around s.desk
  have ht := dispatch_anonymous t.engine bytes t.blocked around' t.desk
  rw [h.settings, h.flows] at hs
  cases admitted : t.desk.flows.anonymous.passage t.engine.settings bytes with
  | error reason =>
    rw [admitted] at hs ht
    exact ⟨hs.1.trans ht.1.symm, hs.2.trans ht.2.symm⟩
  | ok p =>
    rw [admitted] at hs ht
    exact ⟨hs.1.trans ht.1.symm, hs.2.trans ht.2.symm⟩

theorem inspect_alike (h : s.Alike t) (bytes : Bytes) (around around' : Surroundings) :
    (s.inspect around bytes).1 = (t.inspect around' bytes).1 ∧
      (s.inspect around bytes).2.Alike (t.inspect around' bytes).2 := by
  unfold inspect
  rw [h.settings]
  cases Packet.ofBytes t.engine.settings.verifyIPv4Checksum bytes with
  | error e => exact ⟨rfl, h⟩
  | ok p =>
    -- Both states have a session for the flow or neither has, and the names in them agree.
    have hsession : (s.desk.flows.session? (.ofPacket p)).map Tls.Session.anonymous =
        (t.desk.flows.session? (.ofPacket p)).map Tls.Session.anonymous := by
      rw [← Flows.session?_anonymous, h.flows, Flows.session?_anonymous]
    dsimp only
    cases p.tcpPayload with
    | nil => exact ⟨rfl, h⟩
    | cons byte rest =>
      cases hs : s.desk.flows.session? (.ofPacket p) with
      | none =>
        rw [hs, Option.map_none, eq_comm, Option.map_eq_none_iff] at hsession
        rw [hsession]
        exact ⟨rfl, h⟩
      | some session =>
        rw [hs, Option.map_some, eq_comm, Option.map_eq_some_iff] at hsession
        obtain ⟨session', ht, hsame⟩ := hsession
        rw [ht]
        obtain ⟨hverdict, hafter⟩ := inspectPayload_anonymous h.blocked hsame.symm (byte :: rest)
          around around' s.desk t.desk
        simp only [Engine.inspectTls_eq, inspectPayload_state, hverdict, true_and]
        refine ⟨h.settings, h.blocked, ?_⟩
        dsimp only
        split
        · rw [Flows.anonymous_eraseTcp, Flows.anonymous_eraseTcp, h.flows]
        · rw [Flows.anonymous_setSession, Flows.anonymous_setSession, h.flows, hafter]

/-- Alike states give a packet the same report, and stay alike. -/
theorem take_alike (h : s.Alike t) (bytes : Bytes) (around around' : Surroundings) :
    (s.take around bytes).1 = (t.take around' bytes).1 ∧
      (s.take around bytes).2.Alike (t.take around' bytes).2 := by
  obtain ⟨hvalue, hflows⟩ := dispatch_alike h bytes around around'
  unfold take
  dsimp only at hvalue ⊢
  rw [hvalue]
  split
  · simp only [Report.mk.injEq, true_and]
    apply inspect_alike
    exact ⟨h.settings, h.blocked, hflows⟩
  · exact ⟨rfl, h.settings, h.blocked, hflows⟩

end State

end Diagnostic

end TunnelFirewall
