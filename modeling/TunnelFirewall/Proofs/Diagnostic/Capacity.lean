import TunnelFirewall.Proofs.Diagnostic.Passage
import TunnelFirewall.Proofs.Diagnostic.Sessions

/-!
# The capacity of the flow table

The engine holds a packet that opens a flow against the cap with the size that the flow table has at
that time, and the table grows by the flow of such a packet alone. So the table never holds more
flows than the cap allows, each of them once.
-/
namespace TunnelFirewall.Diagnostic

theorem nodup_append_singleton {α : Type} {l : List α} {a : α} (h : l.Nodup) (fresh : a ∉ l) :
    (l ++ [a]).Nodup := by
  rw [List.nodup_append]
  refine ⟨h, by simp, ?_⟩
  intro b hb c hc
  rw [List.mem_singleton.1 hc]
  exact ne_of_mem_of_not_mem hb fresh

namespace Flows

/-- No flow is listed twice. -/
structure Distinct (flows : Flows) : Prop where
  udp : flows.udp.Nodup
  tcp : (flows.tcp.map Prod.fst).Nodup

variable {flows : Flows} {key : FlowKey} {session : Tls.Session}

theorem size_insertUdp (key : FlowKey) (flows : Flows) :
    (flows.insertUdp key).size = flows.size + if flows.hasUdp key then 0 else 1 := by
  unfold insertUdp
  split
  · rfl
  · simp only [size, List.length_append, List.length_singleton]
    omega

theorem size_eraseTcp_le (key : FlowKey) (flows : Flows) :
    (flows.eraseTcp key).size ≤ flows.size := by
  have hfilter := List.length_filter_le (fun entry => entry.1 != key) flows.tcp
  simp only [size, eraseTcp]
  omega

theorem size_setSession (key : FlowKey) (session : Tls.Session) (flows : Flows) :
    (flows.setSession key session).size = flows.size := by
  simp [size, setSession]

theorem size_insertTcp_le (key : FlowKey) (session : Tls.Session) (flows : Flows) :
    (flows.insertTcp key session).size ≤ flows.size + 1 := by
  unfold insertTcp
  split
  · rw [size_setSession]
    omega
  · simp only [size, List.length_append, List.length_singleton]
    omega

theorem size_followTcp_le (p : Packet) (owner : Owner) (flows : Flows) :
    (flows.followTcp p owner).size ≤ flows.size + if p.isTcpSyn then 1 else 0 := by
  unfold followTcp
  dsimp only
  split
  · exact size_insertTcp_le _ _ flows
  split
  · exact size_eraseTcp_le _ flows
  · exact Nat.le_refl _

/-- Only a packet that opens a flow makes the table grow. -/
theorem size_forwarded_le (p : Packet) (owner : Owner) (flows : Flows) :
    (flows.forwarded p owner).size ≤ flows.size + if p.opensFlow (flows.knows p) then 1 else 0 := by
  unfold forwarded
  split
  · omega
  split
  case isTrue udp =>
    rw [size_insertUdp]
    cases known : flows.hasUdp (.ofPacket p) with
    | true => simp
    | false => simp [Packet.opensFlow, knows, udp, known]
  case isFalse =>
    have hfollow := size_followTcp_le p owner flows
    by_cases syn : p.isTcpSyn
    · simpa [Packet.opensFlow, syn] using hfollow
    · simp only [syn, Bool.false_eq_true, if_false] at hfollow
      omega

theorem map_fst_setSession (key : FlowKey) (session : Tls.Session) (flows : Flows) :
    (flows.setSession key session).tcp.map Prod.fst = flows.tcp.map Prod.fst := by
  simp only [setSession, List.map_map, List.map_inj_left, Function.comp_apply]
  intro entry _
  split
  case isTrue here => exact here.symm
  case isFalse => rfl

theorem Distinct.insertUdp (h : flows.Distinct) : (flows.insertUdp key).Distinct := by
  unfold Flows.insertUdp
  split
  · exact h
  case isFalse fresh =>
    have hfresh : key ∉ flows.udp := by simpa [hasUdp] using fresh
    exact ⟨nodup_append_singleton h.udp hfresh, h.tcp⟩

theorem Distinct.eraseTcp (h : flows.Distinct) : (flows.eraseTcp key).Distinct :=
  ⟨h.udp, ((List.filter_sublist).map Prod.fst).nodup h.tcp⟩

theorem Distinct.setSession (h : flows.Distinct) : (flows.setSession key session).Distinct :=
  ⟨h.udp, by rw [map_fst_setSession]; exact h.tcp⟩

theorem Distinct.insertTcp (h : flows.Distinct) : (flows.insertTcp key session).Distinct := by
  unfold Flows.insertTcp
  split
  · exact h.setSession
  case isFalse fresh =>
    have hfresh : key ∉ flows.tcp.map Prod.fst := by simpa [session?] using fresh
    refine ⟨h.udp, ?_⟩
    rw [List.map_append, List.map_singleton]
    exact nodup_append_singleton h.tcp hfresh

theorem Distinct.forwarded (h : flows.Distinct) (p : Packet) (owner : Owner) :
    (flows.forwarded p owner).Distinct := by
  unfold Flows.forwarded
  split
  · exact h
  split
  · exact h.insertUdp
  unfold followTcp
  dsimp only
  split
  · exact h.insertTcp
  split
  · exact h.eraseTcp
  · exact h

end Flows

variable [HexDecoder]

/-- A look at a payload changes the session of a flow at most, or ends it. -/
theorem inspect_flows (around : Surroundings) (bytes : Bytes) (state : State) :
    let after := (state.inspect around bytes).2.desk.flows
    after = state.desk.flows ∨ ∃ key, after = state.desk.flows.eraseTcp key ∨
      ∃ session, after = state.desk.flows.setSession key session := by
  unfold State.inspect
  split
  · exact .inl rfl
  dsimp only
  split
  · exact .inl rfl
  · exact .inl rfl
  · simp only [Engine.inspectTls_eq, inspectPayload_state]
    split
    · exact .inr ⟨_, .inl rfl⟩
    · exact .inr ⟨_, .inr ⟨_, rfl⟩⟩

theorem size_inspect_le (around : Surroundings) (bytes : Bytes) (state : State) :
    (state.inspect around bytes).2.desk.flows.size ≤ state.desk.flows.size := by
  rcases inspect_flows around bytes state with hsame | ⟨key, hend | ⟨session, hset⟩⟩
  · exact Nat.le_of_eq (congrArg Flows.size hsame)
  · rw [hend]
    exact Flows.size_eraseTcp_le key _
  · rw [hset]
    exact Nat.le_of_eq (Flows.size_setSession key session _)

theorem distinct_inspect (around : Surroundings) (bytes : Bytes) (state : State)
    (h : state.desk.flows.Distinct) : (state.inspect around bytes).2.desk.flows.Distinct := by
  rcases inspect_flows around bytes state with hsame | ⟨key, hend | ⟨session, hset⟩⟩
  · rwa [hsame]
  · rw [hend]
    exact h.eraseTcp
  · rw [hset]
    exact h.setSession

namespace State

/-- The flows between the dispatch of a packet and the look at its payload. -/
def dispatched (around : Surroundings) (bytes : Bytes) (state : State) : Flows :=
  (state.engine.dispatch bytes state.desk.flows.size (collaborators state.blocked around)
    state.desk).state.flows

variable {around : Surroundings} {bytes : Bytes} {state : State}

/-- A dispatch leaves the flows as they are, or opens the flow of a packet for which there is
room. -/
theorem dispatched_cases (around : Surroundings) (bytes : Bytes) (state : State) :
    (state.dispatched around bytes).size ≤ state.desk.flows.size ∨
      (state.dispatched around bytes).size = state.desk.flows.size + 1 ∧
        state.desk.flows.size < state.engine.settings.maxSessions.toNat ∧
        (state.take around bytes).1.outcome.isAllowed ∧
        ∃ p, Packet.ofBytes state.engine.settings.verifyIPv4Checksum bytes = .ok p ∧
          p.IsNewFlow (collaborators state.blocked around) state.desk := by
  have hdispatch := dispatch_passage state.engine bytes state.blocked around state.desk
  rw [outcome_take]
  unfold dispatched
  cases admitted : state.desk.flows.passage state.engine.settings bytes with
  | error reason =>
    rw [admitted] at hdispatch
    rw [hdispatch.2]
    exact .inl (Nat.le_refl _)
  | ok p =>
    rw [admitted] at hdispatch
    obtain ⟨houtcome, owner, hflows⟩ := hdispatch
    obtain ⟨parses, -, room⟩ := Flows.passage_eq_ok_iff.1 admitted
    have hsize := Flows.size_forwarded_le p owner state.desk.flows
    rw [hflows]
    by_cases opens : p.opensFlow (state.desk.flows.knows p)
    -- The cap was held against the size that the flows have now, so one more fits.
    · rcases Nat.lt_or_ge state.desk.flows.size (state.desk.flows.forwarded p owner).size with
        grows | stays
      · rw [if_pos opens] at hsize
        refine .inr ⟨by omega, room opens, ?_, p, parses, isNewFlow_iff_opensFlow.2 opens⟩
        rw [houtcome]
        rfl
      · exact .inl stays
    · rw [if_neg opens] at hsize
      exact .inl hsize

theorem distinct_dispatched (h : state.desk.flows.Distinct) :
    (state.dispatched around bytes).Distinct := by
  have hdispatch := dispatch_passage state.engine bytes state.blocked around state.desk
  unfold dispatched
  cases admitted : state.desk.flows.passage state.engine.settings bytes with
  | error reason =>
    rw [admitted] at hdispatch
    rwa [hdispatch.2]
  | ok p =>
    rw [admitted] at hdispatch
    obtain ⟨-, owner, hflows⟩ := hdispatch
    rw [hflows]
    exact h.forwarded p owner

theorem size_take_le (around : Surroundings) (bytes : Bytes) (state : State) :
    (state.take around bytes).2.desk.flows.size ≤ (state.dispatched around bytes).size := by
  unfold take dispatched
  dsimp only
  split
  · exact size_inspect_le around bytes _
  · exact Nat.le_refl _

theorem distinct_take (h : state.desk.flows.Distinct) :
    (state.take around bytes).2.desk.flows.Distinct := by
  have hdispatched : (state.dispatched around bytes).Distinct := distinct_dispatched h
  unfold take
  dsimp only
  split
  · exact distinct_inspect around bytes _ hdispatched
  · exact hdispatched

end State

namespace Journal

/-- The flow table of a journal of this configuration is within its capacity. -/
structure Bounded (config : Config) (blocked : List String) (j : Journal) : Prop where
  settings : j.state.engine.settings = config.engine
  blocked : j.state.blocked = blocked
  distinct : j.state.desk.flows.Distinct
  within : j.state.desk.flows.size ≤ config.engine.maxSessions.toNat

variable {config : Config} {blocked : List String} {j : Journal}

theorem Bounded.dispatched_le (h : j.Bounded config blocked) (packet : Bytes × Surroundings) :
    (j.state.dispatched packet.2 packet.1).size ≤ config.engine.maxSessions.toNat := by
  have hwithin := h.within
  rcases j.state.dispatched_cases packet.2 packet.1 with hle | ⟨hsize, room, -⟩
  · omega
  · rw [h.settings] at room
    omega

theorem bounded_step (j : Journal) (packet : Bytes × Surroundings)
    (h : j.Bounded config blocked) : (j.step packet).Bounded config blocked where
  settings := (settings_take packet.2 packet.1 j.state).1.trans h.settings
  blocked := (settings_take packet.2 packet.1 j.state).2.trans h.blocked
  distinct := State.distinct_take h.distinct
  within := Nat.le_trans (j.state.size_take_le packet.2 packet.1) (h.dispatched_le packet)

omit [HexDecoder] in
theorem bounded_start (config : Config) (blocked : List String) :
    Bounded config blocked ⟨State.start config blocked, []⟩ where
  settings := rfl
  blocked := rfl
  distinct := ⟨List.nodup_nil, List.nodup_nil⟩
  within := Nat.zero_le _

theorem bounded_ofInput (config : Config) (blocked : List String)
    (input : List (Option String × Surroundings)) :
    (ofInput config blocked input).Bounded config blocked :=
  run_preserves bounded_step (bounded_start config blocked) _

end Journal

/-- The flow table keeps within the session cap. Whatever input has been read, no flow is listed
twice and there are at most as many as the cap allows. With the next packet, after its dispatch as
well as after the look at its payload, the same holds, there is at most one flow more, and there is
one more only if the packet was allowed as one that opens a flow. -/
theorem flows_within_cap (config : Config) (blocked : List String)
    (input : List (Option String × Surroundings)) :
    let j := Journal.ofInput config blocked input
    j.state.desk.flows.Distinct ∧
      j.state.desk.flows.size ≤ config.engine.maxSessions.toNat ∧
      ∀ packet : Bytes × Surroundings,
        ∀ flows ∈ [j.state.dispatched packet.2 packet.1, (j.step packet).state.desk.flows],
          flows.Distinct ∧ flows.size ≤ config.engine.maxSessions.toNat ∧
            flows.size ≤ j.state.desk.flows.size + 1 ∧
            (j.state.desk.flows.size < flows.size →
              (j.entry packet).report.outcome.isAllowed ∧
              ∃ p, Packet.ofBytes config.engine.verifyIPv4Checksum packet.1 = .ok p ∧
                p.IsNewFlow (collaborators blocked packet.2) j.state.desk) := by
  intro j
  have hbounded : j.Bounded config blocked := Journal.bounded_ofInput config blocked input
  refine ⟨hbounded.distinct, hbounded.within, fun packet flows hmem => ?_⟩
  have hcap := hbounded.dispatched_le packet
  have hgrowth := j.state.dispatched_cases packet.2 packet.1
  rw [hbounded.settings, hbounded.blocked] at hgrowth
  simp only [List.mem_cons, List.not_mem_nil, or_false] at hmem
  have hsize : flows.size ≤ (j.state.dispatched packet.2 packet.1).size := by
    rcases hmem with rfl | rfl
    · exact Nat.le_refl _
    · exact j.state.size_take_le packet.2 packet.1
  have hdistinct : flows.Distinct := by
    rcases hmem with rfl | rfl
    · exact State.distinct_dispatched hbounded.distinct
    · exact State.distinct_take hbounded.distinct
  refine ⟨hdistinct, by omega, ?_, fun hgrows => ?_⟩
  · rcases hgrowth with hle | ⟨hone, -⟩ <;> omega
  · rcases hgrowth with hle | ⟨-, -, hallowed⟩
    · omega
    · exact hallowed

end TunnelFirewall.Diagnostic
