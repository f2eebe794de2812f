import TunnelFirewall.Proofs.Diagnostic.Journal
import TunnelFirewall.Proofs.Engine.Mediation

/-!
# Sessions of the flow table

What a packet does to the session of a flow. Only a TCP segment of this flow that is allowed does
anything: first its flags open or close the session, and then, if one is open, the look at its
payload may give the session a name, or end it.
-/
namespace TunnelFirewall.Diagnostic

/-- The session of a flow after the flags of a packet of this flow. -/
def followed (p : Packet) (owner : Owner) (before : Option Tls.Session) : Option Tls.Session :=
  if p.isTcpSyn then some { owner } else if p.flags.fin || p.flags.rst then none else before

namespace Flows

variable {flows : Flows} {key other : FlowKey} {session : Tls.Session}

theorem session?_congr {flows' : Flows} (h : flows.tcp = flows'.tcp) (key : FlowKey) :
    flows.session? key = flows'.session? key := by
  rw [session?, session?, h]

theorem session?_cons (key : FlowKey) (udp : List FlowKey) (entry : FlowKey × Tls.Session)
    (rest : List (FlowKey × Tls.Session)) :
    session? key ⟨udp, entry :: rest⟩ =
      if entry.1 = key then some entry.2 else session? key ⟨udp, rest⟩ := by
  unfold session?
  by_cases h : entry.1 = key
  · simp [h]
  · simp [h]

theorem session?_eraseTcp (key other : FlowKey) (flows : Flows) :
    (flows.eraseTcp key).session? other = if key = other then none else flows.session? other := by
  obtain ⟨udp, tcp⟩ := flows
  induction tcp with
  | nil => simp [eraseTcp, session?]
  | cons entry rest ih =>
    unfold eraseTcp at ih ⊢
    by_cases hentry : entry.1 = key
    · have hdrop : (entry :: rest).filter (fun entry => entry.1 != key) =
          rest.filter fun entry => entry.1 != key := by simp [hentry]
      rw [hdrop, ih, session?_cons]
      by_cases hkey : key = other
      · rw [if_pos hkey, if_pos hkey]
      · rw [if_neg hkey, if_neg hkey, if_neg (hentry ▸ hkey)]
    · have hkeep : (entry :: rest).filter (fun entry => entry.1 != key) =
          entry :: rest.filter fun entry => entry.1 != key := by simp [hentry]
      rw [hkeep, session?_cons, ih, session?_cons]
      by_cases hother : entry.1 = other
      · rw [if_pos hother, if_pos hother, if_neg fun h => hentry (hother.trans h.symm)]
      · rw [if_neg hother, if_neg hother]

theorem session?_setSession (key other : FlowKey) (session : Tls.Session) (flows : Flows) :
    (flows.setSession key session).session? other =
      if key = other then (flows.session? other).map fun _ => session
      else flows.session? other := by
  obtain ⟨udp, tcp⟩ := flows
  induction tcp with
  | nil => simp [setSession, session?]
  | cons entry rest ih =>
    unfold setSession at ih ⊢
    rw [List.map_cons, session?_cons, session?_cons, ih]
    by_cases hentry : entry.1 = key
    · by_cases hkey : key = other
      · simp [hentry, hkey]
      · simp [hentry, hkey]
    · by_cases hkey : key = other
      · simp [hkey, hkey ▸ hentry]
      · simp [hentry, hkey]

theorem session?_insertTcp (key other : FlowKey) (session : Tls.Session) (flows : Flows) :
    (flows.insertTcp key session).session? other =
      if key = other then some session else flows.session? other := by
  unfold insertTcp
  split
  case isTrue hopen =>
    rw [session?_setSession]
    by_cases hkey : key = other
    · obtain ⟨old, hold⟩ := Option.isSome_iff_exists.1 hopen
      rw [if_pos hkey, if_pos hkey, ← hkey, hold, Option.map_some]
    · rw [if_neg hkey, if_neg hkey]
  case isFalse hclosed =>
    have hnone : flows.session? key = none := by simpa using hclosed
    by_cases hkey : key = other
    · subst hkey
      rw [session?, Option.map_eq_none_iff] at hnone
      simp [session?, List.find?_append, hnone]
    · simp [session?, List.find?_append, hkey]

theorem session?_followTcp (p : Packet) (owner : Owner) (key : FlowKey) (flows : Flows) :
    (flows.followTcp p owner).session? key =
      if FlowKey.ofPacket p = key then followed p owner (flows.session? key)
      else flows.session? key := by
  unfold followTcp followed
  by_cases hsyn : p.isTcpSyn
  · simp only [hsyn, if_true, session?_insertTcp]
  by_cases hend : p.flags.fin || p.flags.rst
  · simp only [hsyn, hend, if_true, if_false, session?_eraseTcp, Bool.false_eq_true]
  · simp only [hsyn, hend, if_false, ite_self, Bool.false_eq_true]

/-- The flows after a look at the payload of a connection that is open. -/
theorem session?_afterLook (h : flows.session? key = some session) (verdict : Tls.Verdict)
    (session' : Tls.Session) (other : FlowKey) :
    (if verdict.isBlock then flows.eraseTcp key else flows.setSession key session').session? other =
      if key = other then if verdict.isBlock then none else some session'
      else flows.session? other := by
  split
  · rw [session?_eraseTcp]
  · rw [session?_setSession]
    by_cases hkey : key = other
    · rw [if_pos hkey, if_pos hkey, ← hkey, h, Option.map_some]
    · rw [if_neg hkey, if_neg hkey]

theorem tcp_insertUdp (key : FlowKey) (flows : Flows) : (flows.insertUdp key).tcp = flows.tcp := by
  unfold insertUdp
  split
  · rfl
  · rfl

end Flows

section Dispatch

variable [HexDecoder] {blocked : List String} {around : Surroundings} {s t : Desk}

/-- The session of a flow after a call of the engine. -/
def sessionAfter (key : FlowKey) (before : Option Tls.Session) : Call → Option Tls.Session
  | .tcp p owner _ => if FlowKey.ofPacket p = key then followed p owner before else before
  | _ => before

theorem session?_of_happens {call : Call} (h : call.Happens (collaborators blocked around) s t)
    (key : FlowKey) :
    t.flows.session? key = sessionAfter key (s.flows.session? key) call := by
  cases call with
  | sessionCheck p found => cases h; rfl
  | ownerLookup query owner => cases h; rfl
  | addressCheck record redirect => cases h; rfl
  | domainCheck hostname owner answer => cases h; rfl
  | icmp p owner => cases h; rfl
  | udp p owner redirect =>
    cases h
    exact Flows.session?_congr (Flows.tcp_insertUdp _ _) key
  | tcp p owner redirect =>
    cases h
    exact Flows.session?_followTcp p owner key s.flows
  | udpRefusal p owner => cases h; rfl
  | ownerReset => cases h; rfl

theorem session?_of_replays {calls : List Call}
    (h : (collaborators blocked around).Replays s calls t) (key : FlowKey) :
    t.flows.session? key = calls.foldl (sessionAfter key) (s.flows.session? key) := by
  induction h with
  | nil s => rfl
  | cons happens _ ih => rw [ih, session?_of_happens happens, List.foldl_cons]

variable {settings : EngineSettings} {bytes : Bytes} {openSessions : Nat} {outcome : Outcome}
  {calls : List Call} {p : Packet} {found : Bool} {key : FlowKey}

omit [HexDecoder] in
theorem foldl_sessionCalls (p : Packet) (found : Bool) (before : Option Tls.Session) :
    (Engine.sessionCalls p found).foldl (sessionAfter key) before = before := by
  unfold Engine.sessionCalls
  split
  · rfl
  · rfl

omit [HexDecoder] in
theorem foldl_refusalCalls (p : Packet) (owner : Owner) (before : Option Tls.Session) :
    (Engine.refusalCalls p owner).foldl (sessionAfter key) before = before := by
  unfold Engine.refusalCalls
  split
  · rfl
  · rfl

omit [HexDecoder] in
theorem sessionAfter_forwardCall (handled : p.isHandled) (owner : Owner)
    (redirect : Option Redirect) (before : Option Tls.Session) :
    sessionAfter key before (Engine.forwardCall p owner redirect) =
      if p.isTcp ∧ FlowKey.ofPacket p = key then followed p owner before else before := by
  unfold Engine.forwardCall
  by_cases icmp : p.isIcmp
  · simp [icmp, sessionAfter, Engine.not_isTcp_of_isIcmp icmp]
  by_cases udp : p.isUdp
  · have tcp : ¬p.isTcp := fun tcp => by simp [Engine.not_isUdp_of_isTcp tcp] at udp
    simp [icmp, udp, sessionAfter, tcp]
  · have tcp : p.isTcp := by simpa [Packet.isHandled, icmp, udp] using handled
    simp [icmp, udp, sessionAfter, tcp]

/-- An allowed packet has acted on the session of its flow by its flags, any other on none. -/
theorem session?_of_course (h : Engine.Course settings bytes openSessions outcome calls)
    (replays : (collaborators blocked around).Replays s calls t) (key : FlowKey) :
    (outcome.isAllowed = false ∧ t.flows.session? key = s.flows.session? key) ∨
      outcome.isAllowed ∧ ∃ p owner, Packet.ofBytes settings.verifyIPv4Checksum bytes = .ok p ∧
        t.flows.session? key =
          if p.isTcp ∧ FlowKey.ofPacket p = key then followed p owner (s.flows.session? key)
          else s.flows.session? key := by
  rw [session?_of_replays replays key]
  cases h with
  | malformed parses => exact .inl ⟨rfl, rfl⟩
  | unsupported parses unhandled => exact .inl ⟨rfl, rfl⟩
  | capped packet opens full => exact .inl ⟨rfl, foldl_sessionCalls _ _ _⟩
  | @established p found packet old =>
    refine .inr ⟨rfl, p, .notLooked, packet.parses, ?_⟩
    rw [List.foldl_append, foldl_sessionCalls, List.foldl_cons, List.foldl_nil,
      sessionAfter_forwardCall packet.handled]
  | @rootDns p found owner packet opens room exempt =>
    refine .inr ⟨rfl, p, owner, packet.parses, ?_⟩
    rw [List.foldl_append, foldl_sessionCalls, List.foldl_cons, List.foldl_cons, List.foldl_nil,
      sessionAfter_forwardCall packet.handled]
    rfl
  | @permitted p found owner redirect packet opens room subject =>
    refine .inr ⟨rfl, p, owner, packet.parses, ?_⟩
    rw [List.foldl_append, foldl_sessionCalls, List.foldl_cons, List.foldl_cons, List.foldl_cons,
      List.foldl_nil, sessionAfter_forwardCall packet.handled]
    rfl
  | refused packet opens room subject =>
    refine .inl ⟨rfl, ?_⟩
    rw [List.foldl_append, foldl_sessionCalls, List.foldl_append, foldl_refusalCalls]
    rfl

end Dispatch

/-- What a look at a payload makes of a session, by the list of blocked domains. -/
inductive Sight (blocked : List String) (payload : Bytes) (session : Tls.Session) :
    Tls.Verdict → Tls.Session → Prop
  | captures {name : String} (unnamed : session.hostname = none)
      (names : Tls.Names payload name) :
      Sight blocked payload session (.captured name) { session with hostname := some name }
  | blocks {name : String} (known : session.hostname = some name)
      (data : Tls.IsApplicationData payload) (listed : isDomainBlocked blocked name) :
      Sight blocked payload session .block session
  | passes (nameless : session.hostname = none → Tls.Nameless payload)
      (unlisted : ∀ name, session.hostname = some name → name ≠ "" →
        Tls.IsApplicationData payload → isDomainBlocked blocked name = false) :
      Sight blocked payload session .allow session

section Inspection

variable [HexDecoder] {blocked : List String} {around : Surroundings} {s t : Desk} {payload : Bytes}
  {session session' : Tls.Session} {verdict : Tls.Verdict} {calls : List Call}

theorem sight_of_inspection (h : Engine.Inspection payload session verdict session' calls)
    (replays : (collaborators blocked around).Replays s calls t) :
    Sight blocked payload session verdict session' := by
  cases h with
  | captures unnamed names => exact .captures unnamed names
  | @checks name answer known data =>
    cases replays with
    | cons happens _ =>
      have hanswer : (isDomainBlocked blocked name, s) = (answer, _) := happens
      obtain ⟨rfl, -⟩ := Prod.mk.inj hanswer
      cases listed : isDomainBlocked blocked name with
      | true => exact .blocks known data listed
      | false =>
        refine .passes (fun unnamed => ?_) fun other hother _ _ => ?_
        · cases known.symm.trans unnamed
        · rwa [← Option.some.inj (known.symm.trans hother)]
  | passes nameless other =>
    exact .passes nameless fun name known nonempty data => absurd data (other name known nonempty)

theorem flows_of_inspection (h : Engine.Inspection payload session verdict session' calls)
    (replays : (collaborators blocked around).Replays s calls t) (key : FlowKey) :
    t.flows.session? key = s.flows.session? key := by
  rw [session?_of_replays replays key]
  cases h with
  | captures unnamed names => rfl
  | checks known data => rfl
  | passes nameless other => rfl

omit [HexDecoder] in
theorem isTcp_of_tcpPayload {p : Packet} (h : p.tcpPayload ≠ []) : p.isTcp := by
  unfold Packet.tcpPayload at h
  by_cases tcp : p.isTcp
  · exact tcp
  · exact absurd (if_neg tcp) h

/-- An inspection is a look at the session of the packet's flow, or there is nothing to look at or
no session. -/
theorem inspect_cases (around : Surroundings) (bytes : Bytes) (state : State) :
    ((state.inspect around bytes).1 = none ∧ (state.inspect around bytes).2 = state ∧
        ∀ p, Packet.ofBytes state.engine.settings.verifyIPv4Checksum bytes = .ok p →
          p.tcpPayload = [] ∨ state.desk.flows.session? (.ofPacket p) = none) ∨
      ∃ p session verdict session',
        Packet.ofBytes state.engine.settings.verifyIPv4Checksum bytes = .ok p ∧ p.isTcp ∧
        state.desk.flows.session? (.ofPacket p) = some session ∧
        (state.inspect around bytes).1 = some verdict ∧
        Sight state.blocked p.tcpPayload session verdict session' ∧
        ∀ key, (state.inspect around bytes).2.desk.flows.session? key =
          if FlowKey.ofPacket p = key then if verdict.isBlock then none else some session'
          else state.desk.flows.session? key := by
  unfold State.inspect
  split
  case h_1 e refused => exact .inl ⟨rfl, rfl, fun p parses => by cases refused.symm.trans parses⟩
  case h_2 p parses =>
    have same {q : Packet}
        (hq : Packet.ofBytes state.engine.settings.verifyIPv4Checksum bytes = .ok q) : p = q :=
      Except.ok.inj (parses.symm.trans hq)
    dsimp only
    split
    case h_1 hpayload => exact .inl ⟨rfl, rfl, fun q hq => same hq ▸ .inl hpayload⟩
    case h_2 hsession _ => exact .inl ⟨rfl, rfl, fun q hq => same hq ▸ .inr hsession⟩
    case h_3 session hsession hpayload =>
      have look := Engine.inspectPayload_inspection p.tcpPayload session
        (collaborators state.blocked around) state.desk
      have replays := Engine.genuine_inspectPayload p.tcpPayload session
        (collaborators state.blocked around) state.desk
      rw [Engine.inspectTls_eq]
      have hflows := flows_of_inspection look replays
      refine .inr ⟨p, session, _, _, parses, isTcp_of_tcpPayload hpayload, hsession, rfl,
        sight_of_inspection look replays, fun key => ?_⟩
      rw [← hflows] at hsession ⊢
      exact Flows.session?_afterLook hsession _ _ key

end Inspection

/-- The TCP segment that an entry is about, if it belongs to this flow. -/
def Entry.segment? (verify : Bool) (key : FlowKey) (entry : Entry) : Option Packet :=
  match Packet.ofBytes verify entry.bytes with
  | .ok p => if p.isTcp ∧ FlowKey.ofPacket p = key then some p else none
  | .error _ => none

theorem Entry.segment?_eq_some_iff {verify : Bool} {key : FlowKey} {entry : Entry} {p : Packet} :
    entry.segment? verify key = some p ↔
      Packet.ofBytes verify entry.bytes = .ok p ∧ p.isTcp ∧ FlowKey.ofPacket p = key := by
  unfold Entry.segment?
  cases Packet.ofBytes verify entry.bytes with
  | error e => simp
  | ok q =>
    simp only [Option.ite_none_right_eq_some, Except.ok.injEq, Option.some.injEq]
    constructor
    · rintro ⟨h, rfl⟩
      exact ⟨rfl, h⟩
    · rintro ⟨rfl, h⟩
      exact ⟨h, rfl⟩

/-- What an entry does to the session of a flow. -/
inductive Turn (verify : Bool) (blocked : List String) (key : FlowKey) (entry : Entry)
    (before : Option Tls.Session) : Option Tls.Session → Prop
  | apart (apart : entry.segment? verify key = none) :
      Turn verify blocked key entry before before
  | refused (refused : entry.report.outcome.isAllowed = false)
      (unseen : entry.report.verdict = none) : Turn verify blocked key entry before before
  | unwatched {p : Packet} {owner : Owner} (segment : entry.segment? verify key = some p)
      (allowed : entry.report.outcome.isAllowed)
      (idle : p.tcpPayload = [] ∨ followed p owner before = none)
      (unseen : entry.report.verdict = none) :
      Turn verify blocked key entry before (followed p owner before)
  | inspected {p : Packet} {owner : Owner} {session session' : Tls.Session}
      {verdict : Tls.Verdict} (segment : entry.segment? verify key = some p)
      (allowed : entry.report.outcome.isAllowed)
      (running : followed p owner before = some session)
      (seen : entry.report.verdict = some verdict)
      (sight : Sight blocked p.tcpPayload session verdict session') :
      Turn verify blocked key entry before (if verdict.isBlock then none else some session')

section Taking

variable [HexDecoder]

/-- Every packet that is taken acts on every session in one of these ways. -/
theorem take_turn (around : Surroundings) (bytes : Bytes) (state : State) (key : FlowKey) :
    Turn state.engine.settings.verifyIPv4Checksum state.blocked key
      ⟨bytes, (state.take around bytes).1⟩ (state.desk.flows.session? key)
      ((state.take around bytes).2.desk.flows.session? key) := by
  have course := Engine.dispatch_course state.engine bytes state.desk.flows.size
    (collaborators state.blocked around) state.desk
  have replays := Engine.genuine_dispatch state.engine bytes state.desk.flows.size
    (collaborators state.blocked around) state.desk
  have settings : (state.engine.dispatch bytes state.desk.flows.size
    (collaborators state.blocked around) state.desk).value.2.settings = state.engine.settings := rfl
  unfold State.take
  generalize state.engine.dispatch bytes state.desk.flows.size (collaborators state.blocked around)
    state.desk = answer at *
  obtain ⟨⟨outcome, engine⟩, desk, calls⟩ := answer
  dsimp only at course replays settings ⊢
  rcases session?_of_course course replays key with
    ⟨refused, hflags⟩ | ⟨allowed, p, owner, parses, hflags⟩
  · rw [if_neg (by simp [refused]), hflags]
    exact .refused refused rfl
  rw [if_pos allowed]
  -- The look at the payload finds the session as the flags have left it.
  by_cases here : p.isTcp ∧ FlowKey.ofPacket p = key
  · rw [if_pos here] at hflags
    have segment (report : Report) : Entry.segment? state.engine.settings.verifyIPv4Checksum key
        ⟨bytes, report⟩ = some p := Entry.segment?_eq_some_iff.2 ⟨parses, here⟩
    rcases inspect_cases around bytes { state with engine, desk } with
      ⟨unseen, hsame, hidle⟩ | ⟨q, session, verdict, session', hq, -, hsession, seen, sight, hlook⟩
    · have idle := hidle p (by rw [settings, parses])
      rw [here.2] at idle
      rw [hsame]
      rw [hflags] at idle ⊢
      exact .unwatched (segment _) allowed idle unseen
    · rw [settings, parses] at hq
      obtain rfl := Except.ok.inj hq
      rw [here.2, hflags] at hsession
      rw [hlook, if_pos here.2]
      exact .inspected (segment _) allowed hsession seen sight
  · rw [if_neg here] at hflags
    have apart (report : Report) : Entry.segment? state.engine.settings.verifyIPv4Checksum key
        ⟨bytes, report⟩ = none := by
      rw [Option.eq_none_iff_forall_ne_some]
      intro q hq
      obtain ⟨hparses, hhere⟩ := Entry.segment?_eq_some_iff.1 hq
      rw [parses] at hparses
      obtain rfl := Except.ok.inj hparses
      exact here hhere
    rcases inspect_cases around bytes { state with engine, desk } with
      ⟨-, hsame, -⟩ | ⟨q, session, verdict, session', hq, tcp, -, -, -, hlook⟩
    · rw [hsame, hflags]
      exact .apart (apart _)
    · rw [settings, parses] at hq
      obtain rfl := Except.ok.inj hq
      rw [hlook, if_neg fun hkey => here ⟨tcp, hkey⟩, hflags]
      exact .apart (apart _)

/-- A verdict is about a TCP segment. -/
theorem segment_of_verdict {around : Surroundings} {bytes : Bytes} {state : State}
    {verdict : Tls.Verdict} (h : (state.take around bytes).1.verdict = some verdict) :
    ∃ key p, Entry.segment? state.engine.settings.verifyIPv4Checksum key
      ⟨bytes, (state.take around bytes).1⟩ = some p := by
  unfold State.take at h
  dsimp only at h
  split at h
  · rcases inspect_cases around bytes _ with ⟨unseen, -⟩ | ⟨p, -, -, -, parses, tcp, -⟩
    · rw [unseen] at h
      cases h
    · exact ⟨.ofPacket p, p, Entry.segment?_eq_some_iff.2 ⟨parses, tcp, rfl⟩⟩
  · cases h

theorem outcome_take (around : Surroundings) (bytes : Bytes) (state : State) :
    (state.take around bytes).1.outcome = (state.engine.dispatch bytes state.desk.flows.size
      (collaborators state.blocked around) state.desk).value.1 := by
  unfold State.take
  dsimp only
  split
  · rfl
  · rfl

/-- A TCP segment without the SYN flag is allowed, whatever became of its connection. -/
theorem allowed_of_established {around : Surroundings} {bytes : Bytes} {state : State} {p : Packet}
    (parses : Packet.ofBytes state.engine.settings.verifyIPv4Checksum bytes = .ok p)
    (tcp : p.isTcp) (old : p.flags.syn = false) :
    (state.take around bytes).1.outcome.isAllowed := by
  have course := Engine.dispatch_course state.engine bytes state.desk.flows.size
    (collaborators state.blocked around) state.desk
  have protocol : p.protocol = .tcp := by simpa [Packet.isTcp] using tcp
  have handled : p.isHandled := Engine.isHandled_iff.2 (.inl protocol)
  rw [outcome_take]
  exact course.allowed_of_ground parses handled (.established protocol old)

end Taking

end TunnelFirewall.Diagnostic
