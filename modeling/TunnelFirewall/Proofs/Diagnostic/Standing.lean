import TunnelFirewall.Proofs.Diagnostic.Sessions

/-!
# Connections in the journal

The flow table has a session exactly for the flows with an open connection in the journal: a stretch
of entries that reaches up to now, begins with the segment that opened the connection, and in which
the connection is neither opened again nor closed nor blocked. The session has a server name exactly
if an entry of this stretch tells it.
-/
namespace TunnelFirewall.Diagnostic

namespace Entry

/-- An allowed TCP segment of the flow with the SYN flag. -/
def Opens (verify : Bool) (key : FlowKey) (entry : Entry) : Prop :=
  ∃ p, entry.segment? verify key = some p ∧ p.flags.syn ∧ entry.report.outcome.isAllowed

/-- An allowed TCP segment of the flow with the FIN or the RST flag and without SYN. -/
def Closes (verify : Bool) (key : FlowKey) (entry : Entry) : Prop :=
  ∃ p, entry.segment? verify key = some p ∧ p.flags.syn = false ∧ (p.flags.fin ∨ p.flags.rst) ∧
    entry.report.outcome.isAllowed

/-- A segment of the flow that is reported as blocked for its server name. -/
def Blocks (verify : Bool) (key : FlowKey) (entry : Entry) : Prop :=
  (∃ p, entry.segment? verify key = some p) ∧ entry.report.verdict = some .block

/-- A segment of the flow that is reported to tell this server name. -/
def Tells (verify : Bool) (key : FlowKey) (name : String) (entry : Entry) : Prop :=
  (∃ p, entry.segment? verify key = some p) ∧ entry.report.verdict = some (.captured name)

end Entry

/-- The first of these entries opens a connection of the flow, and none of the others does. -/
def Opening (verify : Bool) (key : FlowKey) : List Entry → Prop
  | [] => False
  | first :: rest => first.Opens verify key ∧ ∀ entry ∈ rest, ¬entry.Opens verify key

/-- The entries of a connection that is open, which tell this server name or none. -/
structure Stretch (verify : Bool) (key : FlowKey) (hostname : Option String)
    (span : List Entry) : Prop where
  opening : Opening verify key span
  kept : ∀ entry ∈ span, ¬entry.Closes verify key ∧ ¬entry.Blocks verify key
  named : ∀ name, hostname = some name ↔ ∃ told ∈ span, told.Tells verify key name
  nonempty : hostname ≠ some ""

/-- The entry belongs to an open connection, which it may have opened itself. The entries before it,
`span`, tell this server name or none. -/
structure Reached (verify : Bool) (key : FlowKey) (hostname : Option String)
    (span : List Entry) (entry : Entry) : Prop where
  opening : Opening verify key (span ++ [entry])
  kept : ∀ entry ∈ span, ¬entry.Closes verify key ∧ ¬entry.Blocks verify key
  runs : ¬entry.Closes verify key
  named : ∀ name, hostname = some name ↔ ∃ told ∈ span, told.Tells verify key name
  nonempty : hostname ≠ some ""

/-- These entries leave the flow with this session. -/
structure Standing (verify : Bool) (key : FlowKey) (entries : List Entry)
    (session : Option Tls.Session) : Prop where
  backed : ∀ s, session = some s →
    ∃ earlier span, entries = earlier ++ span ∧ Stretch verify key s.hostname span
  ended : session = none → ∀ earlier span, entries = earlier ++ span → Opening verify key span →
    ∃ entry ∈ span, entry.Closes verify key ∨ entry.Blocks verify key

variable {verify : Bool} {blocked : List String} {key : FlowKey} {entry : Entry}
  {entries earlier span : List Entry} {hostname hostname' : Option String} {p : Packet}
  {owner : Owner} {before after : Option Tls.Session} {session : Tls.Session}

theorem opening_append_singleton (h : span ≠ []) :
    Opening verify key (span ++ [entry]) ↔ Opening verify key span ∧ ¬entry.Opens verify key := by
  cases span with
  | nil => exact absurd rfl h
  | cons first rest =>
    simp only [List.cons_append, Opening, List.forall_mem_append, List.forall_mem_singleton,
      and_assoc]

theorem Opening.ne_nil (h : Opening verify key span) : span ≠ [] := by
  rintro rfl
  exact h

theorem Opening.exists_opens (h : Opening verify key span) :
    ∃ first ∈ span, first.Opens verify key := by
  cases span with
  | nil => exact h.elim
  | cons first rest => exact ⟨first, by simp, h.1⟩

theorem Opening.eq_nil_of_append {lead : List Entry} (h : Opening verify key (lead ++ span))
    (hspan : Opening verify key span) : lead = [] := by
  cases lead with
  | nil => rfl
  | cons other lead =>
    obtain ⟨first, hmem, hopens⟩ := hspan.exists_opens
    exact absurd hopens (h.2 first (List.mem_append_right _ hmem))

/-- The last segment that opens the flow is at one place only. -/
theorem Opening.unique {earlier' span' : List Entry} (h : Opening verify key span)
    (h' : Opening verify key span') (heq : earlier ++ span = earlier' ++ span') : span = span' := by
  rcases List.append_eq_append_iff.1 heq with ⟨lead, -, rfl⟩ | ⟨lead, -, rfl⟩
  · rw [h.eq_nil_of_append h', List.nil_append]
  · rw [h'.eq_nil_of_append h, List.nil_append]

theorem Entry.opens_iff (segment : entry.segment? verify key = some p)
    (allowed : entry.report.outcome.isAllowed) : entry.Opens verify key ↔ p.flags.syn := by
  simp [Entry.Opens, segment, allowed]

theorem Entry.closes_iff (segment : entry.segment? verify key = some p)
    (allowed : entry.report.outcome.isAllowed) :
    entry.Closes verify key ↔ p.flags.syn = false ∧ (p.flags.fin ∨ p.flags.rst) := by
  simp [Entry.Closes, segment, allowed]

theorem Entry.flags_iff (segment : entry.segment? verify key = some p)
    (allowed : entry.report.outcome.isAllowed) :
    (p.flags.syn || p.flags.fin || p.flags.rst) = false ↔
      ¬entry.Opens verify key ∧ ¬entry.Closes verify key := by
  rw [Entry.opens_iff segment allowed, Entry.closes_iff segment allowed]
  cases p.flags.syn with
  | true => simp
  | false => simp

/-- What the flags of an allowed segment do to the session of its flow. -/
theorem followed_cases (segment : entry.segment? verify key = some p)
    (allowed : entry.report.outcome.isAllowed) (owner : Owner) (before : Option Tls.Session) :
    (entry.Opens verify key ∧ ¬entry.Closes verify key ∧
        followed p owner before = some { owner }) ∨
      (entry.Closes verify key ∧ ¬entry.Opens verify key ∧ followed p owner before = none) ∨
      (¬entry.Opens verify key ∧ ¬entry.Closes verify key ∧ followed p owner before = before) := by
  obtain ⟨-, tcp, -⟩ := Entry.segment?_eq_some_iff.1 segment
  unfold followed Packet.isTcpSyn
  rw [Entry.opens_iff segment allowed, Entry.closes_iff segment allowed, tcp, Bool.true_and]
  cases syn : p.flags.syn with
  | true => exact .inl ⟨rfl, by simp, rfl⟩
  | false =>
    cases ends : p.flags.fin || p.flags.rst with
    | true => exact .inr (.inl ⟨⟨rfl, by simpa using ends⟩, by simp, rfl⟩)
    | false => exact .inr (.inr ⟨by simp, by simpa using ends, rfl⟩)

theorem Stretch.reached (h : Stretch verify key hostname span) (again : ¬entry.Opens verify key)
    (runs : ¬entry.Closes verify key) : Reached verify key hostname span entry :=
  ⟨(opening_append_singleton h.opening.ne_nil).2 ⟨h.opening, again⟩, h.kept, runs, h.named,
    h.nonempty⟩

/-- An entry that does not block its connection carries it on. -/
theorem Reached.stretch (h : Reached verify key hostname span entry)
    (passes : ¬entry.Blocks verify key)
    (named : ∀ name, hostname' = some name ↔ hostname = some name ∨ entry.Tells verify key name)
    (nonempty : hostname' ≠ some "") : Stretch verify key hostname' (span ++ [entry]) where
  opening := h.opening
  kept := by
    intro other hother
    rcases List.mem_append.1 hother with hspan | hentry
    · exact h.kept other hspan
    · obtain rfl := List.mem_singleton.1 hentry
      exact ⟨h.runs, passes⟩
  named := by
    intro name
    rw [named, h.named]
    constructor
    · rintro (⟨told, hmem, htells⟩ | htells)
      · exact ⟨told, List.mem_append_left _ hmem, htells⟩
      · exact ⟨entry, by simp, htells⟩
    · rintro ⟨told, hmem, htells⟩
      rcases List.mem_append.1 hmem with hspan | hentry
      · exact .inl ⟨told, hspan, htells⟩
      · obtain rfl := List.mem_singleton.1 hentry
        exact .inr htells
  nonempty := nonempty

/-- An entry that tells nothing carries its connection on under the same name. -/
theorem Reached.carry (h : Reached verify key hostname span entry)
    (passes : ¬entry.Blocks verify key) (untold : ∀ name, ¬entry.Tells verify key name) :
    Stretch verify key hostname (span ++ [entry]) :=
  h.stretch passes (fun name => ⟨.inl, fun hor => hor.resolve_right (untold name)⟩) h.nonempty

theorem exists_front_of_append {α : Type} {l front back : List α} {a : α}
    (h : l ++ [a] = front ++ back) (hne : back ≠ []) :
    ∃ rest, back = rest ++ [a] ∧ l = front ++ rest := by
  rcases List.eq_nil_or_concat back with rfl | ⟨rest, last, rfl⟩
  · exact absurd rfl hne
  · rw [List.concat_eq_append, ← List.append_assoc] at h
    obtain ⟨hl, hlast⟩ := List.append_inj' h rfl
    exact ⟨rest, by rw [List.concat_eq_append, List.head_eq_of_cons_eq hlast], hl⟩

namespace Standing

/-- A session that a segment leaves by its flags belongs to an open connection. -/
theorem reached (h : Standing verify key entries before)
    (segment : entry.segment? verify key = some p) (allowed : entry.report.outcome.isAllowed)
    (running : followed p owner before = some session) :
    ∃ earlier span, entries = earlier ++ span ∧
      Reached verify key session.hostname span entry := by
  rcases followed_cases segment allowed owner before with
    ⟨opens, runs, hflags⟩ | ⟨-, -, hflags⟩ | ⟨again, runs, hflags⟩
  · obtain rfl := Option.some.inj (hflags.symm.trans running)
    exact ⟨entries, [], (List.append_nil _).symm, ⟨opens, by simp⟩, by simp, runs, by simp,
      by simp⟩
  · cases hflags.symm.trans running
  · obtain ⟨earlier, span, hentries, hstretch⟩ := h.backed session (hflags.symm.trans running)
    exact ⟨earlier, span, hentries, hstretch.reached again runs⟩

/-- A flow with an open connection has a session, with the server name that was told. -/
theorem exists_session (h : Standing verify key (earlier ++ span) before)
    (opening : Opening verify key span)
    (kept : ∀ entry ∈ span, ¬entry.Closes verify key ∧ ¬entry.Blocks verify key) :
    ∃ s, before = some s ∧ Stretch verify key s.hostname span := by
  cases hbefore : before with
  | none =>
    obtain ⟨entry, hmem, hends⟩ := h.ended hbefore earlier span rfl opening
    exact absurd hends (not_or.2 (kept entry hmem))
  | some s =>
    obtain ⟨earlier', span', heq, hstretch⟩ := h.backed s hbefore
    rw [opening.unique hstretch.opening heq]
    exact ⟨s, rfl, hstretch⟩

/-- Without a session nothing but a new opening can begin a connection. -/
theorem ended_append (h : Standing verify key entries none) (again : ¬entry.Opens verify key)
    (hspan : entries ++ [entry] = earlier ++ span) (opening : Opening verify key span) :
    ∃ entry ∈ span, entry.Closes verify key ∨ entry.Blocks verify key := by
  obtain ⟨front, rfl, hentries⟩ := exists_front_of_append hspan opening.ne_nil
  cases front with
  | nil => exact absurd opening.1 again
  | cons first rest =>
    have hfront : Opening verify key (first :: rest) :=
      ((opening_append_singleton (List.cons_ne_nil _ _)).1 opening).1
    obtain ⟨entry, hmem, hends⟩ := h.ended rfl earlier _ hentries hfront
    exact ⟨entry, List.mem_append_left _ hmem, hends⟩

/-- A segment of an open connection leaves the flow with a session by its flags. -/
theorem exists_followed (h : Standing verify key (earlier ++ span) before)
    (segment : entry.segment? verify key = some p) (allowed : entry.report.outcome.isAllowed)
    (hreached : Reached verify key hostname span entry) (owner : Owner) :
    ∃ session, followed p owner before = some session ∧ session.hostname = hostname := by
  have same {other : Option String} (named : ∀ name, other = some name ↔
      ∃ told ∈ span, told.Tells verify key name) : other = hostname :=
    Option.ext fun name => (named name).trans (hreached.named name).symm
  by_cases hnil : span = []
  · subst hnil
    rcases followed_cases segment allowed owner before with
      ⟨-, -, hflags⟩ | ⟨closes, -, -⟩ | ⟨again, -, -⟩
    · exact ⟨_, hflags, same (by simp)⟩
    · exact absurd closes hreached.runs
    · exact absurd hreached.opening.1 again
  · obtain ⟨opening, again⟩ := (opening_append_singleton hnil).1 hreached.opening
    obtain ⟨s, hs, hstretch⟩ := h.exists_session opening hreached.kept
    rcases followed_cases segment allowed owner before with
      ⟨opens, -, -⟩ | ⟨closes, -, -⟩ | ⟨-, -, hflags⟩
    · exact absurd opens again
    · exact absurd closes hreached.runs
    · exact ⟨s, hflags.trans hs, same hstretch.named⟩

/-- An entry that is not about the connection leaves it as it is. -/
theorem skip (h : Standing verify key entries before) (again : ¬entry.Opens verify key)
    (runs : ¬entry.Closes verify key) (passes : ¬entry.Blocks verify key)
    (untold : ∀ name, ¬entry.Tells verify key name) :
    Standing verify key (entries ++ [entry]) before where
  backed := by
    intro s hs
    obtain ⟨earlier, span, rfl, hstretch⟩ := h.backed s hs
    exact ⟨earlier, span ++ [entry], List.append_assoc _ _ _,
      (hstretch.reached again runs).carry passes untold⟩
  ended := by
    rintro rfl earlier span hspan opening
    exact h.ended_append again hspan opening

/-- An entry after which the flow has no session ends the connection, if there was one. -/
theorem close (ends : entry.Closes verify key ∨ entry.Blocks verify key) :
    Standing verify key (entries ++ [entry]) none where
  backed := nofun
  ended := by
    intro _ earlier span hspan opening
    obtain ⟨front, rfl, -⟩ := exists_front_of_append hspan opening.ne_nil
    exact ⟨entry, by simp, ends⟩

/-- An entry after which the flow has a session carries a connection on. -/
theorem carry {s : Tls.Session} (hentries : entries = earlier ++ span)
    (stretch : Stretch verify key s.hostname (span ++ [entry])) :
    Standing verify key (entries ++ [entry]) (some s) where
  backed := by
    intro t ht
    obtain rfl := Option.some.inj ht
    exact ⟨earlier, span ++ [entry], by rw [hentries, List.append_assoc], stretch⟩
  ended := nofun

/-- Every turn leaves the flow with the session that its entries tell of. -/
theorem turn (h : Standing verify key entries before)
    (turn : Turn verify blocked key entry before after) :
    Standing verify key (entries ++ [entry]) after := by
  cases turn with
  | apart apart =>
    have hnone {q : Packet} : entry.segment? verify key ≠ some q := by
      rw [apart]
      nofun
    exact h.skip (fun ⟨_, hq, _⟩ => hnone hq) (fun ⟨_, hq, _⟩ => hnone hq)
      (fun ⟨⟨_, hq⟩, _⟩ => hnone hq) (fun _ ⟨⟨_, hq⟩, _⟩ => hnone hq)
  | refused refused unseen =>
    have hdenied : ¬entry.report.outcome.isAllowed := by simp [refused]
    have hunseen {v : Tls.Verdict} : entry.report.verdict ≠ some v := by simp [unseen]
    exact h.skip (fun ⟨_, _, _, allowed⟩ => hdenied allowed)
      (fun ⟨_, _, _, _, allowed⟩ => hdenied allowed) (fun ⟨_, hv⟩ => hunseen hv)
      (fun _ ⟨_, hv⟩ => hunseen hv)
  | @unwatched p owner segment allowed idle unseen =>
    have hunseen {v : Tls.Verdict} : entry.report.verdict ≠ some v := by simp [unseen]
    cases running : followed p owner before with
    | some s =>
      obtain ⟨earlier, span, hentries, hreached⟩ := h.reached segment allowed running
      exact carry hentries
        (hreached.carry (fun ⟨_, hv⟩ => hunseen hv) fun _ ⟨_, hv⟩ => hunseen hv)
    | none =>
      rcases followed_cases segment allowed owner before with
        ⟨-, -, hflags⟩ | ⟨closes, -, -⟩ | ⟨again, runs, hflags⟩
      · cases hflags.symm.trans running
      · exact close (.inl closes)
      · rw [hflags] at running
        subst running
        exact h.skip again runs (fun ⟨_, hv⟩ => hunseen hv) fun _ ⟨_, hv⟩ => hunseen hv
  | @inspected p owner session _ verdict segment allowed running seen sight =>
    obtain ⟨earlier, span, hentries, hreached⟩ := h.reached segment allowed running
    cases sight with
    | @captures name unnamed names =>
      refine carry hentries (hreached.stretch (fun ⟨_, hv⟩ => by simp [seen] at hv) ?_ ?_)
      · simp [unnamed, Entry.Tells, segment, seen]
      · simpa using names.ne_empty
    | blocks known data listed => exact close (.inr ⟨⟨p, segment⟩, seen⟩)
    | passes nameless unlisted =>
      exact carry hentries
        (hreached.carry (fun ⟨_, hv⟩ => by simp [seen] at hv) fun _ ⟨_, hv⟩ => by simp [seen] at hv)

end Standing

/-- What a journal of this configuration keeps. -/
structure Journal.Accounted (config : Config) (blocked : List String) (j : Journal) : Prop where
  settings : j.state.engine.settings = config.engine
  blocked : j.state.blocked = blocked
  standing : ∀ key, Standing config.engine.verifyIPv4Checksum key j.entries
    (j.state.desk.flows.session? key)

namespace Journal

variable [HexDecoder] {config : Config} {j : Journal}

theorem Accounted.turn (h : j.Accounted config blocked) (packet : Bytes × Surroundings)
    (key : FlowKey) :
    Turn config.engine.verifyIPv4Checksum blocked key (j.entry packet)
      (j.state.desk.flows.session? key) ((j.step packet).state.desk.flows.session? key) := by
  have turn := take_turn packet.2 packet.1 j.state key
  rw [h.settings, h.blocked] at turn
  exact turn

theorem accounted_step (j : Journal) (packet : Bytes × Surroundings)
    (h : j.Accounted config blocked) : (j.step packet).Accounted config blocked where
  settings := (settings_take packet.2 packet.1 j.state).1.trans h.settings
  blocked := (settings_take packet.2 packet.1 j.state).2.trans h.blocked
  standing key := (h.standing key).turn (h.turn packet key)

omit [HexDecoder] in
theorem accounted_start (config : Config) (blocked : List String) :
    Accounted config blocked ⟨State.start config blocked, []⟩ where
  settings := rfl
  blocked := rfl
  standing key :=
    { backed := nofun
      ended := by
        intro _ earlier span hspan opening
        exact absurd (List.append_eq_nil_iff.1 hspan.symm).2 opening.ne_nil }

/-- Every entry of a run was made by a packet in a journal that accounts for its sessions. -/
theorem exists_accounted {input : List (Option String × Surroundings)} {front back : List Entry}
    (h : (Journal.ofInput config blocked input).entries = front ++ entry :: back) :
    ∃ (j : Journal) (packet : Bytes × Surroundings), j.Accounted config blocked ∧
      j.entries = front ∧ j.entry packet = entry :=
  exists_of_run accounted_step (accounted_start config blocked) h

end Journal

end TunnelFirewall.Diagnostic
