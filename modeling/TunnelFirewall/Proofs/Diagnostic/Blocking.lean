import TunnelFirewall.Proofs.Diagnostic.Standing
import TunnelFirewall.Proofs.Outer.Hex

/-!
# Blocked connections

A segment is blocked exactly if it is application data of an open connection that has told a blocked
server name, and a connection tells only one. The block ends the session: up to the next segment
that opens the flow nothing of the flow is looked at any more, and its segments are allowed as they
come.
-/
namespace TunnelFirewall.Diagnostic

open Tls (Names IsApplicationData)

variable {verify : Bool} {blocked : List String} {key : FlowKey} {entry : Entry}
  {config : Config} {p : Packet} {payload : Bytes} {name : String} {verdict : Tls.Verdict}
  {hostname : Option String} {session session' : Tls.Session} {before after : Option Tls.Session}
  {j : Journal} {packet : Bytes × Surroundings}

theorem Sight.eq_block (h : Sight blocked payload session verdict session')
    (known : session.hostname = some name) (nonempty : name ≠ "") (data : IsApplicationData payload)
    (listed : isDomainBlocked blocked name) : verdict = .block := by
  cases h with
  | captures unnamed => cases known.symm.trans unnamed
  | blocks => rfl
  | passes nameless unlisted =>
    rw [unlisted name known nonempty data] at listed
    cases listed

theorem Sight.eq_captured (h : Sight blocked payload session verdict session')
    (unnamed : session.hostname = none) (names : Names payload name) :
    verdict = .captured name := by
  cases h with
  | @captures other _ names' =>
    have heq := (names' none).symm.trans (names none)
    rw [Tls.Finding.hostname.injEq] at heq
    rw [heq]
  | blocks known => cases known.symm.trans unnamed
  | passes nameless => exact absurd (names none) (nameless unnamed none name)

theorem ne_nil_of_names (h : Names payload name) : payload ≠ [] := by
  obtain ⟨_, _, _, heq, _⟩ := Tls.inspect_eq_hostname_iff_record.1 (h none)
  rw [heq]
  exact List.cons_ne_nil _ _

theorem ne_nil_of_data (h : IsApplicationData payload) : payload ≠ [] := by
  obtain ⟨major, rest, rfl, -⟩ := h
  exact List.cons_ne_nil _ _

/-- A payload of an open connection is looked at. -/
theorem Turn.sight (h : Turn verify blocked key entry before after)
    (segment : entry.segment? verify key = some p) (allowed : entry.report.outcome.isAllowed)
    (payload : p.tcpPayload ≠ [])
    (running : ∀ owner, ∃ session, followed p owner before = some session ∧
      session.hostname = hostname) :
    ∃ session verdict session', session.hostname = hostname ∧
      entry.report.verdict = some verdict ∧
      Sight blocked p.tcpPayload session verdict session' := by
  cases h with
  | apart apart => cases apart.symm.trans segment
  | refused refused =>
    rw [refused] at allowed
    cases allowed
  | @unwatched q owner segment' _ idle =>
    obtain rfl := Option.some.inj (segment'.symm.trans segment)
    obtain ⟨session, hrunning, -⟩ := running owner
    cases hrunning.symm.trans (idle.resolve_left payload)
  | @inspected q owner session session' verdict segment' _ running' seen sight =>
    obtain rfl := Option.some.inj (segment'.symm.trans segment)
    obtain ⟨other, hrunning, hname⟩ := running owner
    obtain rfl := Option.some.inj (running'.symm.trans hrunning)
    exact ⟨session, verdict, session', hname, seen, sight⟩

section Journal

variable [HexDecoder]

/-- A verdict is about the session of an open connection. -/
theorem Journal.Accounted.reached (h : j.Accounted config blocked)
    (seen : (j.entry packet).report.verdict = some verdict) :
    ∃ key p earlier span session session',
      (j.entry packet).segment? config.engine.verifyIPv4Checksum key = some p ∧
      (j.entry packet).report.outcome.isAllowed ∧ j.entries = earlier ++ span ∧
      Reached config.engine.verifyIPv4Checksum key session.hostname span (j.entry packet) ∧
      Sight blocked p.tcpPayload session verdict session' := by
  obtain ⟨key, p, segment⟩ := segment_of_verdict seen
  rw [h.settings] at segment
  have turn := h.turn packet key
  generalize (j.step packet).state.desk.flows.session? key = after at turn
  cases turn with
  | apart apart => cases apart.symm.trans segment
  | refused refused unseen => cases unseen.symm.trans seen
  | unwatched segment allowed idle unseen => cases unseen.symm.trans seen
  | @inspected q owner session session' verdict' segment' allowed running seen' sight =>
    obtain rfl := Option.some.inj (seen'.symm.trans seen)
    obtain ⟨earlier, span, hentries, hreached⟩ := (h.standing key).reached segment' allowed running
    exact ⟨key, q, earlier, span, session, session', segment', allowed, hentries, hreached, sight⟩

/-- A segment without the SYN flag is allowed. -/
theorem Journal.Accounted.allowed (h : j.Accounted config blocked)
    (segment : (j.entry packet).segment? config.engine.verifyIPv4Checksum key = some p)
    (old : p.flags.syn = false) : (j.entry packet).report.outcome.isAllowed := by
  obtain ⟨parses, tcp, -⟩ := Entry.segment?_eq_some_iff.1 segment
  rw [← h.settings] at parses
  exact allowed_of_established parses tcp old

/-- Since the flow was last opened it has told a server name that is blocked, and was neither closed
nor blocked. -/
def Deserved (verify : Bool) (blocked : List String) (key : FlowKey) (before : List Entry) : Prop :=
  ∃ earlier span, before = earlier ++ span ∧ Opening verify key span ∧
    (∀ other ∈ span, ¬other.Closes verify key ∧ ¬other.Blocks verify key) ∧
    ∃ told ∈ span, ∃ name, told.Tells verify key name ∧ isDomainBlocked blocked name

/-- Since the flow was last opened, which the entry itself may have done, it has told no name and
was neither closed nor blocked. -/
def Untold (verify : Bool) (key : FlowKey) (before : List Entry) (entry : Entry) : Prop :=
  ∃ earlier span, before = earlier ++ span ∧ Opening verify key (span ++ [entry]) ∧
    (∀ other ∈ span, ¬other.Closes verify key ∧ ¬other.Blocks verify key) ∧
    ∀ other ∈ span, ∀ name, ¬other.Tells verify key name

theorem Journal.Accounted.block_iff (h : j.Accounted config blocked) :
    (j.entry packet).report.verdict = some .block ↔
      ∃ key p, (j.entry packet).segment? config.engine.verifyIPv4Checksum key = some p ∧
        (p.flags.syn || p.flags.fin || p.flags.rst) = false ∧ IsApplicationData p.tcpPayload ∧
        Deserved config.engine.verifyIPv4Checksum blocked key j.entries := by
  constructor
  · intro seen
    obtain ⟨key, p, earlier, span, session, session', segment, allowed, hentries, hreached,
      sight⟩ := h.reached seen
    cases sight with
    | @blocks name known data listed =>
      obtain ⟨told, hmem, htells⟩ := (hreached.named name).1 known
      obtain ⟨opening, again⟩ :=
        (opening_append_singleton (List.ne_nil_of_mem hmem)).1 hreached.opening
      have flags := (Entry.flags_iff segment allowed).2 ⟨again, hreached.runs⟩
      exact ⟨key, p, segment, flags, data, earlier, span, hentries, opening, hreached.kept, told,
        hmem, name, htells, listed⟩
  · rintro ⟨key, p, segment, flags, data, earlier, span, hentries, opening, kept, told, hmem, name,
      htells, listed⟩
    have old : p.flags.syn = false := by
      simp only [Bool.or_eq_false_iff] at flags
      exact flags.1.1
    have allowed := h.allowed segment old
    obtain ⟨again, runs⟩ := (Entry.flags_iff segment allowed).1 flags
    have standing := h.standing key
    rw [hentries] at standing
    obtain ⟨s, -, stretch⟩ := standing.exists_session opening kept
    have known : s.hostname = some name := (stretch.named name).2 ⟨told, hmem, htells⟩
    obtain ⟨session, verdict, session', hname, seen, sight⟩ := (h.turn packet key).sight segment
      allowed (ne_nil_of_data data)
      (standing.exists_followed segment allowed (stretch.reached again runs))
    have nonempty : name ≠ "" := by
      rintro rfl
      exact stretch.nonempty known
    rw [seen, sight.eq_block (hname.trans known) nonempty data listed]

theorem Journal.Accounted.captured_iff (h : j.Accounted config blocked) (name : String) :
    (j.entry packet).report.verdict = some (.captured name) ↔
      ∃ key p, (j.entry packet).segment? config.engine.verifyIPv4Checksum key = some p ∧
        (j.entry packet).report.outcome.isAllowed ∧
        ¬(j.entry packet).Closes config.engine.verifyIPv4Checksum key ∧ Names p.tcpPayload name ∧
        Untold config.engine.verifyIPv4Checksum key j.entries (j.entry packet) := by
  constructor
  · intro seen
    obtain ⟨key, p, earlier, span, session, session', segment, allowed, hentries, hreached,
      sight⟩ := h.reached seen
    cases sight with
    | captures unnamed names =>
      refine ⟨key, p, segment, allowed, hreached.runs, names, earlier, span, hentries,
        hreached.opening, hreached.kept, ?_⟩
      intro other hmem otherName htells
      cases ((hreached.named otherName).2 ⟨other, hmem, htells⟩).symm.trans unnamed
  · rintro ⟨key, p, segment, allowed, runs, names, earlier, span, hentries, opening, kept, untold⟩
    have hreached : Reached config.engine.verifyIPv4Checksum key none span (j.entry packet) := by
      refine ⟨opening, kept, runs, fun name => ?_, by simp⟩
      simp only [reduceCtorEq, false_iff]
      rintro ⟨told, hmem, htells⟩
      exact untold told hmem name htells
    have standing := h.standing key
    rw [hentries] at standing
    obtain ⟨session, verdict, session', hname, seen, sight⟩ := (h.turn packet key).sight segment
      allowed (ne_nil_of_names names) (standing.exists_followed segment allowed hreached)
    rw [seen, sight.eq_captured hname names]

/-- The reports of a run are those of its journal. A segment is reported as blocked exactly if it is
application data, neither opens nor closes its flow, and deserves it by the segments of its own flow
before it; and it is reported with a server name exactly if it tells the name and its flow has told
none since it was last opened. -/
theorem blocked_iff_told (config : Config) (blocked : List String)
    (input : List (Option String × Surroundings)) :
    let verify := config.engine.verifyIPv4Checksum
    let entries := (Journal.ofInput config blocked input).entries
    ((State.start config blocked).run input).1 = entries.map Entry.report ∧
      ∀ before entry after, entries = before ++ entry :: after →
        (entry.report.verdict = some .block ↔
          ∃ key p, entry.segment? verify key = some p ∧
            (p.flags.syn || p.flags.fin || p.flags.rst) = false ∧
            IsApplicationData p.tcpPayload ∧ Deserved verify blocked key before) ∧
        ∀ name, entry.report.verdict = some (.captured name) ↔
          ∃ key p, entry.segment? verify key = some p ∧ entry.report.outcome.isAllowed ∧
            ¬entry.Closes verify key ∧ Names p.tcpPayload name ∧
            Untold verify key before entry := by
  intro verify entries
  refine ⟨Journal.ofInput_reports config blocked input, fun before entry after hsplit => ?_⟩
  obtain ⟨j, packet, haccounted, rfl, rfl⟩ := Journal.exists_accounted hsplit
  exact ⟨haccounted.block_iff, haccounted.captured_iff⟩

end Journal

section Example

/-- A TCP segment from 10.0.0.1, port 40000, to 192.0.2.1, port 443. -/
def webSegment (checksum flags : UInt8) (payload : Bytes) : Bytes :=
  [69, 0, 0, UInt8.ofNat (40 + payload.length), 0, 0, 0, 0, 64, 6, 174, checksum] ++
    [10, 0, 0, 1, 192, 0, 2, 1, 156, 64, 1, 187] ++ List.replicate 8 0 ++ [80, flags] ++
    List.replicate 6 0 ++ payload

/-- The segment opens the connection. -/
def webSyn : Bytes := webSegment 206 2 []

/-- The handshake of the connection, which names the server `a.example`. -/
def webHello : Bytes :=
  webSegment 139 24 ([22, 3, 1, 0, 62, 1] ++ List.replicate 37 0 ++
    [0, 0, 0, 0, 0, 18, 0, 0, 0, 14, 0, 12, 0, 0, 9, 97, 46, 101, 120, 97, 109, 112, 108, 101])

/-- Application data of the connection. -/
def webData : Bytes := webSegment 201 24 [23, 3, 3, 0, 0]

/-- The connection as an input, while no connection table can be opened. -/
def webInput : List (Option String × Surroundings) :=
  written ([webSyn, webHello, webData, webData].map fun bytes => (bytes, ⟨0, fun _ => .absent⟩))

/-- The connection, up to the block. -/
def webBefore : List Entry :=
  [⟨webSyn, .allowed .tcp none, none⟩, ⟨webHello, .allowed .tcp none, some (.captured "a.example")⟩]

theorem entries_web : (Journal.ofInput {} ["example"] webInput).entries =
    webBefore ++ ⟨webData, .allowed .tcp none, some .block⟩ ::
      [⟨webData, .allowed .tcp none, none⟩] := by
  have hpackets : ∀ packet ∈ [webSyn, webHello, webData, webData].map fun bytes =>
      ((bytes, ⟨0, fun _ => .absent⟩) : Bytes × Surroundings),
      packet.1 ≠ [] ∧ packet.1.length ≤ ({} : Config).engine.mtu.toNat := by
    simp only [List.forall_mem_map]
    decide
  unfold Journal.ofInput webInput
  rw [packets_written Hex.pairDecoder_lawful hpackets]
  decide +kernel

theorem blocked_iff_told_web :
    (Journal.ofInput {} ["example"] webInput).entries =
        webBefore ++ ⟨webData, .allowed .tcp none, some .block⟩ ::
          [⟨webData, .allowed .tcp none, none⟩] ∧
      ∃ key p, Entry.segment? true key ⟨webData, .allowed .tcp none, some .block⟩ = some p ∧
        (p.flags.syn || p.flags.fin || p.flags.rst) = false ∧ IsApplicationData p.tcpPayload ∧
        Deserved true ["example"] key webBefore :=
  ⟨entries_web, ((blocked_iff_told {} ["example"] webInput).2 _ _ _ entries_web).1.1 rfl⟩

end Example

/-- The entry comes after a block of its flow, and no segment has opened the flow again. -/
def FollowsBlock (verify : Bool) (key : FlowKey) (entries : List Entry) (entry : Entry) : Prop :=
  ∃ earlier block between later,
    entries = earlier ++ block :: (between ++ entry :: later) ∧ block.Blocks verify key ∧
    ∀ other ∈ between ++ [entry], ¬other.Opens verify key

/-- The line of the report says that the packet is allowed, and nothing else. -/
def Report.IsPlain (report : Report) : Prop :=
  report.outcome.isAllowed ∧ report.text = report.outcome.text

/-- After a block no application data of the flow is plainly allowed until the flow is opened
again. -/
def StaysBlocked (verify : Bool) (entries : List Entry) : Prop :=
  ∀ key entry p, FollowsBlock verify key entries entry → entry.segment? verify key = some p →
    IsApplicationData p.tcpPayload → ¬entry.report.IsPlain

/-- While a flow is not opened again after a block, it has no session. -/
theorem Standing.eq_none_of_blocks {earlier between : List Entry} {block : Entry}
    (h : Standing verify key (earlier ++ block :: between) before)
    (blocks : block.Blocks verify key) (closed : ∀ other ∈ between, ¬other.Opens verify key) :
    before = none := by
  cases hbefore : before with
  | none => rfl
  | some s =>
    obtain ⟨front, span, heq, hstretch⟩ := h.backed s hbefore
    have hblock : block ∉ span := fun hmem => (hstretch.kept block hmem).2 blocks
    -- The stretch of a session would have to begin before the block or after it.
    rcases List.append_eq_append_iff.1 heq with ⟨skipped, -, hspan⟩ | ⟨lead, -, rfl⟩
    · cases skipped with
      | nil =>
        rw [List.nil_append] at hspan
        exact absurd (by simp [← hspan]) hblock
      | cons other skipped =>
        obtain ⟨first, hfirst, hopens⟩ := hstretch.opening.exists_opens
        rw [List.cons_append, List.cons.injEq] at hspan
        exact absurd hopens (closed first (hspan.2 ▸ List.mem_append_right _ hfirst))
    · exact absurd (by simp) hblock

/-- A segment of a flow without a session is not looked at, unless it opens the flow. -/
theorem Turn.verdict_eq_none (h : Turn verify blocked key entry none after)
    (segment : entry.segment? verify key = some p) (closed : ¬entry.Opens verify key) :
    entry.report.verdict = none := by
  cases h with
  | apart apart => cases apart.symm.trans segment
  | refused refused unseen => exact unseen
  | unwatched segment' allowed idle unseen => exact unseen
  | @inspected q owner session session' verdict segment' allowed running seen sight =>
    rcases followed_cases segment' allowed owner none with
      ⟨opens, -, -⟩ | ⟨-, -, hflags⟩ | ⟨-, -, hflags⟩
    · exact absurd opens closed
    · cases hflags.symm.trans running
    · cases hflags.symm.trans running

theorem verdict_of_followsBlock [HexDecoder] {input : List (Option String × Surroundings)}
    (follows : FollowsBlock config.engine.verifyIPv4Checksum key
      (Journal.ofInput config blocked input).entries entry)
    (segment : entry.segment? config.engine.verifyIPv4Checksum key = some p) :
    entry.report.verdict = none ∧ (entry.report.outcome.isAllowed ↔ p.flags.syn = false) := by
  obtain ⟨earlier, block, between, later, hsplit, blocks, closed⟩ := follows
  -- The journal that the packet finds ends in the block and what came since.
  rw [← List.cons_append, ← List.append_assoc] at hsplit
  obtain ⟨j, packet, haccounted, hentries, rfl⟩ := Journal.exists_accounted hsplit
  obtain ⟨hbetween, hentry⟩ := List.forall_mem_append.1 closed
  have again := hentry _ (List.mem_singleton_self _)
  have standing := haccounted.standing key
  rw [hentries] at standing
  have turn := haccounted.turn packet key
  rw [standing.eq_none_of_blocks blocks hbetween] at turn
  refine ⟨turn.verdict_eq_none segment again, fun allowed => ?_, haccounted.allowed segment⟩
  exact Bool.eq_false_iff.2 fun syn => again ((Entry.opens_iff segment allowed).2 syn)

/-- After a block nothing of the flow is looked at until the flow is opened again, and a segment is
allowed exactly if it has no SYN flag. So a flow stays blocked exactly if every segment with
application data that follows a block, up to the next segment that opens the flow, has this flag. -/
theorem unwatched_after_block [HexDecoder] (config : Config) (blocked : List String)
    (input : List (Option String × Surroundings)) :
    let verify := config.engine.verifyIPv4Checksum
    let entries := (Journal.ofInput config blocked input).entries
    ((State.start config blocked).run input).1 = entries.map Entry.report ∧
      (∀ key entry p, FollowsBlock verify key entries entry →
        entry.segment? verify key = some p →
        entry.report.verdict = none ∧
          (entry.report.outcome.isAllowed ↔ p.flags.syn = false)) ∧
      (StaysBlocked verify entries ↔ ∀ key entry p, FollowsBlock verify key entries entry →
        entry.segment? verify key = some p → IsApplicationData p.tcpPayload →
        p.flags.syn) := by
  intro verify entries
  refine ⟨Journal.ofInput_reports config blocked input,
    fun key entry p => verdict_of_followsBlock, ?_⟩
  constructor
  · intro stays key entry p follows segment data
    obtain ⟨unseen, hallowed⟩ := verdict_of_followsBlock follows segment
    by_cases syn : p.flags.syn
    · exact syn
    · have plain : entry.report.IsPlain :=
        ⟨hallowed.2 (Bool.eq_false_iff.2 syn), by rw [Report.text, unseen]⟩
      exact absurd plain (stays key entry p follows segment data)
  · intro hsyn key entry p follows segment data plain
    obtain ⟨-, hallowed⟩ := verdict_of_followsBlock follows segment
    have syn := hsyn key entry p follows segment data
    rw [hallowed.1 plain.1] at syn
    cases syn

section Example

theorem parses_webData : ∃ p, Packet.ofBytes true webData = .ok p ∧ p.isTcp ∧
    p.tcpPayload = [23, 3, 3, 0, 0] ∧ p.flags.syn = false := by
  have hparses : (Packet.ofBytes true webData).toOption.any (fun p =>
      p.isTcp && p.tcpPayload == [23, 3, 3, 0, 0] && !p.flags.syn) := by decide +kernel
  cases h : Packet.ofBytes true webData with
  | error e =>
    rw [h] at hparses
    cases hparses
  | ok p =>
    rw [h] at hparses
    refine ⟨p, rfl, ?_⟩
    simpa [Except.toOption, and_assoc] using hparses

theorem followsBlock_web : ∃ key p,
    FollowsBlock true key (Journal.ofInput {} ["example"] webInput).entries
        ⟨webData, .allowed .tcp none, none⟩ ∧
      Entry.segment? true key ⟨webData, .allowed .tcp none, none⟩ = some p ∧
      p.tcpPayload = [23, 3, 3, 0, 0] ∧ p.flags.syn = false := by
  obtain ⟨p, parses, tcp, hpayload, hsyn⟩ := parses_webData
  have segment (report : Report) :
      Entry.segment? true (.ofPacket p) ⟨webData, report⟩ = some p :=
    Entry.segment?_eq_some_iff.2 ⟨parses, tcp, rfl⟩
  refine ⟨.ofPacket p, p, ⟨webBefore, _, [], [], entries_web, ⟨⟨p, segment _⟩, rfl⟩, ?_⟩,
    segment _, hpayload, hsyn⟩
  intro other hmem opens
  obtain rfl := List.mem_singleton.1 hmem
  rw [Entry.opens_iff (segment _) rfl, hsyn] at opens
  cases opens

theorem unwatched_after_block_web : ∃ (key : FlowKey) (p : Packet),
    FollowsBlock true key (Journal.ofInput {} ["example"] webInput).entries
        ⟨webData, .allowed .tcp none, none⟩ ∧
      (Outcome.isAllowed (.allowed .tcp none) ↔ p.flags.syn = false) := by
  obtain ⟨key, p, follows, segment, -, -⟩ := followsBlock_web
  exact ⟨key, p, follows,
    ((unwatched_after_block {} ["example"] webInput).2.1 key _ p follows segment).2⟩

/-- The second record of application data is plainly allowed after the first one was blocked. -/
theorem exists_plain_after_block :
    ((State.start {} ["example"]).run webInput).1.map Report.text =
        ["allowed p6", "allowed p6 sni=a.example", "allowed p6 tls=blocked", "allowed p6"] ∧
      ¬StaysBlocked true (Journal.ofInput {} ["example"] webInput).entries := by
  constructor
  · rw [Journal.ofInput_reports, entries_web]
    decide +kernel
  · intro stays
    obtain ⟨key, p, follows, segment, hpayload, -⟩ := followsBlock_web
    have data : IsApplicationData p.tcpPayload := ⟨3, [3, 0, 0], hpayload, by decide⟩
    exact stays key _ p follows segment data ⟨rfl, rfl⟩

end Example

end TunnelFirewall.Diagnostic
