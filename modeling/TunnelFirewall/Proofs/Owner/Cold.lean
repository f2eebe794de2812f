import TunnelFirewall.Proofs.Owner.Transparency

/-!
# Questions to a cold cache

A cache without a fresh entry answers from the tables alone: with the last line that serves the
flow, if every line of the table can be read and understood. The entries that a pass over the
IPv6 table leaves behind are of no use to the pass over the IPv4 table that may follow it.
-/
namespace TunnelFirewall

/-- Every line of the content is text, and those behind the heading are understood as these
sockets, one after the other. -/
def FileState.Holds [HexDecoder] (version : IpVersion) (content : FileState)
    (sockets : List Connection) : Prop :=
  ∃ lines : List String, content.readLines = .ok (lines.map .ok) ∧
    (lines.drop 1).mapIdx (fun i line => Connection.read version (i + 2) line) =
      sockets.map .ok

/-- The content cannot be used as a table. -/
inductive FileState.Fails [HexDecoder] (version : IpVersion) (content : FileState) : Prop
  | unopened {failure : IoFailure} (hlines : content.readLines = .error failure)
  | unreadable {lines : List (Except IoFailure String)} {failure : IoFailure}
      (hlines : content.readLines = .ok lines) (hline : .error failure ∈ lines)
  | malformed {lines : List (Except IoFailure String)} {i : Nat} {line : String} {e : TableError}
      (hlines : content.readLines = .ok lines) (hline : lines[i + 1]? = some (.ok line))
      (hread : Connection.read version (i + 2) line = .error e)

/-- The socket has the key's ports and addresses, or in their place what stands for any. -/
def SocketKey.Serves (key : SocketKey) (socket : Connection) : Prop :=
  socket.localPort = key.sourcePort ∧
  (socket.remotePort = key.destinationPort ∨ socket.remotePort = 0) ∧
  (socket.localAddress = key.source ∨ socket.localAddress = wildcard key.version) ∧
  (socket.remoteAddress = key.destination ∨ socket.remoteAddress = wildcard key.version)

/-- What the table for a key says about the owner of its flow. -/
inductive SocketKey.Pass [HexDecoder] (files : TableFiles) (key : SocketKey) : Owner → Prop
  | noTable (htable : ConnectionTable.select? key.version key.protocol = none) :
      Pass files key .notFound
  | failed {table : ConnectionTable}
      (htable : ConnectionTable.select? key.version key.protocol = some table)
      (hfails : (files table).Fails key.version) : Pass files key .unavailable
  | unserved {table : ConnectionTable} {sockets : List Connection}
      (htable : ConnectionTable.select? key.version key.protocol = some table)
      (hholds : (files table).Holds key.version sockets)
      (hnone : ∀ socket ∈ sockets, ¬key.Serves socket) : Pass files key .notFound
  | served {table : ConnectionTable} {before after : List Connection} {socket : Connection}
      (htable : ConnectionTable.select? key.version key.protocol = some table)
      (hholds : (files table).Holds key.version (before ++ socket :: after))
      (hserves : key.Serves socket) (hlast : ∀ later ∈ after, ¬key.Serves later) :
      Pass files key (.uid socket.uid)

/-- What the tables say about the owner of a flow: only where the IPv6 table knows nothing about
an IPv4 flow does the IPv4 table count. -/
inductive FlowQuery.Attribution [HexDecoder] (files : TableFiles) (query : FlowQuery) : Owner → Prop
  | six {owner : Owner} (hpass : (SocketKey.ofQuery .v6 query).Pass files owner)
      (hfinal : query.version = .v4 → owner ≠ .notFound) : Attribution files query owner
  | four {owner : Owner} (hversion : query.version = .v4)
      (hsix : (SocketKey.ofQuery .v6 query).Pass files .notFound)
      (hfour : (SocketKey.ofQuery .v4 query).Pass files owner) : Attribution files query owner

theorem getLast?_filter_eq_some_iff {α : Type} {p : α → Bool} {l : List α} {a : α} :
    (l.filter p).getLast? = some a ↔
      ∃ before after, l = before ++ a :: after ∧ p a = true ∧ ∀ b ∈ after, p b = false := by
  rw [List.getLast?_eq_head?_reverse, ← List.filter_reverse, List.head?_filter,
    List.find?_eq_some_iff_append]
  constructor
  · rintro ⟨ha, after, before, hsplit, hlast⟩
    refine ⟨before.reverse, after.reverse, ?_, ha, ?_⟩
    · simpa using congrArg List.reverse hsplit
    · intro b hb
      simpa using hlast b (List.mem_reverse.1 hb)
  · rintro ⟨before, after, rfl, ha, hlast⟩
    refine ⟨ha, after.reverse, before.reverse, by simp, ?_⟩
    intro b hb
    simpa using hlast b (List.mem_reverse.1 hb)

theorem SocketKey.serves_iff {key : SocketKey} {socket : Connection} :
    key.Serves socket ↔ key.matchesSocket socket = true :=
  matchesSocket_iff.symm

namespace Listing

variable [HexDecoder] {version : IpVersion} {content : FileState} {key : SocketKey}
  {listing : Listing}

theorem ofLines_map_ok {number : Nat} (hnumber : 1 < number) {lines : List String}
    {sockets : List Connection}
    (h : lines.mapIdx (fun i line => Connection.read version (i + number) line) =
      sockets.map .ok) :
    ofLines version number (lines.map .ok) = ⟨sockets, true⟩ := by
  have hend : Halts version (lines.length + number) [] := nofun
  simpa using ofLines_append hnumber h hend

theorem exists_lines_of_intact {number : Nat} (hnumber : 1 < number)
    {lines : List (Except IoFailure String)}
    (h : (ofLines version number lines).intact = true) :
    ∃ texts : List String, lines = texts.map .ok ∧
      texts.mapIdx (fun i line => Connection.read version (i + number) line) =
        (ofLines version number lines).sockets.map .ok := by
  obtain ⟨texts, rest, hlines, hread, hend⟩ := exists_ofLines_append version hnumber lines
  have hlisting := ofLines_append hnumber hread hend
  rw [← hlines] at hlisting
  rw [hlisting] at h
  have hrest : rest = [] := List.isEmpty_iff.1 h
  rw [hrest, List.append_nil] at hlines
  exact ⟨texts, hlines, hread⟩

theorem intact_eq_false_iff {number : Nat} (hnumber : 1 < number)
    {lines : List (Except IoFailure String)} :
    (ofLines version number lines).intact = false ↔
      (∃ failure, .error failure ∈ lines) ∨
        ∃ i line e, lines[i]? = some (.ok line) ∧
          Connection.read version (i + number) line = .error e := by
  induction lines generalizing number with
  | nil => simp [ofLines]
  | cons first rest ih =>
    cases first with
    | error failure => simp [ofLines]
    | ok line =>
      have hne : number ≠ 1 := by omega
      cases hread : Connection.read version number line with
      | error e =>
        simp only [ofLines, if_neg hne, hread, true_iff]
        exact .inr ⟨0, line, e, rfl, by rwa [Nat.zero_add]⟩
      | ok socket =>
        simp only [ofLines, if_neg hne, hread]
        rw [ih (Nat.lt_succ_of_lt hnumber)]
        refine or_congr (by simp) ⟨?_, ?_⟩
        · rintro ⟨i, text, e, htext, he⟩
          exact ⟨i + 1, text, e, htext, by rwa [Nat.succ_add_eq_add_succ]⟩
        · rintro ⟨i, text, e, htext, he⟩
          cases i with
          | zero =>
            obtain rfl : line = text := by simpa using htext
            rw [Nat.zero_add, hread] at he
            cases he
          | succ i => exact ⟨i, text, e, htext, by rwa [Nat.succ_add_eq_add_succ] at he⟩

theorem of?_of_holds {sockets : List Connection} (h : content.Holds version sockets) :
    of? version content = some ⟨sockets, true⟩ := by
  obtain ⟨lines, hlines, hsockets⟩ := h
  rw [of?, hlines]
  cases lines with
  | nil =>
    have hnone : sockets = [] := by simpa using hsockets
    rw [hnone]
    rfl
  | cons heading lines =>
    have hrest : ofLines version 2 (lines.map .ok) = ⟨sockets, true⟩ :=
      ofLines_map_ok (by decide) hsockets
    simp only [List.map_cons, ofLines, if_true, hrest]

theorem holds_of_intact (hlisting : of? version content = some listing)
    (hintact : listing.intact = true) : content.Holds version listing.sockets := by
  unfold of? at hlisting
  cases hlines : content.readLines with
  | error failure =>
    rw [hlines] at hlisting
    cases hlisting
  | ok lines =>
    rw [hlines] at hlisting
    obtain rfl := Option.some.inj hlisting
    cases lines with
    | nil => exact ⟨[], hlines, rfl⟩
    | cons first rest =>
      cases first with
      | error failure => cases hintact
      | ok heading =>
        simp only [ofLines, if_true] at hintact ⊢
        obtain ⟨texts, rfl, htexts⟩ := exists_lines_of_intact (by decide) hintact
        exact ⟨heading :: texts, hlines, htexts⟩

theorem fails_iff : content.Fails version ↔
    ∀ listing, of? version content = some listing → listing.intact = false := by
  unfold of?
  constructor
  · intro h listing hlisting
    cases h with
    | unopened hlines => simp [hlines] at hlisting
    | @unreadable lines failure hlines hline =>
      simp only [hlines, Option.some.injEq] at hlisting
      subst hlisting
      cases lines with
      | nil => cases hline
      | cons first rest =>
        cases first with
        | error failure => rfl
        | ok heading =>
          simp only [ofLines, if_true]
          refine (intact_eq_false_iff (by decide)).2 (.inl ⟨failure, ?_⟩)
          simpa using hline
    | @malformed lines i line e hlines hline hread =>
      simp only [hlines, Option.some.injEq] at hlisting
      subst hlisting
      cases lines with
      | nil => cases hline
      | cons first rest =>
        cases first with
        | error failure => rfl
        | ok heading =>
          simp only [ofLines, if_true]
          exact (intact_eq_false_iff (by decide)).2 (.inr ⟨i, line, e, by simpa using hline, hread⟩)
  · intro h
    cases hlines : content.readLines with
    | error failure => exact .unopened hlines
    | ok lines =>
      have hbroken := h (ofLines version 1 lines) (by rw [hlines])
      cases lines with
      | nil => cases hbroken
      | cons first rest =>
        cases first with
        | error failure => exact .unreadable hlines List.mem_cons_self
        | ok heading =>
          simp only [ofLines, if_true] at hbroken
          rcases (intact_eq_false_iff (by decide)).1 hbroken with
            ⟨failure, hline⟩ | ⟨i, line, e, hline, hread⟩
          · exact .unreadable hlines (List.mem_cons_of_mem _ hline)
          · exact .malformed hlines hline hread

omit [HexDecoder] in
theorem answer_of_intact (hintact : listing.intact = true) :
    listing.answer key =
      match (listing.sockets.filter key.matchesSocket).getLast? with
      | some socket => .uid socket.uid
      | none => .notFound := by
  unfold answer
  exact if_pos hintact

end Listing

namespace SocketKey

variable [HexDecoder] {files : TableFiles} {key : SocketKey} {owner : Owner}

theorem reading_of_select? {table : ConnectionTable}
    (htable : ConnectionTable.select? key.version key.protocol = some table) :
    key.reading files =
      match Listing.of? key.version (files table) with
      | none => .unavailable
      | some listing => listing.answer key := by
  have hfiles : Listing.ofFiles? files key.version key.protocol =
      Listing.of? key.version (files table) := Listing.ofFiles?_of_select? htable
  cases hlisting : Listing.of? key.version (files table) with
  | none => simp only [reading, htable, hfiles, hlisting]
  | some listing => simp only [reading, htable, hfiles, hlisting]

theorem Pass.reading_eq (h : key.Pass files owner) : key.reading files = owner := by
  cases h with
  | noTable htable => rw [reading, htable]
  | failed htable hfails =>
    rw [reading_of_select? htable]
    cases hlisting : Listing.of? key.version _ with
    | none => rfl
    | some listing =>
      have hbroken := Listing.fails_iff.1 hfails listing hlisting
      simp [Listing.answer, hbroken]
  | @unserved table sockets htable hholds hnone =>
    have hfilter : sockets.filter key.matchesSocket = [] := by
      rw [List.filter_eq_nil_iff]
      intro socket hsocket
      rw [← serves_iff]
      exact hnone socket hsocket
    rw [reading_of_select? htable, Listing.of?_of_holds hholds]
    simp only [Listing.answer_of_intact, hfilter, List.getLast?_nil]
  | @served table before after socket htable hholds hserves hlast =>
    have hfound : ((before ++ socket :: after).filter key.matchesSocket).getLast? =
        some socket := by
      refine getLast?_filter_eq_some_iff.2 ⟨before, after, rfl, serves_iff.1 hserves, ?_⟩
      intro later hlater
      rw [Bool.eq_false_iff]
      exact mt serves_iff.2 (hlast later hlater)
    rw [reading_of_select? htable, Listing.of?_of_holds hholds]
    simp only [Listing.answer_of_intact, hfound]

theorem pass_reading (files : TableFiles) (key : SocketKey) :
    key.Pass files (key.reading files) := by
  cases htable : ConnectionTable.select? key.version key.protocol with
  | none =>
    rw [reading, htable]
    exact .noTable htable
  | some table =>
    rw [reading_of_select? htable]
    cases hlisting : Listing.of? key.version (files table) with
    | none =>
      refine .failed htable (Listing.fails_iff.2 ?_)
      rw [hlisting]
      nofun
    | some listing =>
      cases hintact : listing.intact with
      | false =>
        have hfails : (files table).Fails key.version := by
          rw [Listing.fails_iff, hlisting]
          rintro other ⟨⟩
          exact hintact
        simp only [Listing.answer, hintact]
        exact .failed htable hfails
      | true =>
        have hholds := Listing.holds_of_intact hlisting hintact
        simp only [Listing.answer_of_intact hintact]
        cases hlast : (listing.sockets.filter key.matchesSocket).getLast? with
        | none =>
          refine .unserved htable hholds ?_
          intro socket hsocket
          rw [serves_iff]
          exact List.filter_eq_nil_iff.1 (List.getLast?_eq_none_iff.1 hlast) socket hsocket
        | some socket =>
          obtain ⟨before, after, hsplit, hserves, hafter⟩ := getLast?_filter_eq_some_iff.1 hlast
          rw [hsplit] at hholds
          refine .served htable hholds (serves_iff.2 hserves) ?_
          intro later hlater
          rw [serves_iff, hafter later hlater]
          exact Bool.false_ne_true

theorem pass_iff : key.Pass files owner ↔ key.reading files = owner := by
  constructor
  · exact Pass.reading_eq
  · rintro rfl
    exact pass_reading files key

end SocketKey

theorem FlowQuery.attribution_iff [HexDecoder] {files : TableFiles} {query : FlowQuery}
    {owner : Owner} :
    query.Attribution files owner ↔ query.reading files = owner := by
  unfold reading
  constructor
  · intro h
    cases h with
    | six hpass hfinal =>
      rw [SocketKey.pass_iff] at hpass
      subst hpass
      split
      · rename_i hversion hnotFound
        exact absurd hnotFound (hfinal hversion)
      · rfl
    | four hversion hsix hfour =>
      rw [SocketKey.pass_iff] at hsix hfour
      simp only [hversion, hsix]
      exact hfour
  · rintro rfl
    split
    · rename_i hversion hnotFound
      exact .four hversion (SocketKey.pass_iff.2 hnotFound) (SocketKey.pass_reading files _)
    · rename_i hother
      exact .six (SocketKey.pass_reading files _) hother

namespace Ledger

variable [HexDecoder] {files : TableFiles} {now : Nat} {key : SocketKey} {l l' : Ledger}
  {answer : Owner}

/-- No fresh entry is of this version. -/
def ColdFor (version : IpVersion) (now : Nat) (l : Ledger) : Prop :=
  ∀ entry ∈ l.cache.entries, entry.isFresh now l.cache.ttl = true → entry.version ≠ version

omit [HexDecoder] in
theorem ColdFor.find?_eq_none (h : l.ColdFor key.version now) : l.cache.find? now key = none := by
  cases hfind : l.cache.find? now key with
  | none => rfl
  | some entry =>
    obtain ⟨hmem, hfresh, hversion, -⟩ := OwnerCache.find?_eq_some hfind
    exact absurd hversion (h entry hmem hfresh)

/-- The entries that a lookup leaves behind are of its own version. -/
theorem LookupCourse.coldFor (h : LookupCourse files now key l answer l') {version : IpVersion}
    (hcold : l.ColdFor version now) (hne : key.version ≠ version) : l'.ColdFor version now := by
  cases h with
  | hit entry hfind => exact hcold
  | noTable hfind htable => exact hcold
  | noFile hfind table htable hfile => exact hcold
  | read hfind table htable listing hfile =>
    intro entry hentry hfresh
    rcases Scan.mem_refill hentry with hold | hnew
    · exact hcold entry hold hfresh
    · obtain ⟨socket, -, rfl⟩ := List.mem_map.1 hnew
      exact hne

theorem ColdFor.lookup_eq_reading (h : l.ColdFor key.version now) (files : TableFiles) :
    (l.cache.lookup files now key).1 = key.reading files :=
  (lookup_course files now key l).answer_eq_reading h.find?_eq_none

theorem resolve_eq_reading_of_coldFor (hcold : ∀ version, l.ColdFor version now)
    (files : TableFiles) (query : FlowQuery) :
    (l.cache.resolve files now query).1 = query.reading files := by
  have hsix : (l.cache.lookup files now (.ofQuery .v6 query)).1 =
      (SocketKey.ofQuery .v6 query).reading files := (hcold .v6).lookup_eq_reading files
  rcases resolve_cases files now query l with ⟨hkind, hone, -⟩ | ⟨hversion, hnone, htwo, -⟩
  · rw [hone, hsix, FlowQuery.reading]
    split
    · rename_i hversion hnotFound
      exact absurd (hsix.trans hnotFound) (hkind hversion)
    · rfl
  · have hnext : (l.afterLookup files now (.ofQuery .v6 query)).ColdFor .v4 now :=
      (lookup_course files now (.ofQuery .v6 query) l).coldFor (hcold .v4)
        (ofQuery_version_ne query)
    rw [htwo, hnext.lookup_eq_reading files, FlowQuery.reading, hversion, ← hsix, hnone]

end Ledger

namespace OwnerCache

variable [HexDecoder] {files other : TableFiles} {now : Nat} {key : SocketKey}
  {cache : OwnerCache}

theorem lookup_congr_of_select?
    (h : ∀ table, ConnectionTable.select? key.version key.protocol = some table →
      other table = files table) :
    cache.lookup other now key = cache.lookup files now key := by
  unfold lookup
  cases cache.find? now key with
  | some entry => rfl
  | none =>
    cases htable : ConnectionTable.select? key.version key.protocol with
    | none => rfl
    | some table => simp only [scan, h table htable]

theorem lookup_congr (h : ∀ table, table.version = key.version → other table = files table) :
    cache.lookup other now key = cache.lookup files now key := by
  apply lookup_congr_of_select?
  intro table htable
  exact h table (ConnectionTable.select?_eq_some_iff.1 htable).1.symm

/-- A question that the first lookup answers is that lookup. -/
theorem resolve_eq_lookup {query : FlowQuery}
    (h : (cache.lookup files now (.ofQuery .v6 query)).1 ≠ .notFound) :
    cache.resolve files now query = cache.lookup files now (.ofQuery .v6 query) := by
  unfold resolve
  cases query.version with
  | v6 => rfl
  | v4 =>
    cases hlookup : cache.lookup files now (.ofQuery .v6 query) with
    | mk answer next =>
      rw [hlookup] at h
      cases answer with
      | notFound => exact absurd rfl h
      | uid id => rfl
      | unavailable => rfl
      | notLooked => rfl

/-- Without a fresh entry, a question is answered with what the tables say. If the IPv6 table
is of no use, nothing else is looked at: with any other IPv4 tables the answer and the cache
behind it are the same. -/
theorem resolve_of_no_fresh_entry (cache : OwnerCache) (files : TableFiles) (now : Nat)
    (query : FlowQuery)
    (hcold : ∀ entry ∈ cache.entries, entry.isFresh now cache.ttl = false) :
    (∀ owner, (cache.resolve files now query).1 = owner ↔ query.Attribution files owner) ∧
      ((SocketKey.ofQuery .v6 query).Pass files .unavailable →
        ∀ other : TableFiles, (∀ table, table.version = .v6 → other table = files table) →
          cache.resolve other now query = cache.resolve files now query) := by
  have hledger (version : IpVersion) : Ledger.ColdFor version now ⟨cache, []⟩ := by
    intro entry hentry hfresh
    rw [hcold entry hentry] at hfresh
    cases hfresh
  constructor
  · intro owner
    rw [FlowQuery.attribution_iff]
    have hreading : (cache.resolve files now query).1 = query.reading files :=
      Ledger.resolve_eq_reading_of_coldFor hledger files query
    rw [hreading]
  · intro hpass other hsame
    have hsix : Ledger.ColdFor (SocketKey.ofQuery .v6 query).version now ⟨cache, []⟩ := hledger .v6
    have hanswer : (cache.lookup files now (.ofQuery .v6 query)).1 = .unavailable := by
      rw [← SocketKey.pass_iff.1 hpass]
      exact hsix.lookup_eq_reading files
    have hlookup : cache.lookup other now (.ofQuery .v6 query) =
        cache.lookup files now (.ofQuery .v6 query) := lookup_congr hsame
    have hother : (cache.lookup other now (.ofQuery .v6 query)).1 ≠ .notFound := by
      rw [hlookup, hanswer]
      nofun
    have hfirst : (cache.lookup files now (.ofQuery .v6 query)).1 ≠ .notFound := by
      rw [hanswer]
      nofun
    rw [resolve_eq_lookup hother, resolve_eq_lookup hfirst, hlookup]

end OwnerCache

namespace OwnerCache

/-- The socket of a ping by uid 111, kept at moment 0 for no longer than 10 milliseconds. -/
def staleCache : OwnerCache where
  ttl := 10
  root := "net"
  entries := [⟨.v4, .icmp, ⟨IPv4.mapped ⟨10, 0, 0, 1⟩, 9, IPv4.unspecified.mapped, 0, 111⟩, 0⟩]

/-- A TCP connection from 10.0.0.1. -/
def webQuery : FlowQuery :=
  ⟨.v4, .tcp, .v4 ⟨10, 0, 0, 1⟩, 9, .v4 ⟨192, 0, 2, 1⟩, 443⟩

/-- Only the IPv4 table of TCP is there, with one socket of uid 7. -/
def webFiles : TableFiles
  | .tcp => .regular (Utf8.encode "head\n0 0100000A:0009 00000000:0000 3 4 5 6 7\n")
  | _ => .absent

theorem resolve_of_no_fresh_entry_stale :
    (∀ entry ∈ staleCache.entries, entry.isFresh 11 staleCache.ttl = false) ∧
      Ledger.pingQuery.Attribution Ledger.twoOwnerFiles (.uid 222) ∧
      (SocketKey.ofQuery .v6 webQuery).Pass (fun _ => .absent) .unavailable ∧
      staleCache.resolve webFiles 11 webQuery =
        staleCache.resolve (fun _ => .absent) 11 webQuery := by
  have hcold : ∀ entry ∈ staleCache.entries, entry.isFresh 11 staleCache.ttl = false := by decide
  have hping : (staleCache.resolve Ledger.twoOwnerFiles 11 Ledger.pingQuery).1 = .uid 222 := by
    decide +kernel
  have hpass : (SocketKey.ofQuery .v6 webQuery).Pass (fun _ => .absent) .unavailable :=
    .failed rfl (.unopened rfl)
  have hsame : ∀ table : ConnectionTable, table.version = .v6 → webFiles table = .absent := by
    intro table hversion
    cases table with
    | tcp6 | udp6 | icmp6 => rfl
    | tcp | udp | icmp => cases hversion
  refine ⟨hcold, ?_, hpass, ?_⟩
  · exact ((resolve_of_no_fresh_entry staleCache Ledger.twoOwnerFiles 11 Ledger.pingQuery hcold).1
      (.uid 222)).1 hping
  · exact (resolve_of_no_fresh_entry staleCache (fun _ => .absent) 11 webQuery hcold).2 hpass
      webFiles hsame

end OwnerCache

end TunnelFirewall
