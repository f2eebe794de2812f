import TunnelFirewall.Proofs.Owner.Placement
import TunnelFirewall.Proofs.Owner.Warm

/-!
# Readings that break off

When a line of a table cannot be read or understood, the question is answered with nothing, but
the sockets of the lines before that line stay where the reading has put them. So the entries are
as they were only if there is no such socket, and a later question may be answered from the table
that was of no use.
-/
namespace TunnelFirewall

/-- New entries that are all fresh leave a trace wherever they go. -/
theorem Scan.refill_eq_self_iff {now ttl : Nat} {entries new : List CacheEntry}
    (hfresh : ∀ entry ∈ new, entry.isFresh now ttl = true) :
    refill now ttl entries new = entries ↔ new = [] := by
  fun_induction refill now ttl entries new with
  | case1 entries => simp
  | case2 new => exact Iff.rfl
  | case3 first entries second new hfirst ih =>
    rw [List.cons.injEq, ih hfresh]
    simp
  | case4 first entries second new hstale ih =>
    have hne : second ≠ first := by
      rintro rfl
      exact hstale (hfresh second List.mem_cons_self)
    simp [hne]

namespace Ledger

variable [HexDecoder] {files : TableFiles} {now : Nat} {key : SocketKey} {l l' : Ledger}

/-- A lookup without use has gone to a table that fails, and keeps what was taken in before. -/
theorem LookupCourse.of_unavailable (h : LookupCourse files now key l .unavailable l') :
    ∃ table, ConnectionTable.select? key.version key.protocol = some table ∧
      (files table).Fails key.version ∧
      l'.cache.entries = Scan.refill now l.cache.ttl l.cache.entries
        ((Listing.taken key.version (files table)).map (key.entry now)) := by
  generalize hanswer : Owner.unavailable = answer at h
  cases h with
  | hit entry hfind => cases hanswer
  | noTable hfind htable => cases hanswer
  | noFile hfind table htable hfile =>
    refine ⟨table, htable, ?_, ?_⟩
    · rw [Listing.fails_iff, hfile]
      nofun
    · simp only [Listing.taken, hfile, List.map_nil, Scan.refill_nil]
  | read hfind table htable listing hfile =>
    refine ⟨table, htable, ?_, ?_⟩
    · rw [Listing.fails_iff, hfile]
      rintro other ⟨⟩
      cases hintact : listing.intact with
      | false => rfl
      | true =>
        rw [Listing.answer_of_intact hintact] at hanswer
        split at hanswer <;> cases hanswer
    · simp only [Listing.taken, hfile]

end Ledger

namespace OwnerCache

variable {files : TableFiles} {now : Nat} {query : FlowQuery} {cache : OwnerCache}

section

variable [HexDecoder]

theorem resolve_of_v6 (hversion : query.version = .v6) :
    cache.resolve files now query = cache.lookup files now (.ofQuery .v6 query) := by
  unfold resolve
  rw [hversion]

/-- A fresh entry among the IPv6 sockets answers a question about a flow that it serves, whatever
the tables say. -/
theorem exists_uid_of_entry {later : Nat} {other : FlowQuery} {entry : CacheEntry}
    (hmem : entry ∈ cache.entries) (hfresh : entry.isFresh later cache.ttl = true)
    (hversion : entry.version = .v6) (hprotocol : entry.protocol = other.protocol)
    (hserves : (SocketKey.ofQuery .v6 other).Serves entry.socket) :
    ∃ id, (cache.resolve files later other).1 = .uid id := by
  have hanswers : entry.Answers later cache.ttl (.ofQuery .v6 other) :=
    ⟨CacheEntry.isFresh_iff.1 hfresh, hversion, hprotocol, hserves⟩
  obtain ⟨first, hfirst⟩ := exists_firstAnswer ⟨entry, hmem, hanswers⟩
  have hsix : cache.Makes files later other (.ofQuery .v6 other) cache := .six
  exact ⟨first.socket.uid, by rw [hsix.answer_eq hfirst]; rfl⟩

/-- A question about an IPv6 flow to which a table is of no use leaves the entries as a reading of
the lines before the first bad one does: they are as they were exactly if nothing was taken in
from those lines. What was taken in answers later questions as long as it is fresh. -/
theorem placement_of_unavailable (hversion : query.version = .v6)
    (hanswer : (cache.resolve files now query).1 = .unavailable) :
    let key := SocketKey.ofQuery .v6 query
    let after := (cache.resolve files now query).2
    ∃ (table : ConnectionTable) (sockets : List Connection),
      ConnectionTable.select? .v6 query.protocol = some table ∧
        (files table).Fails .v6 ∧ (files table).Yields .v6 sockets ∧
        Scan.Placement now cache.ttl cache.entries (sockets.map (key.entry now)) after.entries ∧
        (after.entries = cache.entries ↔ sockets = []) ∧
        ∀ socket ∈ sockets, ∀ (others : TableFiles) (later : Nat) (other : FlowQuery),
          later - now ≤ cache.ttl → other.protocol = query.protocol →
            (SocketKey.ofQuery .v6 other).Serves socket →
              ∃ id, (after.resolve others later other).1 = .uid id := by
  intro key after
  have hcourse := Ledger.lookup_course files now key ⟨cache, []⟩
  have hlookup : (cache.lookup files now key).1 = .unavailable := by
    rw [← hanswer, resolve_of_v6 hversion]
  rw [hlookup] at hcourse
  have hcache : (Ledger.afterLookup files now key ⟨cache, []⟩).cache = after := by
    show (cache.lookup files now key).2 = (cache.resolve files now query).2
    rw [resolve_of_v6 hversion]
  obtain ⟨table, htable, hfails, hentries⟩ := hcourse.of_unavailable
  have httl := hcourse.ttl_eq
  rw [hcache] at hentries httl
  have hfresh : ∀ entry ∈ (Listing.taken .v6 (files table)).map (key.entry now),
      entry.isFresh now cache.ttl = true := by
    intro entry hentry
    obtain ⟨socket, -, rfl⟩ := List.mem_map.1 hentry
    exact key.isFresh_entry now cache.ttl socket
  refine ⟨table, Listing.taken .v6 (files table), htable, hfails, Listing.yields_iff.2 rfl, ?_, ?_,
    ?_⟩
  · rw [hentries]
    exact Scan.placement_refill now cache.ttl cache.entries _
  · rw [hentries, ← List.map_eq_nil_iff]
    exact Scan.refill_eq_self_iff hfresh
  · intro socket hsocket others later other hlater hprotocol hserves
    have hmem : key.entry now socket ∈ after.entries := by
      rw [hentries]
      exact Scan.mem_refill_of_taken (List.mem_map_of_mem hsocket)
    refine exists_uid_of_entry hmem ?_ rfl hprotocol.symm hserves
    rw [CacheEntry.isFresh_iff, httl]
    exact hlater

end

/-- A socket of uid 7 that receives multicast DNS at any IPv6 address. -/
def sixListener : Connection := ⟨.unspecified, 5353, .unspecified, 0, 7⟩

/-- Only the IPv6 table of UDP is there, with the line of this socket in front of a bad one. -/
def brokenSixFiles : TableFiles
  | .udp6 => .regular (Utf8.encode ("head\n" ++
      "0 00000000000000000000000000000000:14E9 00000000000000000000000000000000:0000 3 4 5 6 7\n" ++
      "1 garbage\n"))
  | _ => .absent

/-- A multicast DNS packet from `fd00::2` to `ff02::fb`. -/
def sixQuery : FlowQuery :=
  ⟨.v6, .udp, .v6 ⟨0xfd :: List.replicate 14 0 ++ [2], rfl⟩, 5353,
    .v6 ⟨0xff :: 2 :: List.replicate 13 0 ++ [0xfb], rfl⟩, 5353⟩

theorem of?_brokenSixFiles :
    Listing.of? .v6 (brokenSixFiles .udp6) = some ⟨[sixListener], false⟩ := by decide +kernel

theorem resolve_sixQuery (hfind : cache.find? now (.ofQuery .v6 sixQuery) = none) :
    (cache.resolve brokenSixFiles now sixQuery).1 = .unavailable ∧
      (cache.resolve brokenSixFiles now sixQuery).2.entries =
        Scan.refill now cache.ttl cache.entries [⟨.v6, .udp, sixListener, now⟩] := by
  have htable : ConnectionTable.select? (SocketKey.ofQuery .v6 sixQuery).version
      (SocketKey.ofQuery .v6 sixQuery).protocol = some .udp6 := rfl
  have hlisting : Listing.of? (SocketKey.ofQuery .v6 sixQuery).version (brokenSixFiles .udp6) =
      some ⟨[sixListener], false⟩ := of?_brokenSixFiles
  rw [resolve_of_v6 rfl, lookup, hfind]
  simp only [htable, scan_eq, hlisting]
  exact ⟨rfl, rfl⟩

/-- An entry of this socket is too old, and one of another protocol stands behind it. -/
def sixCache : OwnerCache where
  ttl := 10
  root := "net"
  entries := [⟨.v6, .udp, sixListener, 0⟩, ⟨.v6, .tcp, sixListener, 5⟩]

/-- The question that the bad line leaves without an answer has one the next time. -/
theorem placement_of_unavailable_six :
    sixQuery.version = .v6 ∧ (sixCache.resolve brokenSixFiles 11 sixQuery).1 = .unavailable ∧
      (sixCache.resolve brokenSixFiles 11 sixQuery).2.entries ≠ sixCache.entries ∧
      (∃ id, ((sixCache.resolve brokenSixFiles 11 sixQuery).2.resolve brokenSixFiles 21
        sixQuery).1 = .uid id) := by
  have hanswer : (sixCache.resolve brokenSixFiles 11 sixQuery).1 = .unavailable :=
    (resolve_sixQuery (by decide)).1
  obtain ⟨table, sockets, htable, -, hyields, -, hsame, hlater⟩ :=
    placement_of_unavailable rfl hanswer
  obtain rfl : ConnectionTable.udp6 = table := Option.some.inj htable
  obtain rfl : [sixListener] = sockets := by
    rw [← Listing.yields_iff.1 hyields, Listing.taken, of?_brokenSixFiles]
  refine ⟨rfl, hanswer, fun heq => List.cons_ne_nil _ _ (hsame.1 heq), ?_⟩
  exact hlater sixListener List.mem_cons_self brokenSixFiles 21 sixQuery (by decide) rfl
    ⟨rfl, .inr rfl, .inr rfl, .inr rfl⟩

/-- A reading that breaks off does not leave a new cache empty. -/
theorem exists_entries_ne_of_unavailable :
    ¬ ∀ (cache : OwnerCache) (files : TableFiles) (now : Nat) (query : FlowQuery),
      query.version = .v6 → (cache.resolve files now query).1 = .unavailable →
        (cache.resolve files now query).2.entries = cache.entries := by
  intro h
  let new : OwnerCache := { ttl := 10, root := "net" }
  have hfind : new.find? 0 (.ofQuery .v6 sixQuery) = none := rfl
  obtain ⟨hanswer, hentries⟩ := resolve_sixQuery hfind
  have hsame := h new brokenSixFiles 0 sixQuery rfl hanswer
  rw [hentries, Scan.refill_eq_self_iff (by decide)] at hsame
  cases hsame

end OwnerCache

end TunnelFirewall
