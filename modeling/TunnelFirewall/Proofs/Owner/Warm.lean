import TunnelFirewall.Proofs.Owner.Cold

/-!
# Questions to a warm cache

A question makes one pass over the entries for each version that it asks about. If a fresh entry
answers for the pass, the pass takes the first such entry and looks at no table, so its answer is
the same whatever the tables say. The pass over the IPv4 sockets may find the entries changed by a
reading of the IPv6 table before it, but not those that can answer for it.
-/
namespace TunnelFirewall

/-- The entry may still be used at the moment, and is about a socket that serves the key. -/
structure CacheEntry.Answers (now ttl : Nat) (key : SocketKey) (entry : CacheEntry) : Prop where
  fresh : now - entry.insertedAt ≤ ttl
  version : entry.version = key.version
  protocol : entry.protocol = key.protocol
  serves : key.Serves entry.socket

namespace Scan

variable {now ttl : Nat} {entries new : List CacheEntry} {p : CacheEntry → Bool}

/-- A refill does not change which entry is the first to pass a test, if only fresh entries pass it
and none of the new ones does. -/
theorem find?_refill (hfresh : ∀ entry, p entry = true → entry.isFresh now ttl = true)
    (hnew : ∀ entry ∈ new, p entry = false) :
    (refill now ttl entries new).find? p = entries.find? p := by
  fun_induction refill now ttl entries new with
  | case1 entries => rfl
  | case2 new =>
    rw [List.find?_nil, List.find?_eq_none]
    intro entry hentry
    simp [hnew entry hentry]
  | case3 first entries second new hfirst ih =>
    rw [List.find?_cons, List.find?_cons, ih hnew]
  | case4 first entries second new hstale ih =>
    have hold : p first = false := Bool.eq_false_iff.2 (mt (hfresh first) hstale)
    have hsecond : p second = false := hnew second List.mem_cons_self
    rw [List.find?_cons_of_neg (by simp [hsecond]), List.find?_cons_of_neg (by simp [hold])]
    exact ih fun entry hentry => hnew entry (List.mem_cons_of_mem _ hentry)

end Scan

/-- A lookup changes no entry that can answer for another version. -/
theorem Ledger.LookupCourse.find?_eq [HexDecoder] {files : TableFiles} {now : Nat}
    {key other : SocketKey} {l l' : Ledger} {answer : Owner}
    (h : LookupCourse files now key l answer l') (hne : key.version ≠ other.version) :
    l'.cache.find? now other = l.cache.find? now other := by
  cases h with
  | hit entry hfind => rfl
  | noTable hfind htable => rfl
  | noFile hfind table htable hfile => rfl
  | read hfind table htable listing hfile =>
    refine Scan.find?_refill ?_ ?_
    · intro entry hentry
      exact (Bool.and_eq_true_iff.1 hentry).1
    · intro entry hentry
      obtain ⟨socket, -, rfl⟩ := List.mem_map.1 hentry
      simp [SocketKey.matchesEntry, SocketKey.entry, hne]

namespace OwnerCache

/-- The entry is the first in slot order that answers for the key. -/
def FirstAnswer (now : Nat) (key : SocketKey) (cache : OwnerCache) (first : CacheEntry) : Prop :=
  ∃ before after, cache.entries = before ++ first :: after ∧ first.Answers now cache.ttl key ∧
    ∀ entry ∈ before, ¬entry.Answers now cache.ttl key

/-- The passes of a question: what is looked up, and the cache in which the pass begins. The IPv4
sockets have their turn only for an IPv4 flow that is not found among the IPv6 sockets. -/
inductive Makes [HexDecoder] (files : TableFiles) (now : Nat) (query : FlowQuery)
    (cache : OwnerCache) : SocketKey → OwnerCache → Prop
  | six : Makes files now query cache (.ofQuery .v6 query) cache
  | four (hversion : query.version = .v4)
      (hnotFound : (cache.lookup files now (.ofQuery .v6 query)).1 = .notFound) :
      Makes files now query cache (.ofQuery .v4 query)
        (cache.lookup files now (.ofQuery .v6 query)).2

/-- What a pass comes to that an entry answers: its owner, one more hit, and no other change. -/
def answeredBy (entry : CacheEntry) (cache : OwnerCache) : Owner × OwnerCache :=
  (.uid entry.socket.uid, { cache with hits := cache.hits + 1 })

variable {files : TableFiles} {now : Nat} {key other : SocketKey} {query : FlowQuery}
  {cache start : OwnerCache} {entry : CacheEntry}

theorem answers_iff {ttl : Nat} :
    entry.Answers now ttl key ↔ (entry.isFresh now ttl && key.matchesEntry entry) = true := by
  rw [Bool.and_eq_true, CacheEntry.isFresh_iff, SocketKey.matchesEntry, Bool.and_eq_true,
    Bool.and_eq_true, beq_iff_eq, beq_iff_eq, ← SocketKey.serves_iff]
  constructor
  · rintro ⟨hfresh, hversion, hprotocol, hserves⟩
    exact ⟨hfresh, ⟨hversion, hprotocol⟩, hserves⟩
  · rintro ⟨hfresh, ⟨hversion, hprotocol⟩, hserves⟩
    exact ⟨hfresh, hversion, hprotocol, hserves⟩

theorem firstAnswer_iff : cache.FirstAnswer now key entry ↔ cache.find? now key = some entry := by
  simp only [FirstAnswer, answers_iff, find?, List.find?_eq_some_iff_append, Bool.not_eq_true,
    Bool.not_eq_true']
  constructor
  · rintro ⟨before, after, hsplit, hentry, hbefore⟩
    exact ⟨hentry, before, after, hsplit, hbefore⟩
  · rintro ⟨hentry, before, after, hsplit, hbefore⟩
    exact ⟨before, after, hsplit, hentry, hbefore⟩

theorem exists_firstAnswer (h : ∃ entry ∈ cache.entries, entry.Answers now cache.ttl key) :
    ∃ first, cache.FirstAnswer now key first := by
  obtain ⟨entry, hmem, hentry⟩ := h
  have hfind : (cache.find? now key).isSome = true := by
    rw [find?, List.find?_isSome]
    exact ⟨entry, hmem, answers_iff.1 hentry⟩
  obtain ⟨first, hfirst⟩ := Option.isSome_iff_exists.1 hfind
  exact ⟨first, firstAnswer_iff.2 hfirst⟩

section

variable [HexDecoder]

/-- What can answer for a pass is what could at the start of the question. -/
theorem Makes.find?_eq (h : cache.Makes files now query key start) :
    start.find? now key = cache.find? now key := by
  cases h with
  | six => rfl
  | four hversion hnotFound =>
    exact (Ledger.lookup_course files now (.ofQuery .v6 query) ⟨cache, []⟩).find?_eq
      (Ledger.ofQuery_version_ne query)

theorem Makes.firstAnswer_iff (h : cache.Makes files now query key start) :
    start.FirstAnswer now key entry ↔ cache.FirstAnswer now key entry := by
  rw [OwnerCache.firstAnswer_iff, OwnerCache.firstAnswer_iff, h.find?_eq]

/-- A pass that finds an owner ends the question. -/
theorem Makes.resolve_eq (h : cache.Makes files now query key start)
    (hfound : (start.lookup files now key).1 ≠ .notFound) :
    cache.resolve files now query = start.lookup files now key := by
  cases h with
  | six => exact resolve_eq_lookup hfound
  | four hversion hnotFound =>
    unfold resolve
    rw [hversion]
    cases hlookup : cache.lookup files now (.ofQuery .v6 query) with
    | mk answer next =>
      rw [hlookup] at hnotFound
      obtain rfl : answer = .notFound := hnotFound
      rfl

theorem FirstAnswer.lookup_eq {first : CacheEntry} (h : cache.FirstAnswer now key first)
    (files : TableFiles) :
    cache.lookup files now key = cache.answeredBy first := by
  rw [lookup, firstAnswer_iff.1 h, answeredBy]

/-- A pass with a fresh entry that answers for it ends the question with the first such entry. -/
theorem Makes.answer_eq {first : CacheEntry} (h : cache.Makes files now query key start)
    (hfirst : cache.FirstAnswer now key first) :
    cache.resolve files now query = start.answeredBy first := by
  have hlookup := (h.firstAnswer_iff.2 hfirst).lookup_eq files
  rw [← hlookup]
  apply h.resolve_eq
  rw [hlookup]
  nofun

/-- With an entry that answers among the IPv4 sockets, no table but the IPv6 one of the protocol
can make a difference. -/
theorem resolve_congr_of_firstAnswer {first : CacheEntry} {others : TableFiles}
    (hversion : query.version = .v4) (hfirst : cache.FirstAnswer now (.ofQuery .v4 query) first)
    (hsame : ∀ table, ConnectionTable.select? .v6 query.protocol = some table →
      others table = files table) :
    cache.resolve others now query = cache.resolve files now query := by
  have hsix : cache.lookup others now (.ofQuery .v6 query) =
      cache.lookup files now (.ofQuery .v6 query) := lookup_congr_of_select? hsame
  by_cases hfound : (cache.lookup files now (.ofQuery .v6 query)).1 = .notFound
  · have hfound' : (cache.lookup others now (.ofQuery .v6 query)).1 = .notFound := by
      rw [hsix, hfound]
    rw [(Makes.four hversion hfound).answer_eq hfirst,
      (Makes.four hversion hfound').answer_eq hfirst, hsix]
  · have hfound' : (cache.lookup others now (.ofQuery .v6 query)).1 ≠ .notFound := by
      rwa [hsix]
    rw [resolve_eq_lookup hfound, resolve_eq_lookup hfound', hsix]

/-- If a fresh entry answers for a pass of a question, then that pass, with any tables to look at,
takes the first such entry, books a hit and changes nothing else, and the question ends with it;
under any other tables the pass, if it is made, takes the same entry. So with such an entry among
the IPv6 sockets no table matters, and with one among the IPv4 sockets no table but the IPv6 table
of the protocol. -/
theorem pass_of_fresh_entry (cache : OwnerCache) (now : Nat) (query : FlowQuery) :
    (∀ (files : TableFiles) (key : SocketKey) (start : OwnerCache),
      cache.Makes files now query key start →
      (∃ entry ∈ start.entries, entry.Answers now start.ttl key) →
      ∃ first, cache.FirstAnswer now key first ∧
        ∀ (others : TableFiles) (start' : OwnerCache), cache.Makes others now query key start' →
          start'.FirstAnswer now key first ∧
            (∀ tables, start'.lookup tables now key = start'.answeredBy first) ∧
            cache.resolve others now query = start'.answeredBy first) ∧
    ((∃ entry ∈ cache.entries, entry.Answers now cache.ttl (.ofQuery .v6 query)) →
      ∀ files others, cache.resolve others now query = cache.resolve files now query) ∧
    (query.version = .v4 →
      (∃ entry ∈ cache.entries, entry.Answers now cache.ttl (.ofQuery .v4 query)) →
      ∀ files others, (∀ table, ConnectionTable.select? .v6 query.protocol = some table →
          others table = files table) →
        cache.resolve others now query = cache.resolve files now query) := by
  refine ⟨?_, ?_, ?_⟩
  · intro files key start hstart hentry
    obtain ⟨first, hfirst⟩ := exists_firstAnswer hentry
    have hcache := hstart.firstAnswer_iff.1 hfirst
    refine ⟨first, hcache, ?_⟩
    intro others start' hstart'
    have hfirst' := hstart'.firstAnswer_iff.2 hcache
    exact ⟨hfirst', hfirst'.lookup_eq, hstart'.answer_eq hcache⟩
  · intro hentry files others
    obtain ⟨first, hfirst⟩ := exists_firstAnswer hentry
    have hsix (tables : TableFiles) :
        cache.Makes tables now query (.ofQuery .v6 query) cache := .six
    rw [(hsix files).answer_eq hfirst, (hsix others).answer_eq hfirst]
  · intro hversion hentry files others hsame
    obtain ⟨first, hfirst⟩ := exists_firstAnswer hentry
    exact resolve_congr_of_firstAnswer hversion hfirst hsame

end

/-- A multicast DNS packet from 10.0.0.1. -/
def dnsQuery : FlowQuery :=
  ⟨.v4, .udp, .v4 ⟨10, 0, 0, 1⟩, 5353, .v4 ⟨224, 0, 0, 251⟩, 5353⟩

/-- At moment 11 the first entry is too old, and the second, of an IPv4 socket that receives such
packets, is exactly as old as an entry may be. -/
def dnsCache : OwnerCache where
  ttl := 10
  root := "net"
  entries :=
    [⟨.v6, .udp, ⟨.unspecified, 53, .unspecified, 0, 7⟩, 0⟩,
      ⟨.v4, .udp, ⟨IPv4.unspecified.mapped, 5353, IPv4.unspecified.mapped, 0, 8⟩, 1⟩]

/-- A socket of uid 9 at another port. -/
def otherListener : Connection := ⟨.unspecified, 67, .unspecified, 0, 9⟩

/-- The IPv6 table of UDP lists this socket, which does not serve the packet; there is no other
table. -/
def dnsFiles : TableFiles
  | .udp6 => .regular (Utf8.encode ("head\n" ++
      "0 00000000000000000000000000000000:0043 00000000000000000000000000000000:0000 3 4 5 6 9\n"))
  | _ => .absent

theorem of?_dnsFiles : Listing.of? .v6 (dnsFiles .udp6) = some ⟨[otherListener], true⟩ := by
  decide +kernel

/-- The socket takes the slot of the first entry. -/
theorem lookup_dnsQuery :
    dnsCache.lookup dnsFiles 11 (.ofQuery .v6 dnsQuery) =
      (.notFound, { dnsCache with
        entries := ⟨.v6, .udp, otherListener, 11⟩ :: dnsCache.entries.tail
        misses := 1
        scans := 1 }) := by
  have hfind : dnsCache.find? 11 (.ofQuery .v6 dnsQuery) = none := by decide +kernel
  have htable : ConnectionTable.select? (SocketKey.ofQuery .v6 dnsQuery).version
      (SocketKey.ofQuery .v6 dnsQuery).protocol = some .udp6 := rfl
  have hlisting : Listing.of? (SocketKey.ofQuery .v6 dnsQuery).version (dnsFiles .udp6) =
      some ⟨[otherListener], true⟩ := of?_dnsFiles
  rw [lookup, hfind]
  simp only [htable, scan_eq, hlisting]
  rfl

/-- After the reading of the IPv6 table the second entry answers, although its own table is gone. -/
theorem pass_of_fresh_entry_dns :
    let start := (dnsCache.lookup dnsFiles 11 (.ofQuery .v6 dnsQuery)).2
    start.entries ≠ dnsCache.entries ∧
      dnsCache.Makes dnsFiles 11 dnsQuery (.ofQuery .v4 dnsQuery) start ∧
      (∃ entry ∈ start.entries, entry.Answers 11 start.ttl (.ofQuery .v4 dnsQuery)) ∧
      (dnsCache.resolve dnsFiles 11 dnsQuery).1 = .uid 8 := by
  intro start
  have hstart : start = _ := congrArg Prod.snd lookup_dnsQuery
  have hmakes : dnsCache.Makes dnsFiles 11 dnsQuery (.ofQuery .v4 dnsQuery) start :=
    .four rfl (congrArg Prod.fst lookup_dnsQuery)
  have hanswers : ∃ entry ∈ start.entries, entry.Answers 11 start.ttl (.ofQuery .v4 dnsQuery) := by
    rw [hstart]
    refine ⟨_, List.mem_cons_of_mem _ List.mem_cons_self, ?_⟩
    exact ⟨by decide +kernel, rfl, rfl, rfl, .inr rfl, .inr rfl, .inr rfl⟩
  obtain ⟨first, hfirst, hpass⟩ :=
    (pass_of_fresh_entry dnsCache 11 dnsQuery).1 dnsFiles _ start hmakes hanswers
  obtain ⟨-, -, hresolve⟩ := hpass dnsFiles start hmakes
  have hfind : (dnsCache.find? 11 (.ofQuery .v4 dnsQuery)).map (·.socket.uid) = some 8 := by
    decide +kernel
  rw [firstAnswer_iff.1 hfirst] at hfind
  refine ⟨?_, hmakes, hanswers, ?_⟩
  · rw [hstart]
    decide
  · rw [hresolve]
    exact congrArg Owner.uid (Option.some.inj hfind)

end OwnerCache

end TunnelFirewall
