import TunnelFirewall.Proofs.Owner.Attribution

/-!
# The accounts of the owner cache

A question makes one or two lookups, and each is booked as a hit or as a miss. A table is read
only on a miss, and an owner comes from a hit or from a reading, so the numbers booked bound each
other and the owners named. The counters hold these numbers as far as 64 bits go, and with fewer
than 2 ^ 63 questions they hold them all. No answer depends on the counters.
-/
namespace TunnelFirewall

theorem Owner.isSome_uid?_iff {owner : Owner} :
    owner.uid?.isSome = true ↔ ∃ id, owner = .uid id := by
  cases owner <;> simp [uid?]

namespace OwnerCache

section

variable [HexDecoder]

def after (cache : OwnerCache) : CacheEvent → OwnerCache
  | .resolve files now query => (cache.resolve files now query).2
  | .reset => cache.reset

def answer? (cache : OwnerCache) : CacheEvent → Option Owner
  | .resolve files now query => some (cache.resolve files now query).1
  | .reset => none

/-- The cache after a run. -/
def run (cache : OwnerCache) (events : List CacheEvent) : OwnerCache := events.foldl after cache

/-- The answers to the questions of a run, in order. -/
def answers (cache : OwnerCache) : List CacheEvent → List Owner
  | [] => []
  | event :: events => (cache.answer? event).toList ++ (cache.after event).answers events

/-- The owners that a run names, in order. -/
def ownersNamed (cache : OwnerCache) (events : List CacheEvent) : List UInt32 :=
  (cache.answers events).filterMap Owner.uid?

end

/-- How many hits, misses and scans were booked. -/
structure Tally where
  hits : Nat
  misses : Nat
  scans : Nat

def Tally.add (t u : Tally) : Tally := ⟨t.hits + u.hits, t.misses + u.misses, t.scans + u.scans⟩

/-- The counters have gone up by what was booked, as far as 64 bits go. -/
structure Counts (before : OwnerCache) (t : Tally) (after : OwnerCache) : Prop where
  hits : after.hits = before.hits + UInt64.ofNat t.hits
  misses : after.misses = before.misses + UInt64.ofNat t.misses
  scans : after.scans = before.scans + UInt64.ofNat t.scans

/-- What a number of lookups with one answer can book, and change about the slots. -/
structure Books (lookups : Nat) (before : OwnerCache) (answer : Owner) (t : Tally)
    (after : OwnerCache) : Prop where
  counts : Counts before t after
  booked : t.hits + t.misses = lookups
  hits_le : t.hits ≤ 1
  scans_le : t.scans ≤ t.misses
  hit_named : t.hits = 0 ∨ answer.uid?.isSome = true
  named : answer.uid?.isSome = true → 0 < t.hits + t.scans
  slots : before.entries.length ≤ after.entries.length

variable {before middle after : OwnerCache} {answer : Owner} {t u : Tally}

theorem counts_zero (cache : OwnerCache) : Counts cache ⟨0, 0, 0⟩ cache :=
  ⟨(UInt64.add_zero _).symm, (UInt64.add_zero _).symm, (UInt64.add_zero _).symm⟩

theorem Counts.trans (hfirst : Counts before t middle) (hsecond : Counts middle u after) :
    Counts before (t.add u) after where
  hits := by rw [hsecond.hits, hfirst.hits, UInt64.add_assoc, Tally.add, UInt64.ofNat_add]
  misses := by rw [hsecond.misses, hfirst.misses, UInt64.add_assoc, Tally.add, UInt64.ofNat_add]
  scans := by rw [hsecond.scans, hfirst.scans, UInt64.add_assoc, Tally.add, UInt64.ofNat_add]

/-- A lookup that finds no owner has booked no hit, so a second one may follow it. -/
theorem Books.follow {m n : Nat} (hfirst : Books m before .notFound t middle)
    (hsecond : Books n middle answer u after) : Books (m + n) before answer (t.add u) after := by
  have hnone : t.hits = 0 := by
    rcases hfirst.hit_named with hnone | hnamed
    · exact hnone
    · cases hnamed
  have hhits : (t.add u).hits = u.hits := by rw [Tally.add, hnone, Nat.zero_add]
  have hscans : (t.add u).scans = t.scans + u.scans := rfl
  have hmisses : (t.add u).misses = t.misses + u.misses := rfl
  constructor
  case counts => exact hfirst.counts.trans hsecond.counts
  case booked => have := hfirst.booked; have := hsecond.booked; omega
  case hits_le => rw [hhits]; exact hsecond.hits_le
  case scans_le => have := hfirst.scans_le; have := hsecond.scans_le; omega
  case hit_named => rw [hhits]; exact hsecond.hit_named
  case named =>
    intro hnamed
    have := hsecond.named hnamed
    omega
  case slots => exact Nat.le_trans hfirst.slots hsecond.slots

end OwnerCache

namespace Ledger

variable [HexDecoder] {files : TableFiles} {now : Nat} {key : SocketKey} {l l' : Ledger}
  {answer : Owner}

theorem LookupCourse.books (h : LookupCourse files now key l answer l') :
    ∃ t, OwnerCache.Books 1 l.cache answer t l'.cache := by
  have hnothing := OwnerCache.counts_zero l.cache
  cases h with
  | hit entry hfind =>
    refine ⟨⟨1, 0, 0⟩, ⟨rfl, hnothing.misses, hnothing.scans⟩, rfl, Nat.le_refl 1, Nat.le_refl 0,
      .inr rfl, fun _ => Nat.one_pos, Nat.le_refl _⟩
  | noTable hfind htable =>
    exact ⟨⟨0, 1, 0⟩, ⟨hnothing.hits, rfl, hnothing.scans⟩, rfl, Nat.zero_le 1, Nat.zero_le 1,
      .inl rfl, nofun, Nat.le_refl _⟩
  | noFile hfind table htable hfile =>
    exact ⟨⟨0, 1, 0⟩, ⟨hnothing.hits, rfl, hnothing.scans⟩, rfl, Nat.zero_le 1, Nat.zero_le 1,
      .inl rfl, nofun, Nat.le_refl _⟩
  | read hfind table htable listing hfile =>
    exact ⟨⟨0, 1, 1⟩, ⟨hnothing.hits, rfl, rfl⟩, rfl, Nat.zero_le 1, Nat.le_refl 1, .inl rfl,
      fun _ => Nat.one_pos, Scan.length_le_length_refill _ _⟩

theorem LookupCourse.settings (h : LookupCourse files now key l answer l') :
    l'.cache.ttl = l.cache.ttl ∧ l'.cache.root = l.cache.root := by
  cases h <;> exact ⟨rfl, rfl⟩

theorem resolve_books (files : TableFiles) (now : Nat) (query : FlowQuery) (l : Ledger) :
    ∃ lookups t, 1 ≤ lookups ∧ lookups ≤ 2 ∧
      OwnerCache.Books lookups l.cache (l.cache.resolve files now query).1 t
        (l.cache.resolve files now query).2 := by
  obtain ⟨t, hfirst⟩ := (lookup_course files now (.ofQuery .v6 query) l).books
  rcases resolve_cases files now query l with ⟨-, hone, heq⟩ | ⟨-, hnone, htwo, heq⟩
  · refine ⟨1, t, Nat.le_refl 1, Nat.le_succ 1, ?_⟩
    show OwnerCache.Books 1 l.cache _ t (l.step (.resolve files now query)).cache
    rw [hone, heq]
    exact hfirst
  · rw [hnone] at hfirst
    obtain ⟨u, hsecond⟩ := (lookup_course files now (.ofQuery .v4 query)
      (l.afterLookup files now (.ofQuery .v6 query))).books
    refine ⟨2, t.add u, Nat.le_succ 1, Nat.le_refl 2, ?_⟩
    show OwnerCache.Books 2 l.cache _ (t.add u) (l.step (.resolve files now query)).cache
    rw [htwo, heq]
    exact hfirst.follow hsecond

end Ledger

namespace OwnerCache

variable [HexDecoder] {files : TableFiles} {now : Nat} {key : SocketKey} {query : FlowQuery}
  {new cache other : OwnerCache} {events : List CacheEvent} {t : Tally}

/-- How often the events ask. -/
def questions (events : List CacheEvent) : Nat := (events.filterMap CacheEvent.instant?).length

/-- What is booked from a new cache on with so many questions and owners named. -/
structure Accounts (new : OwnerCache) (questions named : Nat) (t : Tally) (cache : OwnerCache) :
    Prop where
  counts : Counts new t cache
  hits_le : t.hits ≤ questions
  questions_le : questions ≤ t.hits + t.misses
  lookups_le : t.hits + t.misses ≤ 2 * questions
  scans_le : t.scans ≤ t.misses
  named_le : named ≤ t.hits + t.scans

omit [HexDecoder] in
theorem Accounts.ask {questions named lookups : Nat} {before after : OwnerCache} {answer : Owner}
    {u : Tally} (h : Accounts new questions named t before) (hone : 1 ≤ lookups)
    (htwo : lookups ≤ 2) (hbooks : Books lookups before answer u after) :
    Accounts new (questions + 1) (named + answer.uid?.toList.length) (t.add u) after := by
  obtain ⟨hcounts, hhits, hquestions, hlookups, hscans, hnamed⟩ := h
  have hbooked := hbooks.booked
  have hscansLe := hbooks.scans_le
  have hhitsAdd : (t.add u).hits = t.hits + u.hits := rfl
  have hmissesAdd : (t.add u).misses = t.misses + u.misses := rfl
  have hscansAdd : (t.add u).scans = t.scans + u.scans := rfl
  constructor
  case counts => exact hcounts.trans hbooks.counts
  case hits_le => have := hbooks.hits_le; omega
  case questions_le => omega
  case lookups_le => omega
  case scans_le => omega
  case named_le =>
    cases huid : answer.uid? with
    | none => simp only [Option.toList_none, List.length_nil]; omega
    | some id =>
      have hnew := hbooks.named (by rw [huid]; rfl)
      simp only [Option.toList_some, List.length_singleton]
      omega

theorem after_accounts {asked named : Nat} (h : Accounts new asked named t cache)
    (event : CacheEvent) :
    ∃ u, Accounts new (asked + questions [event]) (named + (cache.ownersNamed [event]).length) u
      (cache.after event) := by
  cases event with
  | resolve files now query =>
    obtain ⟨lookups, u, hone, htwo, hbooks⟩ := Ledger.resolve_books files now query ⟨cache, []⟩
    have hasked := h.ask hone htwo hbooks
    have hnamed : cache.ownersNamed [.resolve files now query] =
        (cache.resolve files now query).1.uid?.toList := by
      simp only [ownersNamed, answers, answer?, Option.toList_some, List.append_nil,
        List.filterMap_cons, List.filterMap_nil]
      cases (cache.resolve files now query).1.uid? <;> rfl
    rw [hnamed]
    exact ⟨t.add u, hasked⟩
  | reset =>
    have hcounts : Counts new t cache.reset := ⟨h.counts.hits, h.counts.misses, h.counts.scans⟩
    exact ⟨t, hcounts, h.hits_le, h.questions_le, h.lookups_le, h.scans_le, h.named_le⟩

theorem run_accounts {asked named : Nat} (h : Accounts new asked named t cache)
    (events : List CacheEvent) :
    ∃ u, Accounts new (asked + questions events) (named + (cache.ownersNamed events).length) u
      (cache.run events) := by
  induction events generalizing cache asked named t with
  | nil => exact ⟨t, h⟩
  | cons event events ih =>
    obtain ⟨u, hafter⟩ := after_accounts h event
    obtain ⟨last, hlater⟩ := ih hafter
    have hquestions : questions (event :: events) = questions [event] + questions events := by
      rw [questions, ← List.singleton_append, List.filterMap_append, List.length_append]
      rfl
    have hnamed : cache.ownersNamed (event :: events) =
        cache.ownersNamed [event] ++ (cache.after event).ownersNamed events := by
      simp only [ownersNamed, answers, List.filterMap_append, List.append_nil]
    rw [hquestions, hnamed, List.length_append, ← Nat.add_assoc, ← Nat.add_assoc]
    exact ⟨last, hlater⟩

omit [HexDecoder] in
/-- With few questions no counter has gone round. -/
theorem toNat_of_accounts {ttl asked named : Nat} {root : String}
    (h : Accounts { ttl, root } asked named t cache) (few : 2 * asked < UInt64.size) :
    cache.hits.toNat = t.hits ∧ cache.misses.toNat = t.misses ∧ cache.scans.toNat = t.scans := by
  obtain ⟨⟨hhits, hmisses, hscans⟩, hhitsLe, -, hlookups, hscansLe, -⟩ := h
  have hround {n : Nat} (hn : n < UInt64.size) : ((0 : UInt64) + UInt64.ofNat n).toNat = n := by
    rw [UInt64.zero_add]
    exact UInt64.toNat_ofNat_of_lt' hn
  rw [hhits, hmisses, hscans]
  exact ⟨hround (by omega), hround (by omega), hround (by omega)⟩

theorem length_answers (cache : OwnerCache) (events : List CacheEvent) :
    (cache.answers events).length = questions events := by
  induction events generalizing cache with
  | nil => rfl
  | cons event events ih =>
    rw [answers, List.length_append, ih]
    cases event with
    | resolve files now query => exact Nat.add_comm 1 _
    | reset => exact Nat.zero_add _

/-- The cache with its counters at zero. -/
def uncounted (cache : OwnerCache) : OwnerCache :=
  { cache with hits := 0, misses := 0, scans := 0 }

theorem uncounted_lookup (files : TableFiles) (now : Nat) (key : SocketKey)
    (h : cache.uncounted = other.uncounted) :
    (cache.lookup files now key).1 = (other.lookup files now key).1 ∧
      (cache.lookup files now key).2.uncounted = (other.lookup files now key).2.uncounted := by
  obtain ⟨ttl, root, entries, hits, misses, scans⟩ := cache
  obtain ⟨ttl', root', entries', hits', misses', scans'⟩ := other
  obtain ⟨rfl, rfl, rfl⟩ : ttl = ttl' ∧ root = root' ∧ entries = entries' := by
    simpa [uncounted] using h
  unfold lookup
  have hfind : find? now key ⟨ttl, root, entries, hits, misses, scans⟩ =
      find? now key ⟨ttl, root, entries, hits', misses', scans'⟩ := rfl
  rw [hfind]
  cases find? now key ⟨ttl, root, entries, hits', misses', scans'⟩ with
  | some entry => exact ⟨rfl, rfl⟩
  | none =>
    cases ConnectionTable.select? key.version key.protocol with
    | none => exact ⟨rfl, rfl⟩
    | some table =>
      simp only [scan_eq]
      cases Listing.of? key.version (files table) <;> exact ⟨rfl, rfl⟩

theorem uncounted_after (h : cache.uncounted = other.uncounted) (event : CacheEvent) :
    cache.answer? event = other.answer? event ∧
      (cache.after event).uncounted = (other.after event).uncounted := by
  cases event with
  | resolve files now query =>
    obtain ⟨hanswer, hnext⟩ := uncounted_lookup files now (.ofQuery .v6 query) h
    simp only [answer?, after, resolve]
    cases query.version with
    | v6 => exact ⟨congrArg some hanswer, hnext⟩
    | v4 =>
      cases hleft : cache.lookup files now (.ofQuery .v6 query) with
      | mk answer left =>
        cases hright : other.lookup files now (.ofQuery .v6 query) with
        | mk answer' right =>
          rw [hleft, hright] at hanswer hnext
          obtain rfl : answer = answer' := hanswer
          cases answer with
          | notFound =>
            obtain ⟨hsecond, hlast⟩ := uncounted_lookup files now (.ofQuery .v4 query) hnext
            exact ⟨congrArg some hsecond, hlast⟩
          | uid id => exact ⟨rfl, hnext⟩
          | unavailable => exact ⟨rfl, hnext⟩
          | notLooked => exact ⟨rfl, hnext⟩
  | reset =>
    refine ⟨rfl, ?_⟩
    simp only [uncounted, OwnerCache.mk.injEq] at h
    simp [after, reset, uncounted, h]

/-- Caches that differ in their counters only answer alike. -/
theorem answers_congr (h : cache.uncounted = other.uncounted) (events : List CacheEvent) :
    cache.answers events = other.answers events := by
  induction events generalizing cache other with
  | nil => rfl
  | cons event events ih =>
    obtain ⟨hanswer, hnext⟩ := uncounted_after h event
    rw [answers, answers, hanswer, ih hnext]

theorem settings_after (cache : OwnerCache) (event : CacheEvent) :
    (cache.after event).ttl = cache.ttl ∧ (cache.after event).root = cache.root := by
  cases event with
  | resolve files now query =>
    have hstep : ∀ key (l : Ledger), l.cache.ttl = cache.ttl ∧ l.cache.root = cache.root →
        (l.afterLookup files now key).cache.ttl = cache.ttl ∧
          (l.afterLookup files now key).cache.root = cache.root := by
      intro key l h
      obtain ⟨httl, hroot⟩ := (Ledger.lookup_course files now key l).settings
      exact ⟨httl.trans h.1, hroot.trans h.2⟩
    have hstart : cache.ttl = cache.ttl ∧ cache.root = cache.root := ⟨rfl, rfl⟩
    exact Ledger.resolve_preserves (l := ⟨cache, []⟩)
      (P := fun l => l.cache.ttl = cache.ttl ∧ l.cache.root = cache.root) hstep hstart
  | reset => exact ⟨rfl, rfl⟩

theorem settings_run (cache : OwnerCache) (events : List CacheEvent) :
    (cache.run events).ttl = cache.ttl ∧ (cache.run events).root = cache.root := by
  induction events generalizing cache with
  | nil => exact ⟨rfl, rfl⟩
  | cons event events ih =>
    obtain ⟨httl, hroot⟩ := ih (cache.after event)
    obtain ⟨httl', hroot'⟩ := settings_after cache event
    exact ⟨httl.trans httl', hroot.trans hroot'⟩

/-- The accounts of a new cache after any run of questions, at any moments and with any tables,
and of resets; what the counters say of one another takes fewer than 2 ^ 63 questions. A question
that adds a hit is answered with an owner, and none takes a slot away. A reset takes all of them and
leaves the counters; what comes later is answered as a new cache answers it. -/
theorem counters_of_run (ttl : Nat) (root : String) (events : List CacheEvent) :
    let new : OwnerCache := { ttl, root }
    let cache := new.run events
    (new.answers events).length = questions events ∧
      (2 * questions events < UInt64.size →
        cache.hits.toNat ≤ questions events ∧
        questions events ≤ cache.hits.toNat + cache.misses.toNat ∧
        cache.hits.toNat + cache.misses.toNat ≤ 2 * questions events ∧
        cache.scans.toNat ≤ cache.misses.toNat ∧
        (new.ownersNamed events).length ≤ cache.hits.toNat + cache.scans.toNat) ∧
      (∀ files now query,
        let x := cache.resolve files now query
        (x.2.hits = cache.hits ∨ ∃ id, x.1 = .uid id) ∧
          cache.entries.length ≤ x.2.entries.length) ∧
      (cache.reset.entries = [] ∧ cache.reset.hits = cache.hits ∧
        cache.reset.misses = cache.misses ∧ cache.reset.scans = cache.scans) ∧
      ∀ later, cache.reset.answers later = new.answers later := by
  intro new cache
  have hstart : Accounts new 0 0 ⟨0, 0, 0⟩ new :=
    ⟨counts_zero new, Nat.le_refl 0, Nat.le_refl 0, Nat.le_refl 0, Nat.le_refl 0, Nat.le_refl 0⟩
  obtain ⟨t, haccounts⟩ := run_accounts hstart events
  rw [Nat.zero_add, Nat.zero_add] at haccounts
  refine ⟨length_answers new events, ?_, ?_, ⟨rfl, rfl, rfl, rfl⟩, ?_⟩
  · intro few
    obtain ⟨hhits, hmisses, hscans⟩ := toNat_of_accounts haccounts few
    rw [hhits, hmisses, hscans]
    exact ⟨haccounts.hits_le, haccounts.questions_le, haccounts.lookups_le, haccounts.scans_le,
      haccounts.named_le⟩
  · intro files now query x
    obtain ⟨lookups, u, -, -, hbooks⟩ := Ledger.resolve_books files now query ⟨cache, []⟩
    refine ⟨hbooks.hit_named.imp ?_ Owner.isSome_uid?_iff.1, hbooks.slots⟩
    intro hnone
    have hhits : x.2.hits = cache.hits + UInt64.ofNat u.hits := hbooks.counts.hits
    rw [hhits, hnone]
    exact UInt64.add_zero _
  · obtain ⟨httl, hroot⟩ := settings_run new events
    apply answers_congr
    show uncounted { cache with entries := [] } = uncounted new
    simp only [uncounted, new, cache, httl, hroot]

end OwnerCache

namespace OwnerCache

/-- A ping that is asked about twice: a miss among the IPv6 sockets each time, then a reading of the
IPv4 table, then a hit. -/
theorem counters_of_run_ping :
    let events := [CacheEvent.resolve Ledger.pingFiles 0 Ledger.pingQuery, .reset,
      .resolve Ledger.pingFiles 1 Ledger.pingQuery, .resolve Ledger.pingFiles 2 Ledger.pingQuery]
    let new : OwnerCache := { ttl := 10, root := "net" }
    let cache := new.run events
    questions events = 3 ∧ new.ownersNamed events = [7, 7, 7] ∧ cache.hits.toNat ≤ 3 ∧
      3 ≤ cache.hits.toNat + cache.misses.toNat ∧ cache.scans.toNat ≤ cache.misses.toNat ∧
      3 ≤ cache.hits.toNat + cache.scans.toNat := by
  intro events new cache
  have hasked : questions events = 3 := rfl
  have hnamed : new.ownersNamed events = [7, 7, 7] := by decide +kernel
  have hcounters := (counters_of_run 10 "net" events).2.1
  rw [hasked] at hcounters
  obtain ⟨hhits, hlookups, -, hscans, howners⟩ := hcounters (by decide)
  have hthree : 3 = (new.ownersNamed events).length := by
    rw [hnamed]
    rfl
  exact ⟨hasked, hnamed, hhits, hlookups, hscans, Nat.le_trans (Nat.le_of_eq hthree) howners⟩

end OwnerCache

end TunnelFirewall
