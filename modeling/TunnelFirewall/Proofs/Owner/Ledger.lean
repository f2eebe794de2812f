import TunnelFirewall.Proofs.Owner.Slots

/-!
# The readings behind the owner cache

A ledger holds the cache together with the readings of tables since its entries were last
forgotten. Every entry goes back to one of these readings, so an answer that names an owner does
too, whether a reading gave it or an entry that is still fresh.
-/
namespace TunnelFirewall

/-- A table that was opened for reading: the moment, and what stood at its path then. -/
structure Reading where
  table : ConnectionTable
  readAt : Nat
  content : FileState
deriving DecidableEq

variable [HexDecoder]

namespace OwnerCache

/-- The readings of a lookup: one, if no entry serves the key and its table can be opened. -/
def lookupReadings (files : TableFiles) (now : Nat) (key : SocketKey) (cache : OwnerCache) :
    List Reading :=
  match cache.find? now key, ConnectionTable.select? key.version key.protocol with
  | none, some table =>
    match (files table).readLines with
    | .ok _ => [⟨table, now, files table⟩]
    | .error _ => []
  | _, _ => []

/-- The readings that the answer to a question needs. -/
def resolveReadings (files : TableFiles) (now : Nat) (query : FlowQuery) (cache : OwnerCache) :
    List Reading :=
  let first := cache.lookupReadings files now (.ofQuery .v6 query)
  match query.version with
  | .v6 => first
  | .v4 =>
    match cache.lookup files now (.ofQuery .v6 query) with
    | (.notFound, cache) => first ++ cache.lookupReadings files now (.ofQuery .v4 query)
    | _ => first

end OwnerCache

/-- What happens to a cache: a question at a moment, with the files as they are then, or that
everything is forgotten. -/
inductive CacheEvent
  | resolve (files : TableFiles) (now : Nat) (query : FlowQuery)
  | reset

/-- The moment of a question. -/
def CacheEvent.instant? : CacheEvent → Option Nat
  | .resolve _ now _ => some now
  | .reset => none

/-- A cache and the readings since its entries were last forgotten. -/
structure Ledger where
  cache : OwnerCache
  readings : List Reading := []

namespace Ledger

def afterLookup (files : TableFiles) (now : Nat) (key : SocketKey) (l : Ledger) : Ledger :=
  ⟨(l.cache.lookup files now key).2, l.readings ++ l.cache.lookupReadings files now key⟩

/-- The ledger after an event. -/
def step (l : Ledger) : CacheEvent → Ledger
  | .resolve files now query =>
    ⟨(l.cache.resolve files now query).2, l.readings ++ l.cache.resolveReadings files now query⟩
  | .reset => ⟨l.cache.reset, []⟩

/-- The ledger after a run. -/
def run (l : Ledger) (events : List CacheEvent) : Ledger := events.foldl step l

/-- What one lookup can do: the answer and the ledger after it. -/
inductive LookupCourse (files : TableFiles) (now : Nat) (key : SocketKey) (l : Ledger) :
    Owner → Ledger → Prop
  | hit (entry : CacheEntry) (hfind : l.cache.find? now key = some entry) :
    LookupCourse files now key l (.uid entry.socket.uid)
      ⟨{ l.cache with hits := l.cache.hits + 1 }, l.readings⟩
  | noTable (hfind : l.cache.find? now key = none)
    (htable : ConnectionTable.select? key.version key.protocol = none) :
    LookupCourse files now key l .notFound
      ⟨{ l.cache with misses := l.cache.misses + 1 }, l.readings⟩
  | noFile (hfind : l.cache.find? now key = none) (table : ConnectionTable)
    (htable : ConnectionTable.select? key.version key.protocol = some table)
    (hfile : Listing.of? key.version (files table) = none) :
    LookupCourse files now key l .unavailable
      ⟨{ l.cache with misses := l.cache.misses + 1 }, l.readings⟩
  | read (hfind : l.cache.find? now key = none) (table : ConnectionTable)
    (htable : ConnectionTable.select? key.version key.protocol = some table)
    (listing : Listing) (hfile : Listing.of? key.version (files table) = some listing) :
    LookupCourse files now key l (listing.answer key)
      ⟨{ l.cache with
          entries := Scan.refill now l.cache.ttl l.cache.entries
            (listing.sockets.map (key.entry now))
          misses := l.cache.misses + 1
          scans := l.cache.scans + 1 },
        l.readings ++ [⟨table, now, files table⟩]⟩

variable {files : TableFiles} {now : Nat} {l : Ledger}

theorem lookup_course (files : TableFiles) (now : Nat) (key : SocketKey) (l : Ledger) :
    LookupCourse files now key l (l.cache.lookup files now key).1
      (l.afterLookup files now key) := by
  unfold afterLookup OwnerCache.lookup OwnerCache.lookupReadings
  cases hfind : l.cache.find? now key with
  | some entry =>
    simp only [List.append_nil]
    exact .hit entry hfind
  | none =>
    cases htable : ConnectionTable.select? key.version key.protocol with
    | none =>
      simp only [List.append_nil]
      exact .noTable hfind htable
    | some table =>
      simp only [OwnerCache.scan_eq]
      cases hlines : (files table).readLines with
      | error failure =>
        have hfile : Listing.of? key.version (files table) = none := by
          rw [Listing.of?, hlines]
        simp only [hfile, List.append_nil]
        exact .noFile hfind table htable hfile
      | ok lines =>
        have hfile : Listing.of? key.version (files table) =
            some (.ofLines key.version 1 lines) := by
          rw [Listing.of?, hlines]
        simp only [hfile]
        exact .read hfind table htable _ hfile

/-- A question is one lookup, or two for an IPv4 flow that is not found among the IPv6 sockets. -/
theorem resolve_cases (files : TableFiles) (now : Nat) (query : FlowQuery) (l : Ledger) :
    ((query.version = .v4 → (l.cache.lookup files now (.ofQuery .v6 query)).1 ≠ .notFound) ∧
      (l.cache.resolve files now query).1 = (l.cache.lookup files now (.ofQuery .v6 query)).1 ∧
      l.step (.resolve files now query) = l.afterLookup files now (.ofQuery .v6 query)) ∨
    (query.version = .v4 ∧ (l.cache.lookup files now (.ofQuery .v6 query)).1 = .notFound ∧
      (l.cache.resolve files now query).1 =
        ((l.afterLookup files now (.ofQuery .v6 query)).cache.lookup files now
          (.ofQuery .v4 query)).1 ∧
      l.step (.resolve files now query) =
        (l.afterLookup files now (.ofQuery .v6 query)).afterLookup files now
          (.ofQuery .v4 query)) := by
  simp only [step, afterLookup, OwnerCache.resolve, OwnerCache.resolveReadings]
  cases hversion : query.version with
  | v6 => exact .inl ⟨by simp, rfl, rfl⟩
  | v4 =>
    cases hlookup : l.cache.lookup files now (.ofQuery .v6 query) with
    | mk answer cache =>
      cases answer with
      | notFound => exact .inr ⟨rfl, rfl, rfl, by rw [List.append_assoc]⟩
      | uid id => exact .inl ⟨by simp, rfl, rfl⟩
      | unavailable => exact .inl ⟨by simp, rfl, rfl⟩
      | notLooked => exact .inl ⟨by simp, rfl, rfl⟩

/-- What each lookup preserves, a question preserves. -/
theorem resolve_preserves {P : Ledger → Prop} {query : FlowQuery}
    (hstep : ∀ key l, P l → P (l.afterLookup files now key)) (h : P l) :
    P (l.step (.resolve files now query)) := by
  rcases resolve_cases files now query l with ⟨-, -, heq⟩ | ⟨-, -, -, heq⟩
  · rw [heq]
    exact hstep _ _ h
  · rw [heq]
    exact hstep _ _ (hstep _ _ h)

end Ledger

end TunnelFirewall
