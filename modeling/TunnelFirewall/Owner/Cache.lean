import TunnelFirewall.Owner.Connection

/-!
# The owner cache

Reading the connection tables for every packet would be slow, so the sockets they list are kept
for a while. A lookup takes the first entry in slot order that is not too old and matches;
otherwise it reads the table, keeps every socket of it and answers with the last that matches.
Entries that have grown too old give their slots to the sockets of the next reading.

An IPv4 flow is first looked up among the IPv6 sockets, where sockets for both versions are
listed, and among the IPv4 sockets only when nothing was found there.
-/
namespace TunnelFirewall

/-- A socket of a table, with the moment at which the table was read. Moments are counted in
milliseconds. -/
structure CacheEntry where
  version : IpVersion
  protocol : Protocol
  socket : Connection
  insertedAt : Nat
deriving DecidableEq

/-- The entry is at most `ttl` old. A moment before the entry's own counts as age zero. -/
def CacheEntry.isFresh (now ttl : Nat) (entry : CacheEntry) : Bool :=
  now - entry.insertedAt ≤ ttl

/-- What a lookup looks for: a flow in the address form of one version's table. -/
structure SocketKey where
  version : IpVersion
  protocol : Protocol
  source : IPv6
  sourcePort : UInt16
  destination : IPv6
  destinationPort : UInt16
deriving DecidableEq

namespace SocketKey

/-- The key under which a flow is looked up in the tables of a version. -/
def ofQuery (version : IpVersion) (query : FlowQuery) : SocketKey :=
  ⟨version, query.protocol, query.source.toIPv6, query.sourcePort, query.destination.toIPv6,
    query.destinationPort⟩

/-- The address that means any address in the tables of a version. -/
def wildcard : IpVersion → IPv6
  | .v4 => IPv4.unspecified.mapped
  | .v6 => .unspecified

/-- The socket serves the flow: an address that means any address and a remote port of zero
match everything. -/
def matchesSocket (key : SocketKey) (socket : Connection) : Bool :=
  socket.localPort == key.sourcePort &&
  (socket.remotePort == key.destinationPort || socket.remotePort == 0) &&
  (socket.localAddress == key.source || socket.localAddress == wildcard key.version) &&
  (socket.remoteAddress == key.destination || socket.remoteAddress == wildcard key.version)

/-- The entry is of the key's version and protocol and its socket serves the flow. -/
def matchesEntry (key : SocketKey) (entry : CacheEntry) : Bool :=
  entry.version == key.version && entry.protocol == key.protocol && key.matchesSocket entry.socket

end SocketKey

/-- What stands at the path of each connection table. -/
abbrev TableFiles := ConnectionTable → FileState

/-- The cache and its counters. -/
structure OwnerCache where
  /-- How long an entry may be used, in milliseconds. -/
  ttl : Nat
  /-- The directory of the tables. -/
  root : String
  entries : List CacheEntry := []
  /-- Lookups answered from the entries. -/
  hits : UInt64 := 0
  /-- Lookups that needed a table. -/
  misses : UInt64 := 0
  scans : UInt64 := 0
deriving DecidableEq

/-- What a reading of a table has come to. -/
structure Scan where
  entries : List CacheEntry
  /-- Slots before this one are not given away any more. -/
  reuseFrom : Nat := 0
  /-- The uid of the last socket that matched. -/
  found : Option UInt32 := none

namespace Scan

variable [HexDecoder]

/-- The first slot at or after `start` whose entry is too old, or the slot behind the last. -/
def freeSlot (now ttl : Nat) (entries : List CacheEntry) (start : Nat) : Nat :=
  start + ((entries.drop start).takeWhile (·.isFresh now ttl)).length

/-- Puts an entry into a slot, or behind the last one. -/
def store (entries : List CacheEntry) (slot : Nat) (entry : CacheEntry) : List CacheEntry :=
  if slot < entries.length then entries.set slot entry else entries ++ [entry]

/-- Takes one socket of the table in. -/
def insert (now ttl : Nat) (key : SocketKey) (socket : Connection) (scan : Scan) : Scan :=
  let slot := freeSlot now ttl scan.entries scan.reuseFrom
  { entries := store scan.entries slot ⟨key.version, key.protocol, socket, now⟩
    reuseFrom := slot
    found := if key.matchesSocket socket then some socket.uid else scan.found }

/-- Takes in the lines of a table from line number `number` on. The first line is a heading. A
line that cannot be read or understood ends the reading; what was taken in before it stays. -/
def readLines (now ttl : Nat) (key : SocketKey) (path : String) (number : Nat) :
    List (Except IoFailure String) → Scan → Scan × Option TableError
  | [], scan => (scan, none)
  | .error failure :: _, scan => (scan, some (.readFailed path failure))
  | .ok line :: rest, scan =>
    if number = 1 then readLines now ttl key path (number + 1) rest scan
    else
      match Connection.read key.version number line with
      | .error e => (scan, some e)
      | .ok socket => readLines now ttl key path (number + 1) rest (scan.insert now ttl key socket)

end Scan

namespace OwnerCache

variable [HexDecoder]

def path (cache : OwnerCache) (table : ConnectionTable) : String :=
  cache.root ++ "/" ++ table.fileName

/-- Forgets every entry; the counters go on. -/
def reset (cache : OwnerCache) : OwnerCache := { cache with entries := [] }

/-- The first entry that is not too old and matches a key. -/
def find? (now : Nat) (key : SocketKey) (cache : OwnerCache) : Option CacheEntry :=
  cache.entries.find? fun entry => entry.isFresh now cache.ttl && key.matchesEntry entry

def scan (files : TableFiles) (now : Nat) (table : ConnectionTable) (key : SocketKey)
    (cache : OwnerCache) : Owner × OwnerCache :=
  match (files table).readLines with
  | .error _ => (.unavailable, cache)
  | .ok lines =>
    let (scan, error) :=
      Scan.readLines now cache.ttl key (cache.path table) 1 lines { entries := cache.entries }
    let cache := { cache with entries := scan.entries, scans := cache.scans + 1 }
    match error, scan.found with
    | some _, _ => (.unavailable, cache)
    | none, some uid => (.uid uid, cache)
    | none, none => (.notFound, cache)

/-- Looks a key up in the entries, then in its table. -/
def lookup (files : TableFiles) (now : Nat) (key : SocketKey) (cache : OwnerCache) :
    Owner × OwnerCache :=
  match cache.find? now key with
  | some entry => (.uid entry.socket.uid, { cache with hits := cache.hits + 1 })
  | none =>
    let cache := { cache with misses := cache.misses + 1 }
    match ConnectionTable.select? key.version key.protocol with
    | none => (.notFound, cache)
    | some table => cache.scan files now table key

/-- Answers who owns a flow. -/
def resolve (files : TableFiles) (now : Nat) (query : FlowQuery) (cache : OwnerCache) :
    Owner × OwnerCache :=
  match query.version with
  | .v6 => cache.lookup files now (.ofQuery .v6 query)
  | .v4 =>
    match cache.lookup files now (.ofQuery .v6 query) with
    | (.notFound, cache) => cache.lookup files now (.ofQuery .v4 query)
    | answer => answer

end OwnerCache

end TunnelFirewall
