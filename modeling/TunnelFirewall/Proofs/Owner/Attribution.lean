import TunnelFirewall.Outer.Hex
import TunnelFirewall.Proofs.Owner.Ledger

/-!
# Answers go back to readings

Whenever the cache names an owner, a table of the right version and protocol has been read since
the entries were last forgotten, no longer ago than an entry may be used, and had a line with
this owner whose socket serves the flow.
-/
namespace TunnelFirewall

/-- The reading took this entry in. -/
def Reading.Backs [HexDecoder] (reading : Reading) (entry : CacheEntry) : Prop :=
  reading.readAt = entry.insertedAt ∧
  ConnectionTable.select? entry.version entry.protocol = some reading.table ∧
  reading.content.Lists entry.version entry.socket

theorem SocketKey.matchesSocket_iff {key : SocketKey} {socket : Connection} :
    key.matchesSocket socket = true ↔
      socket.localPort = key.sourcePort ∧
      (socket.remotePort = key.destinationPort ∨ socket.remotePort = 0) ∧
      (socket.localAddress = key.source ∨ socket.localAddress = wildcard key.version) ∧
      (socket.remoteAddress = key.destination ∨ socket.remoteAddress = wildcard key.version) := by
  simp [matchesSocket, and_assoc]

theorem OwnerCache.find?_eq_some {now : Nat} {key : SocketKey} {cache : OwnerCache}
    {entry : CacheEntry} (h : cache.find? now key = some entry) :
    entry ∈ cache.entries ∧ entry.isFresh now cache.ttl = true ∧ entry.version = key.version ∧
      entry.protocol = key.protocol ∧ key.matchesSocket entry.socket = true := by
  have hmem := List.mem_of_find?_eq_some h
  have htest := List.find?_some h
  simp only [SocketKey.matchesEntry, Bool.and_eq_true, beq_iff_eq] at htest
  obtain ⟨hfresh, ⟨hversion, hprotocol⟩, hserves⟩ := htest
  exact ⟨hmem, hfresh, hversion, hprotocol, hserves⟩

theorem Listing.answer_eq_uid {key : SocketKey} {listing : Listing} {id : UInt32}
    (h : listing.answer key = .uid id) :
    ∃ socket ∈ listing.sockets, key.matchesSocket socket = true ∧ socket.uid = id := by
  unfold answer at h
  split at h
  · split at h
    · rename_i socket hlast
      obtain ⟨hmem, hserves⟩ := List.mem_filter.1 (List.mem_of_getLast? hlast)
      exact ⟨socket, hmem, hserves, Owner.uid.inj h⟩
    · cases h
  · cases h

namespace Ledger

variable [HexDecoder]

/-- Every entry goes back to a reading of the ledger. -/
def Backed (l : Ledger) : Prop :=
  ∀ entry ∈ l.cache.entries, ∃ reading ∈ l.readings, reading.Backs entry

variable {files : TableFiles} {now : Nat} {key : SocketKey} {query : FlowQuery}
  {l l' : Ledger} {answer : Owner}

theorem LookupCourse.backed (h : LookupCourse files now key l answer l') (hbacked : l.Backed) :
    l'.Backed := by
  cases h with
  | hit entry hfind => exact hbacked
  | noTable hfind htable => exact hbacked
  | noFile hfind table htable hfile => exact hbacked
  | read hfind table htable listing hfile =>
    intro entry hentry
    rcases Scan.mem_refill hentry with hold | hnew
    · obtain ⟨reading, hmem, hbacks⟩ := hbacked entry hold
      exact ⟨reading, List.mem_append_left _ hmem, hbacks⟩
    · obtain ⟨socket, hsocket, rfl⟩ := List.mem_map.1 hnew
      refine ⟨⟨table, now, files table⟩, by simp, rfl, htable, ?_⟩
      exact Listing.lists_iff.2 ⟨listing, hfile, hsocket⟩

theorem LookupCourse.ttl_eq (h : LookupCourse files now key l answer l') :
    l'.cache.ttl = l.cache.ttl := by
  cases h <;> rfl

theorem LookupCourse.mem_readings (h : LookupCourse files now key l answer l')
    {reading : Reading} (hmem : reading ∈ l'.readings) :
    reading ∈ l.readings ∨ reading.readAt = now := by
  cases h with
  | hit entry hfind => exact .inl hmem
  | noTable hfind htable => exact .inl hmem
  | noFile hfind table htable hfile => exact .inl hmem
  | read hfind table htable listing hfile =>
    rcases List.mem_append.1 hmem with hold | hnew
    · exact .inl hold
    · exact .inr (by rw [List.mem_singleton.1 hnew])

/-- An owner comes from a reading that is recent enough, with a line that serves the key. -/
theorem LookupCourse.uid_backed {id : UInt32}
    (h : LookupCourse files now key l (.uid id) l') (hbacked : l.Backed) :
    ∃ reading ∈ l'.readings,
      ConnectionTable.select? key.version key.protocol = some reading.table ∧
      now - reading.readAt ≤ l.cache.ttl ∧
      ∃ socket, reading.content.Lists key.version socket ∧ socket.uid = id ∧
        key.matchesSocket socket = true := by
  generalize hanswer : Owner.uid id = answer at h
  cases h with
  | hit entry hfind =>
    obtain ⟨hmem, hfresh, hversion, hprotocol, hserves⟩ := OwnerCache.find?_eq_some hfind
    obtain ⟨reading, hreading, hreadAt, htable, hlists⟩ := hbacked entry hmem
    rw [CacheEntry.isFresh_iff, ← hreadAt] at hfresh
    rw [hversion, hprotocol] at htable
    rw [hversion] at hlists
    exact ⟨reading, hreading, htable, hfresh, entry.socket, hlists, (Owner.uid.inj hanswer).symm,
      hserves⟩
  | noTable hfind htable => cases hanswer
  | noFile hfind table htable hfile => cases hanswer
  | read hfind table htable listing hfile =>
    obtain ⟨socket, hmem, hserves, huid⟩ := Listing.answer_eq_uid hanswer.symm
    refine ⟨⟨table, now, files table⟩, by simp, htable, by simp, socket, ?_, huid, hserves⟩
    exact Listing.lists_iff.2 ⟨listing, hfile, hmem⟩

theorem afterLookup_backed (files : TableFiles) (now : Nat) (key : SocketKey)
    (h : l.Backed) : (l.afterLookup files now key).Backed :=
  (lookup_course files now key l).backed h

theorem step_backed (event : CacheEvent) (h : l.Backed) : (l.step event).Backed := by
  cases event with
  | resolve files now query =>
    exact resolve_preserves (fun key _ => afterLookup_backed files now key) h
  | reset => exact fun entry hentry => nomatch hentry

theorem step_ttl (event : CacheEvent) (l : Ledger) : (l.step event).cache.ttl = l.cache.ttl := by
  cases event with
  | resolve files now query =>
    refine resolve_preserves (P := fun l' => l'.cache.ttl = l.cache.ttl) ?_ rfl
    intro key l' h
    exact (lookup_course files now key l').ttl_eq.trans h
  | reset => rfl

theorem step_mem_readings (event : CacheEvent) {reading : Reading}
    (h : reading ∈ (l.step event).readings) :
    reading ∈ l.readings ∨ event.instant? = some reading.readAt := by
  cases event with
  | resolve files now query =>
    revert reading
    refine resolve_preserves (P := fun l' => ∀ {reading}, reading ∈ l'.readings →
      reading ∈ l.readings ∨ some now = some reading.readAt) ?_ .inl
    intro key l' hall reading hmem
    rcases (lookup_course files now key l').mem_readings hmem with hold | hnew
    · exact hall hold
    · exact .inr (congrArg some hnew.symm)
  | reset => cases h

theorem run_backed (events : List CacheEvent) (h : l.Backed) : (l.run events).Backed := by
  induction events generalizing l with
  | nil => exact h
  | cons event events ih => exact ih (step_backed event h)

theorem run_ttl (events : List CacheEvent) (l : Ledger) :
    (l.run events).cache.ttl = l.cache.ttl := by
  induction events generalizing l with
  | nil => rfl
  | cons event events ih => exact (ih _).trans (step_ttl event l)

theorem run_mem_readings (events : List CacheEvent) {reading : Reading}
    (h : reading ∈ (l.run events).readings) :
    reading ∈ l.readings ∨ reading.readAt ∈ events.filterMap CacheEvent.instant? := by
  induction events generalizing l with
  | nil => exact .inl h
  | cons event events ih =>
    rcases ih h with hfirst | hlater
    · rcases step_mem_readings event hfirst with hold | hnew
      · exact .inl hold
      · exact .inr (List.mem_filterMap.2 ⟨event, List.mem_cons_self, hnew⟩)
    · obtain ⟨e, he, hinstant⟩ := List.mem_filterMap.1 hlater
      exact .inr (List.mem_filterMap.2 ⟨e, List.mem_cons_of_mem _ he, hinstant⟩)

/-- The owner in the answer to a question comes from a recent enough reading of a table that the
question is about. -/
theorem resolve_uid_backed {id : UInt32} (h : l.Backed)
    (hanswer : (l.cache.resolve files now query).1 = .uid id) :
    ∃ version, (version = .v4 → query.version = .v4) ∧
      ∃ reading ∈ (l.step (.resolve files now query)).readings,
        ConnectionTable.select? version query.protocol = some reading.table ∧
        now - reading.readAt ≤ l.cache.ttl ∧
        ∃ socket, reading.content.Lists version socket ∧ socket.uid = id ∧
          (SocketKey.ofQuery version query).matchesSocket socket = true := by
  rcases resolve_cases files now query l with ⟨-, hone, heq⟩ | ⟨hversion, -, htwo, heq⟩
  · have hcourse := lookup_course files now (.ofQuery .v6 query) l
    rw [← hone, hanswer, ← heq] at hcourse
    exact ⟨.v6, nofun, hcourse.uid_backed h⟩
  · have hcourse := lookup_course files now (.ofQuery .v4 query)
      (l.afterLookup files now (.ofQuery .v6 query))
    rw [← htwo, hanswer, ← heq] at hcourse
    have hbacked := afterLookup_backed files now (.ofQuery .v6 query) h
    rw [← (lookup_course files now (.ofQuery .v6 query) l).ttl_eq]
    exact ⟨.v4, fun _ => hversion, hcourse.uid_backed hbacked⟩

/-- After any run of questions at moments in order and of resets, an owner that the cache names
stands in a table that was read since the last reset, at most `ttl` ago: the table of the flow's
protocol for IPv6, or for IPv4 if the flow is one, with a socket that serves the flow on a line
before which every line could be read and understood. -/
theorem owner_read_since_reset (ttl : Nat) (root : String) (events : List CacheEvent)
    (files : TableFiles) (now : Nat) (query : FlowQuery) (id : UInt32)
    (hordered : (events.filterMap CacheEvent.instant? ++ [now]).Pairwise (· ≤ ·))
    (hanswer : ((run ⟨{ ttl, root }, []⟩ events).cache.resolve files now query).1 = .uid id) :
    ∃ version, (version = .v4 → query.version = .v4) ∧
      ∃ reading ∈ (run ⟨{ ttl, root }, []⟩ (events ++ [.resolve files now query])).readings,
        ConnectionTable.select? version query.protocol = some reading.table ∧
        reading.readAt ≤ now ∧ now - reading.readAt ≤ ttl ∧
        ∃ socket, reading.content.Lists version socket ∧ socket.uid = id ∧
          socket.localPort = query.sourcePort ∧
          (socket.remotePort = query.destinationPort ∨ socket.remotePort = 0) ∧
          (socket.localAddress = query.source.toIPv6 ∨
            socket.localAddress = SocketKey.wildcard version) ∧
          (socket.remoteAddress = query.destination.toIPv6 ∨
            socket.remoteAddress = SocketKey.wildcard version) := by
  have hbacked : (run ⟨{ ttl, root }, []⟩ events).Backed :=
    run_backed events fun entry hentry => nomatch hentry
  obtain ⟨version, hversion, reading, hmem, htable, hage, socket, hlists, huid, hserves⟩ :=
    resolve_uid_backed hbacked hanswer
  have hrun : run ⟨{ ttl, root }, []⟩ (events ++ [.resolve files now query]) =
      (run ⟨{ ttl, root }, []⟩ events).step (.resolve files now query) := by
    rw [run, List.foldl_append]
    rfl
  rw [← hrun] at hmem
  rw [run_ttl] at hage
  -- a reading's moment is that of a question in the run, and those are in order
  have hpast : reading.readAt ≤ now := by
    rcases run_mem_readings _ hmem with hold | hinstant
    · cases hold
    · rw [List.filterMap_append] at hinstant
      rcases List.mem_append.1 hinstant with hearlier | hnow
      · exact (List.pairwise_append.1 hordered).2.2 _ hearlier now (List.mem_singleton.2 rfl)
      · exact Nat.le_of_eq (List.mem_singleton.1 hnow)
  exact ⟨version, hversion, reading, hmem, htable, hpast, hage, socket, hlists, huid,
    SocketKey.matchesSocket_iff.1 hserves⟩

end Ledger

namespace Ledger

/-- Only the IPv4 table of ICMP is there, with one socket of uid 7. -/
def pingFiles : TableFiles
  | .icmp => .regular (Utf8.encode "head\n0 0100000A:0009 00000000:0000 3 4 5 6 7\n")
  | _ => .absent

/-- A ping from 10.0.0.1. -/
def pingQuery : FlowQuery :=
  ⟨.v4, .icmp, .v4 ⟨10, 0, 0, 1⟩, 9, .v4 ⟨192, 0, 2, 1⟩, 0⟩

theorem owner_read_since_reset_ping :
    ∃ version, (version = .v4 → pingQuery.version = .v4) ∧
      ∃ reading ∈ (run ⟨{ ttl := 10, root := "net" }, []⟩ ([.resolve pingFiles 0 pingQuery] ++
          [.resolve (fun _ => .absent) 5 pingQuery])).readings,
        ConnectionTable.select? version pingQuery.protocol = some reading.table ∧
        reading.readAt ≤ 5 ∧ 5 - reading.readAt ≤ 10 ∧
        ∃ socket, reading.content.Lists version socket ∧ socket.uid = 7 ∧
          socket.localPort = pingQuery.sourcePort ∧
          (socket.remotePort = pingQuery.destinationPort ∨ socket.remotePort = 0) ∧
          (socket.localAddress = pingQuery.source.toIPv6 ∨
            socket.localAddress = SocketKey.wildcard version) ∧
          (socket.remoteAddress = pingQuery.destination.toIPv6 ∨
            socket.remoteAddress = SocketKey.wildcard version) :=
  owner_read_since_reset 10 "net" [.resolve pingFiles 0 pingQuery] (fun _ => .absent) 5 pingQuery 7
    (by decide) (by decide +kernel)

end Ledger

end TunnelFirewall
