import TunnelFirewall.Outer.Hex
import TunnelFirewall.Proofs.Owner.Slots

/-!
# Where a reading puts its sockets

The sockets of a reading go, in the order of their lines, to the slots of the entries that are too
old, from the first slot on; those that are left over go behind the last slot. No other slot
changes, so no fresh entry is lost, and no socket of the reading takes the slot of another.
-/
namespace TunnelFirewall

/-- What a reading of the content as a table takes in: the sockets of the lines behind the
heading, up to the end or to the first line that cannot be read or understood. -/
inductive FileState.Yields [HexDecoder] (version : IpVersion) (content : FileState) :
    List Connection → Prop
  | unopened {failure : IoFailure} (hlines : content.readLines = .error failure) :
      Yields version content []
  | empty (hlines : content.readLines = .ok []) : Yields version content []
  | unheaded {failure : IoFailure} {after : List (Except IoFailure String)}
      (hlines : content.readLines = .ok (.error failure :: after)) : Yields version content []
  | headed {heading : String} {texts : List String} {rest : List (Except IoFailure String)}
      {sockets : List Connection}
      (hlines : content.readLines = .ok (.ok heading :: (texts.map .ok ++ rest)))
      (hread : texts.mapIdx (fun i line => Connection.read version (i + 2) line) =
        sockets.map .ok)
      (hend : Listing.Halts version (texts.length + 2) rest) : Yields version content sockets

namespace Listing

variable [HexDecoder] {version : IpVersion} {content : FileState} {sockets : List Connection}

/-- The sockets that a reading of the content takes in. -/
def taken (version : IpVersion) (content : FileState) : List Connection :=
  match of? version content with
  | none => []
  | some listing => listing.sockets

theorem yields_iff : content.Yields version sockets ↔ taken version content = sockets := by
  unfold taken of?
  constructor
  · intro h
    cases h with
    | unopened hlines => simp only [hlines]
    | empty hlines => simp only [hlines, ofLines]
    | unheaded hlines => simp only [hlines, ofLines]
    | headed hlines hread hend =>
      have hlisting := ofLines_append (Nat.lt_succ_self 1) hread hend
      simp only [hlines, ofLines, if_true, hlisting]
  · rintro rfl
    cases hlines : content.readLines with
    | error failure => exact .unopened hlines
    | ok lines =>
      cases lines with
      | nil => exact .empty hlines
      | cons first after =>
        cases first with
        | error failure => exact .unheaded hlines
        | ok heading =>
          obtain ⟨texts, rest, rfl, hread, hend⟩ :=
            exists_ofLines_append version (Nat.lt_succ_self 1) after
          exact .headed hlines hread hend

end Listing

namespace Scan

variable {now ttl : Nat}

/-- The slots of the entries that are too old, in increasing order. -/
def staleSlots (now ttl : Nat) (entries : List CacheEntry) : List Nat :=
  (List.range entries.length).filter fun slot => entries[slot]?.any fun e => !e.isFresh now ttl

/-- The new entries stand in the stale slots as far as these go, one after the other, and then
behind the last slot; every other entry is where it was. -/
structure Placement (now ttl : Nat) (before new after : List CacheEntry) : Prop where
  reused : ∀ (i slot : Nat) (entry : CacheEntry), (staleSlots now ttl before)[i]? = some slot →
    new[i]? = some entry → after[slot]? = some entry
  appended : after.drop before.length = new.drop (staleSlots now ttl before).length
  kept : ∀ slot < before.length, slot ∉ (staleSlots now ttl before).take new.length →
    after[slot]? = before[slot]?
  length_eq : after.length =
    max before.length (before.length - (staleSlots now ttl before).length + new.length)

variable {entries new : List CacheEntry} {entry : CacheEntry} {slot : Nat}

theorem mem_staleSlots :
    slot ∈ staleSlots now ttl entries ↔
      ∃ entry, entries[slot]? = some entry ∧ entry.isFresh now ttl = false := by
  rw [staleSlots, List.mem_filter, List.mem_range]
  cases hentry : entries[slot]? with
  | none => simp
  | some entry =>
    have hlt : slot < entries.length := (List.getElem?_eq_some_iff.1 hentry).1
    simp [hlt]

theorem pairwise_staleSlots (entries : List CacheEntry) :
    (staleSlots now ttl entries).Pairwise (· < ·) :=
  List.Pairwise.filter _ List.pairwise_lt_range

theorem length_staleSlots_le (entries : List CacheEntry) :
    (staleSlots now ttl entries).length ≤ entries.length := by
  calc (staleSlots now ttl entries).length
      ≤ (List.range entries.length).length := List.length_filter_le _ _
    _ = entries.length := List.length_range

theorem staleSlots_cons (entry : CacheEntry) (entries : List CacheEntry) :
    staleSlots now ttl (entry :: entries) =
      (if entry.isFresh now ttl then [] else [0]) ++ (staleSlots now ttl entries).map (· + 1) := by
  have hshift : (fun slot => (entry :: entries)[slot]?.any fun e => !e.isFresh now ttl) ∘ Nat.succ =
      fun slot => entries[slot]?.any fun e => !e.isFresh now ttl := rfl
  rw [staleSlots, List.length_cons, List.range_succ_eq_map, List.filter_cons, List.filter_map,
    hshift, ← staleSlots]
  cases hfresh : entry.isFresh now ttl <;> simp [hfresh]

theorem staleSlots_of_isFresh (h : entry.isFresh now ttl = true) (entries : List CacheEntry) :
    staleSlots now ttl (entry :: entries) = (staleSlots now ttl entries).map (· + 1) := by
  rw [staleSlots_cons, if_pos h, List.nil_append]

theorem staleSlots_of_not_isFresh (h : ¬ entry.isFresh now ttl = true)
    (entries : List CacheEntry) :
    staleSlots now ttl (entry :: entries) = 0 :: (staleSlots now ttl entries).map (· + 1) := by
  rw [staleSlots_cons, if_neg h, List.singleton_append]

/-- The new entries go to the stale slots in order. -/
theorem getElem?_refill_of_stale {i : Nat} (hslot : (staleSlots now ttl entries)[i]? = some slot)
    (hnew : new[i]? = some entry) : (refill now ttl entries new)[slot]? = some entry := by
  fun_induction refill now ttl entries new generalizing i slot with
  | case1 entries => cases hnew
  | case2 new => cases hslot
  | case3 first entries second new hfresh ih =>
    rw [staleSlots_of_isFresh hfresh, List.getElem?_map] at hslot
    obtain ⟨previous, hprevious, rfl⟩ := Option.map_eq_some_iff.1 hslot
    exact ih hprevious hnew
  | case4 first entries second new hstale ih =>
    rw [staleSlots_of_not_isFresh hstale] at hslot
    cases i with
    | zero =>
      obtain rfl := Option.some.inj hslot
      exact hnew
    | succ i =>
      rw [List.getElem?_cons_succ, List.getElem?_map] at hslot
      obtain ⟨previous, hprevious, rfl⟩ := Option.map_eq_some_iff.1 hslot
      exact ih hprevious hnew

/-- The new entries for which there is no stale slot go behind the last slot. -/
theorem drop_refill (entries new : List CacheEntry) :
    (refill now ttl entries new).drop entries.length =
      new.drop (staleSlots now ttl entries).length := by
  fun_induction refill now ttl entries new with
  | case1 entries => rw [List.drop_length, List.drop_nil]
  | case2 new => rfl
  | case3 first entries second new hfresh ih =>
    rw [staleSlots_of_isFresh hfresh, List.length_map]
    exact ih
  | case4 first entries second new hstale ih =>
    rw [staleSlots_of_not_isFresh hstale]
    simpa only [List.length_cons, List.length_map, List.drop_succ_cons] using ih

/-- No slot changes but the stale ones that are needed. -/
theorem getElem?_refill_of_notMem (hlt : slot < entries.length)
    (hslot : slot ∉ (staleSlots now ttl entries).take new.length) :
    (refill now ttl entries new)[slot]? = entries[slot]? := by
  fun_induction refill now ttl entries new generalizing slot with
  | case1 entries => rfl
  | case2 new => exact absurd hlt (Nat.not_lt_zero slot)
  | case3 first entries second new hfresh ih =>
    cases slot with
    | zero => rfl
    | succ slot =>
      refine ih (Nat.lt_of_succ_lt_succ hlt) fun hmem => hslot ?_
      rw [staleSlots_of_isFresh hfresh, ← List.map_take]
      exact List.mem_map_of_mem hmem
  | case4 first entries second new hstale ih =>
    rw [staleSlots_of_not_isFresh hstale, List.length_cons, List.take_succ_cons] at hslot
    cases slot with
    | zero => exact absurd List.mem_cons_self hslot
    | succ slot =>
      refine ih (Nat.lt_of_succ_lt_succ hlt) fun hmem => hslot ?_
      rw [← List.map_take]
      exact List.mem_cons_of_mem _ (List.mem_map_of_mem hmem)

theorem placement_refill (now ttl : Nat) (entries new : List CacheEntry) :
    Placement now ttl entries new (refill now ttl entries new) := by
  constructor
  case reused => exact fun i slot entry => getElem?_refill_of_stale
  case appended => exact drop_refill entries new
  case kept => exact fun slot => getElem?_refill_of_notMem
  case length_eq =>
    have hmore : (refill now ttl entries new).length - entries.length =
        new.length - (staleSlots now ttl entries).length := by
      rw [← List.length_drop, drop_refill, List.length_drop]
    have hgrow : entries.length ≤ (refill now ttl entries new).length :=
      length_le_length_refill entries new
    have hstale : (staleSlots now ttl entries).length ≤ entries.length :=
      length_staleSlots_le entries
    omega

variable {before after : List CacheEntry}

/-- A fresh entry keeps its slot. -/
theorem Placement.fresh (h : Placement now ttl before new after)
    (hentry : before[slot]? = some entry) (hfresh : entry.isFresh now ttl = true) :
    after[slot]? = some entry := by
  have hlt : slot < before.length := (List.getElem?_eq_some_iff.1 hentry).1
  rw [h.kept slot hlt, hentry]
  intro hmem
  obtain ⟨stale, hstale, hold⟩ := mem_staleSlots.1 (List.mem_of_mem_take hmem)
  obtain rfl : entry = stale := Option.some.inj (hentry.symm.trans hstale)
  rw [hfresh] at hold
  cases hold

end Scan

namespace OwnerCache

/-- A reading refills the slots with the sockets that it takes in. -/
theorem entries_scan [HexDecoder] (files : TableFiles) (now : Nat) (table : ConnectionTable)
    (key : SocketKey) (cache : OwnerCache) :
    (cache.scan files now table key).2.entries =
      Scan.refill now cache.ttl cache.entries
        ((Listing.taken key.version (files table)).map (key.entry now)) := by
  rw [scan_eq, Listing.taken]
  cases Listing.of? key.version (files table) with
  | none => simp
  | some listing => rfl

/-- A reading puts the sockets that it takes in, as entries of the moment, into the slots of the
entries that are too old, from the first on, and behind the last slot if these do not suffice.
Every other entry stays, in particular every fresh one, and all new ones are there in the order of
their lines. -/
theorem scan_placement [HexDecoder] (files : TableFiles) (now : Nat) (table : ConnectionTable)
    (key : SocketKey) (cache : OwnerCache) {sockets : List Connection}
    (hsockets : (files table).Yields key.version sockets) :
    let stale := Scan.staleSlots now cache.ttl cache.entries
    let new := sockets.map (key.entry now)
    let after := (cache.scan files now table key).2.entries
    (stale.Pairwise (· < ·) ∧ ∀ slot, slot ∈ stale ↔
        ∃ entry, cache.entries[slot]? = some entry ∧ entry.isFresh now cache.ttl = false) ∧
      Scan.Placement now cache.ttl cache.entries new after ∧
      (∀ (slot : Nat) (entry : CacheEntry), cache.entries[slot]? = some entry →
        entry.isFresh now cache.ttl = true → after[slot]? = some entry) ∧
      new.Sublist after := by
  intro stale new after
  have hafter : after = Scan.refill now cache.ttl cache.entries new := by
    show (cache.scan files now table key).2.entries = _
    rw [entries_scan, Listing.yields_iff.1 hsockets]
  have hplacement : Scan.Placement now cache.ttl cache.entries new after := by
    rw [hafter]
    exact Scan.placement_refill now cache.ttl cache.entries new
  refine ⟨⟨Scan.pairwise_staleSlots cache.entries, fun slot => Scan.mem_staleSlots⟩, hplacement,
    fun slot entry => hplacement.fresh, ?_⟩
  rw [hafter]
  exact Scan.sublist_refill cache.entries new

/-- A socket that receives multicast DNS at any IPv4 address. -/
def listener (uid : UInt32) : Connection :=
  ⟨IPv4.unspecified.mapped, 5353, IPv4.unspecified.mapped, 0, uid⟩

/-- The line of such a socket. -/
def listenerLine (uid : String) : String :=
  "0 00000000:14E9 00000000:0000 3 4 5 6 " ++ uid ++ "\n"

/-- Only the IPv4 table of UDP is there. Its fifth line is of no use. -/
def brokenFiles : TableFiles
  | .udp => .regular (Utf8.encode ("head\n" ++ listenerLine "1" ++ listenerLine "2" ++
      listenerLine "3" ++ "3 garbage\n" ++ listenerLine "5"))
  | _ => .absent

/-- A multicast DNS packet from 10.0.0.1 in the form of the IPv4 tables. -/
def listenerKey : SocketKey :=
  .ofQuery .v4 ⟨.v4, .udp, .v4 ⟨10, 0, 0, 1⟩, 5353, .v4 ⟨224, 0, 0, 251⟩, 5353⟩

/-- Two entries that are too old after moment 10, and between them one that may still be used. -/
def mixedCache : OwnerCache where
  ttl := 10
  root := "net"
  entries := [⟨.v4, .udp, listener 7, 0⟩, ⟨.v4, .udp, listener 8, 5⟩, ⟨.v4, .udp, listener 9, 0⟩]

/-- The three sockets in front of the bad line go to the first slot, the third and a new one. -/
theorem scan_placement_broken :
    (brokenFiles .udp).Yields .v4 [listener 1, listener 2, listener 3] ∧
      let after := (mixedCache.scan brokenFiles 11 .udp listenerKey).2.entries
      after[0]? = some (listenerKey.entry 11 (listener 1)) ∧
        after[1]? = some ⟨.v4, .udp, listener 8, 5⟩ ∧
        after[2]? = some (listenerKey.entry 11 (listener 2)) ∧
        after.drop 3 = [listenerKey.entry 11 (listener 3)] := by
  have hyields : (brokenFiles .udp).Yields .v4 [listener 1, listener 2, listener 3] :=
    Listing.yields_iff.2 (by decide +kernel)
  obtain ⟨-, hplacement, hfresh, -⟩ :=
    scan_placement brokenFiles 11 .udp listenerKey mixedCache hyields
  refine ⟨hyields, ?_, ?_, ?_, hplacement.appended⟩
  · exact hplacement.reused 0 0 _ (by decide) rfl
  · exact hfresh 1 _ rfl (by decide)
  · exact hplacement.reused 1 2 _ (by decide) rfl

end OwnerCache

end TunnelFirewall
