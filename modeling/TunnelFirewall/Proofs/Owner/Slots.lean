import TunnelFirewall.Proofs.Owner.Listing

/-!
# The slots of the owner cache

A reading gives its sockets, in the order of the table, the slots of the entries that are too old,
from the first slot on, and new slots behind the last when there are more sockets. So entries that
are still fresh keep their slots, and no socket of the reading is lost.
-/
namespace TunnelFirewall

namespace CacheEntry

variable {now ttl : Nat} {entry : CacheEntry}

theorem isFresh_iff : entry.isFresh now ttl = true ↔ now - entry.insertedAt ≤ ttl := by
  simp [isFresh]

theorem isFresh_of_le {earlier : Nat} (hle : earlier ≤ now) (h : entry.isFresh now ttl = true) :
    entry.isFresh earlier ttl = true := by
  rw [isFresh_iff] at h ⊢
  omega

end CacheEntry

/-- The entry that a socket is kept as when its table is read for a key. -/
def SocketKey.entry (key : SocketKey) (now : Nat) (socket : Connection) : CacheEntry :=
  ⟨key.version, key.protocol, socket, now⟩

theorem SocketKey.isFresh_entry (key : SocketKey) (now ttl : Nat) (socket : Connection) :
    (key.entry now socket).isFresh now ttl = true := by
  rw [CacheEntry.isFresh_iff, entry, Nat.sub_self]
  exact Nat.zero_le ttl

namespace Scan

variable {now ttl : Nat}

/-- New entries in the slots of those that are too old, and behind the last. -/
def refill (now ttl : Nat) : List CacheEntry → List CacheEntry → List CacheEntry
  | entries, [] => entries
  | [], taken => taken
  | entry :: entries, new :: taken =>
    if entry.isFresh now ttl then entry :: refill now ttl entries (new :: taken)
    else new :: refill now ttl entries taken

@[simp] theorem refill_nil (entries : List CacheEntry) : refill now ttl entries [] = entries := by
  cases entries <;> rfl

@[simp] theorem nil_refill (taken : List CacheEntry) : refill now ttl [] taken = taken := by
  cases taken <;> rfl

theorem refill_of_isFresh {entry : CacheEntry} (h : entry.isFresh now ttl = true)
    (entries taken : List CacheEntry) :
    refill now ttl (entry :: entries) taken = entry :: refill now ttl entries taken := by
  cases taken with
  | nil => simp
  | cons new taken => exact if_pos h

theorem refill_of_not_isFresh {entry : CacheEntry} (h : ¬ entry.isFresh now ttl = true)
    (entries : List CacheEntry) (new : CacheEntry) (taken : List CacheEntry) :
    refill now ttl (entry :: entries) (new :: taken) = new :: refill now ttl entries taken :=
  if_neg h

/-- The first new entry stands behind the fresh entries at the front. -/
theorem refill_cons (entries : List CacheEntry) (new : CacheEntry) (taken : List CacheEntry) :
    refill now ttl entries (new :: taken) =
      entries.takeWhile (·.isFresh now ttl) ++ new ::
        refill now ttl ((entries.dropWhile (·.isFresh now ttl)).drop 1) taken := by
  induction entries with
  | nil => simp
  | cons entry entries ih =>
    by_cases h : entry.isFresh now ttl = true
    · rw [refill_of_isFresh h, ih, List.takeWhile_cons_of_pos h, List.dropWhile_cons_of_pos h]
      rfl
    · rw [refill_of_not_isFresh h, List.takeWhile_cons_of_neg h, List.dropWhile_cons_of_neg h]
      rfl

theorem store_append (front back : List CacheEntry) (entry : CacheEntry) :
    store (front ++ back) front.length entry = front ++ entry :: back.drop 1 := by
  unfold store
  cases back with
  | nil => simp
  | cons first back => simp

/-- A reading's sockets taken in one after the other. -/
def insertAll (now ttl : Nat) (key : SocketKey) (sockets : List Connection) (scan : Scan) : Scan :=
  sockets.foldl (fun scan socket => scan.insert now ttl key socket) scan

variable {key : SocketKey}

theorem insert_append (front back : List CacheEntry) (found : Option UInt32)
    (socket : Connection) :
    insert now ttl key socket ⟨front ++ back, front.length, found⟩ =
      ⟨front ++ back.takeWhile (·.isFresh now ttl) ++
          key.entry now socket :: (back.dropWhile (·.isFresh now ttl)).drop 1,
        (front ++ back.takeWhile (·.isFresh now ttl)).length,
        if key.matchesSocket socket then some socket.uid else found⟩ := by
  have hslot : freeSlot now ttl (front ++ back) front.length =
      (front ++ back.takeWhile (·.isFresh now ttl)).length := by
    rw [freeSlot, List.drop_left, List.length_append]
  have hsplit : front ++ back = front ++ back.takeWhile (·.isFresh now ttl) ++
      back.dropWhile (·.isFresh now ttl) := by
    rw [List.append_assoc, List.takeWhile_append_dropWhile]
  unfold insert
  simp only [hslot]
  rw [hsplit, store_append]
  rfl

theorem insertAll_append (sockets : List Connection) (front back : List CacheEntry)
    (found : Option UInt32) :
    (insertAll now ttl key sockets ⟨front ++ back, front.length, found⟩).entries =
      front ++ refill now ttl back (sockets.map (key.entry now)) := by
  -- what stands before `reuseFrom` is settled; each insertion moves some of `back` there
  induction sockets generalizing front back found with
  | nil => simp [insertAll]
  | cons socket sockets ih =>
    -- the entry just stored is fresh, so the next search passes over it
    have hrest := ih (front ++ back.takeWhile (·.isFresh now ttl))
      (key.entry now socket :: (back.dropWhile (·.isFresh now ttl)).drop 1)
      (if key.matchesSocket socket then some socket.uid else found)
    rw [refill_of_isFresh (key.isFresh_entry now ttl socket)] at hrest
    rw [List.map_cons, refill_cons, ← List.append_assoc, ← hrest, insertAll, List.foldl_cons,
      insert_append]
    rfl

theorem insertAll_found (sockets : List Connection) (scan : Scan) :
    (insertAll now ttl key sockets scan).found =
      (((sockets.filter key.matchesSocket).getLast?).map (·.uid)).or scan.found := by
  induction sockets generalizing scan with
  | nil => rfl
  | cons socket sockets ih =>
    rw [insertAll, List.foldl_cons]
    refine (ih _).trans ?_
    cases hm : key.matchesSocket socket with
    | false => rw [List.filter_cons_of_neg (by simp [hm]), insert, hm]; rfl
    | true =>
      rw [List.filter_cons_of_pos hm, insert, hm, List.getLast?_cons]
      cases (sockets.filter key.matchesSocket).getLast? <;> rfl

theorem mem_refill {entries taken : List CacheEntry} {entry : CacheEntry}
    (h : entry ∈ refill now ttl entries taken) : entry ∈ entries ∨ entry ∈ taken := by
  fun_induction refill now ttl entries taken with
  | case1 entries => exact .inl h
  | case2 taken => exact .inr h
  | case3 first entries new taken hfresh ih =>
    rcases List.mem_cons.1 h with rfl | h
    · exact .inl List.mem_cons_self
    · exact (ih h).imp_left (List.mem_cons_of_mem _)
  | case4 first entries new taken hstale ih =>
    rcases List.mem_cons.1 h with rfl | h
    · exact .inr List.mem_cons_self
    · exact (ih h).imp (List.mem_cons_of_mem _) (List.mem_cons_of_mem _)

/-- No entry that is still fresh loses its slot. -/
theorem mem_refill_of_isFresh {entries taken : List CacheEntry} {entry : CacheEntry}
    (h : entry ∈ entries) (hfresh : entry.isFresh now ttl = true) :
    entry ∈ refill now ttl entries taken := by
  fun_induction refill now ttl entries taken with
  | case1 entries => exact h
  | case2 taken => cases h
  | case3 first entries new taken hfirst ih =>
    exact List.mem_cons.2 ((List.mem_cons.1 h).imp_right ih)
  | case4 first entries new taken hstale ih =>
    rcases List.mem_cons.1 h with rfl | h
    · exact absurd hfresh hstale
    · exact List.mem_cons_of_mem _ (ih h)

/-- No new entry is lost, and they keep their order. -/
theorem sublist_refill (entries taken : List CacheEntry) :
    taken.Sublist (refill now ttl entries taken) := by
  fun_induction refill now ttl entries taken with
  | case1 entries => exact List.nil_sublist entries
  | case2 taken => exact List.Sublist.refl taken
  | case3 first entries new taken hfresh ih => exact ih.cons first
  | case4 first entries new taken hstale ih => exact ih.cons_cons new

theorem mem_refill_of_taken {entries taken : List CacheEntry} {entry : CacheEntry}
    (h : entry ∈ taken) : entry ∈ refill now ttl entries taken :=
  (sublist_refill entries taken).mem h

theorem length_le_length_refill (entries taken : List CacheEntry) :
    entries.length ≤ (refill now ttl entries taken).length := by
  fun_induction refill now ttl entries taken with
  | case1 entries => exact Nat.le_refl _
  | case2 taken => exact Nat.zero_le _
  | case3 first entries new taken hfresh ih => exact Nat.succ_le_succ ih
  | case4 first entries new taken hstale ih => exact Nat.succ_le_succ ih

/-- An entry of the result is new and stands behind the new ones before it, or it was there and
stands behind the fresh ones before it. -/
theorem refill_split {entries taken before after : List CacheEntry} {entry : CacheEntry}
    (h : refill now ttl entries taken = before ++ entry :: after) :
    (∃ earlier later, taken = earlier ++ entry :: later ∧ ∀ e ∈ earlier, e ∈ before) ∨
      ∃ earlier later, entries = earlier ++ entry :: later ∧
        ∀ e ∈ earlier, e.isFresh now ttl = true → e ∈ before := by
  fun_induction refill now ttl entries taken generalizing before with
  | case1 entries => exact .inr ⟨before, after, h, fun e he _ => he⟩
  | case2 taken => exact .inl ⟨before, after, h, fun e he => he⟩
  | case3 first entries new taken hfresh ih =>
    cases before with
    | nil =>
      obtain ⟨rfl, -⟩ := List.cons.inj h
      exact .inr ⟨[], entries, rfl, by simp⟩
    | cons b before =>
      obtain ⟨rfl, hrest⟩ := List.cons.inj h
      rcases ih hrest with ⟨earlier, later, heq, hbefore⟩ | ⟨earlier, later, heq, hbefore⟩
      · exact .inl ⟨earlier, later, heq, fun e he => List.mem_cons_of_mem _ (hbefore e he)⟩
      · refine .inr ⟨first :: earlier, later, by rw [heq, List.cons_append], ?_⟩
        intro e he hkept
        rcases List.mem_cons.1 he with rfl | he
        · exact List.mem_cons_self
        · exact List.mem_cons_of_mem _ (hbefore e he hkept)
  | case4 first entries new taken hstale ih =>
    cases before with
    | nil =>
      obtain ⟨rfl, -⟩ := List.cons.inj h
      exact .inl ⟨[], taken, rfl, by simp⟩
    | cons b before =>
      obtain ⟨rfl, hrest⟩ := List.cons.inj h
      rcases ih hrest with ⟨earlier, later, heq, hbefore⟩ | ⟨earlier, later, heq, hbefore⟩
      · refine .inl ⟨new :: earlier, later, by rw [heq, List.cons_append], ?_⟩
        intro e he
        rcases List.mem_cons.1 he with rfl | he
        · exact List.mem_cons_self
        · exact List.mem_cons_of_mem _ (hbefore e he)
      · refine .inr ⟨first :: earlier, later, by rw [heq, List.cons_append], ?_⟩
        intro e he hkept
        rcases List.mem_cons.1 he with rfl | he
        · exact absurd hkept hstale
        · exact List.mem_cons_of_mem _ (hbefore e he hkept)

section

variable [HexDecoder]

theorem readLines_fst (path : String) (number : Nat) (lines : List (Except IoFailure String))
    (scan : Scan) :
    (readLines now ttl key path number lines scan).1 =
      insertAll now ttl key (Listing.ofLines key.version number lines).sockets scan := by
  induction lines generalizing number scan with
  | nil => rfl
  | cons first rest ih =>
    cases first with
    | error failure => rfl
    | ok line =>
      unfold readLines Listing.ofLines
      split
      · exact ih (number + 1) scan
      · cases Connection.read key.version number line with
        | error e => rfl
        | ok socket => exact ih (number + 1) (scan.insert now ttl key socket)

theorem isNone_readLines_snd (path : String) (number : Nat)
    (lines : List (Except IoFailure String)) (scan : Scan) :
    (readLines now ttl key path number lines scan).2.isNone =
      (Listing.ofLines key.version number lines).intact := by
  induction lines generalizing number scan with
  | nil => rfl
  | cons first rest ih =>
    cases first with
    | error failure => rfl
    | ok line =>
      unfold readLines Listing.ofLines
      split
      · exact ih (number + 1) scan
      · cases Connection.read key.version number line with
        | error e => rfl
        | ok socket => exact ih (number + 1) (scan.insert now ttl key socket)

end

end Scan

/-- A reading answers from the listing and refills the slots with it. -/
theorem OwnerCache.scan_eq [HexDecoder] (files : TableFiles) (now : Nat) (table : ConnectionTable)
    (key : SocketKey) (cache : OwnerCache) :
    cache.scan files now table key =
      match Listing.of? key.version (files table) with
      | none => (.unavailable, cache)
      | some listing =>
        (listing.answer key, { cache with
          entries := Scan.refill now cache.ttl cache.entries (listing.sockets.map (key.entry now))
          scans := cache.scans + 1 }) := by
  unfold scan Listing.of?
  cases (files table).readLines with
  | error failure => rfl
  | ok lines =>
    cases hread : Scan.readLines now cache.ttl key (cache.path table) 1 lines
      { entries := cache.entries } with
    | mk scan error =>
      have hscan : scan = Scan.insertAll now cache.ttl key
          (Listing.ofLines key.version 1 lines).sockets { entries := cache.entries } := by
        rw [← Scan.readLines_fst (cache.path table), hread]
      have hintact : error.isNone = (Listing.ofLines key.version 1 lines).intact := by
        rw [← Scan.isNone_readLines_snd (cache.path table), hread]
      have hentries : scan.entries = Scan.refill now cache.ttl cache.entries
          ((Listing.ofLines key.version 1 lines).sockets.map (key.entry now)) := by
        rw [hscan]
        exact Scan.insertAll_append _ [] cache.entries none
      have hfound : scan.found =
          ((Listing.ofLines key.version 1 lines).serving key).getLast?.map (·.uid) := by
        rw [hscan, Scan.insertAll_found, Option.or_none, Listing.serving]
      simp only [hread, Listing.answer, ← hintact, hfound, hentries]
      cases error with
      | some e => rfl
      | none =>
        cases ((Listing.ofLines key.version 1 lines).serving key).getLast? <;> rfl

end TunnelFirewall
