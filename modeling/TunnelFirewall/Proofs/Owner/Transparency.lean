import TunnelFirewall.Proofs.Owner.Attribution

/-!
# When the cache answers as the files do

With files that do not change, the fresh entries of a cache are copies of listings, each in the
order of its table. A lookup among them finds the first socket that serves the key, where a
reading answers with the last one, and only if the whole table can be understood. The two agree
exactly on settled listings.
-/
namespace TunnelFirewall

/-- A question at a moment. -/
structure Question where
  now : Nat
  query : FlowQuery

/-- The question with files that do not change. -/
def Question.event (files : TableFiles) (question : Question) : CacheEvent :=
  .resolve files question.now question.query

/-- The versions under which an answer from the files alone looks a flow up. -/
def FlowQuery.Consults [HexDecoder] (files : TableFiles) (query : FlowQuery)
    (version : IpVersion) : Prop :=
  version = .v4 → query.version = .v4 ∧ (SocketKey.ofQuery .v6 query).reading files = .notFound

namespace Ledger

variable [HexDecoder]

/-- The key's table was read at most as long ago as an entry may be used. -/
def ReadWithin (now : Nat) (key : SocketKey) (l : Ledger) : Prop :=
  ∃ reading ∈ l.readings,
    ConnectionTable.select? key.version key.protocol = some reading.table ∧
    now - reading.readAt ≤ l.cache.ttl

/-- The fresh entries are copies of the listings: what stands before a socket in its listing
stands before its entry, and every socket of a recent reading has an entry. -/
structure Faithful (files : TableFiles) (now : Nat) (l : Ledger) : Prop where
  backed : l.Backed
  ordered : ∀ before entry after, l.cache.entries = before ++ entry :: after →
    entry.isFresh now l.cache.ttl = true →
    ∃ listing earlier later, Listing.ofFiles? files entry.version entry.protocol = some listing ∧
      listing.sockets = earlier ++ entry.socket :: later ∧
      ∀ socket ∈ earlier, { entry with socket } ∈ before
  kept : ∀ reading ∈ l.readings, now - reading.readAt ≤ l.cache.ttl → ∀ key : SocketKey,
    ConnectionTable.select? key.version key.protocol = some reading.table →
    ∀ listing, Listing.ofFiles? files key.version key.protocol = some listing →
    ∀ socket ∈ listing.sockets, key.entry reading.readAt socket ∈ l.cache.entries

variable {files : TableFiles} {now : Nat} {key : SocketKey} {query : FlowQuery}
  {l l' : Ledger} {answer : Owner}

theorem faithful_empty (files : TableFiles) (now ttl : Nat) (root : String) :
    Faithful files now ⟨{ ttl, root }, []⟩ where
  backed := fun entry hentry => nomatch hentry
  ordered := fun before entry after h => absurd h.symm (by simp)
  kept := fun reading hreading => nomatch hreading

theorem Faithful.mono (h : l.Faithful files now) {later : Nat} (hle : now ≤ later) :
    l.Faithful files later where
  backed := h.backed
  ordered := fun before entry after hsplit hfresh =>
    h.ordered before entry after hsplit (CacheEntry.isFresh_of_le hle hfresh)
  kept := fun reading hreading hage => h.kept reading hreading (by omega)

theorem LookupCourse.faithful (hcourse : LookupCourse files now key l answer l')
    (h : l.Faithful files now) : l'.Faithful files now := by
  have hbacked := hcourse.backed h.backed
  cases hcourse with
  | hit entry hfind => exact ⟨hbacked, h.ordered, h.kept⟩
  | noTable hfind htable => exact ⟨hbacked, h.ordered, h.kept⟩
  | noFile hfind table htable hfile => exact ⟨hbacked, h.ordered, h.kept⟩
  | read hfind table htable listing hfile =>
    rw [← Listing.ofFiles?_of_select? htable] at hfile
    refine ⟨hbacked, ?_, ?_⟩
    · intro before entry after hsplit hfresh
      rcases Scan.refill_split hsplit with ⟨e, e', htaken, hbefore⟩ | ⟨e, e', hold, hbefore⟩
      · obtain ⟨earlier, rest, hsockets, rfl, hrest⟩ := List.map_eq_append_iff.1 htaken
        obtain ⟨socket, later, rfl, rfl, -⟩ := List.map_eq_cons_iff.1 hrest
        refine ⟨listing, earlier, later, hfile, hsockets, ?_⟩
        intro other hother
        exact hbefore _ (List.mem_map_of_mem hother)
      · obtain ⟨listed, earlier, later, hfiles, hsockets, hearlier⟩ :=
          h.ordered e entry e' hold hfresh
        refine ⟨listed, earlier, later, hfiles, hsockets, ?_⟩
        intro other hother
        exact hbefore _ (hearlier other hother) hfresh
    · intro reading hreading hage other hother listed hlisted socket hsocket
      rcases List.mem_append.1 hreading with hold | hnew
      · refine Scan.mem_refill_of_isFresh (h.kept reading hold hage other hother listed hlisted
          socket hsocket) ?_
        exact CacheEntry.isFresh_iff.2 hage
      · -- the new reading is of one version and one protocol, so of no other key's table
        obtain rfl := List.mem_singleton.1 hnew
        obtain ⟨hversion, hprotocol⟩ := ConnectionTable.select?_eq_some_iff.1 htable
        obtain ⟨hversion', hprotocol'⟩ := ConnectionTable.select?_eq_some_iff.1 hother
        rw [hversion', hprotocol', ← hversion, ← hprotocol, hfile] at hlisted
        obtain rfl := Option.some.inj hlisted
        refine Scan.mem_refill_of_taken (List.mem_map.2 ⟨socket, hsocket, ?_⟩)
        rw [SocketKey.entry, SocketKey.entry, hversion', hprotocol', ← hversion, ← hprotocol]

/-- An entry that a lookup finds is of the first socket in its listing that serves the key. -/
theorem Faithful.find?_first (h : l.Faithful files now) {entry : CacheEntry}
    (hfind : l.cache.find? now key = some entry) :
    ∃ listing, Listing.ofFiles? files key.version key.protocol = some listing ∧
      (listing.serving key).head? = some entry.socket := by
  obtain ⟨-, hfresh, hversion, hprotocol, hserves⟩ := OwnerCache.find?_eq_some hfind
  obtain ⟨-, before, after, hsplit, hbefore⟩ := List.find?_eq_some_iff_append.1 hfind
  obtain ⟨listing, earlier, later, hlisting, hsockets, hearlier⟩ :=
    h.ordered before entry after hsplit hfresh
  rw [hversion, hprotocol] at hlisting
  -- an earlier socket that serves the key would have been found first
  have hnone : earlier.filter key.matchesSocket = [] := by
    rw [List.filter_eq_nil_iff]
    intro socket hsocket hmatch
    have hnot := hbefore _ (hearlier socket hsocket)
    rw [CacheEntry.isFresh_iff] at hfresh
    simp [SocketKey.matchesEntry, CacheEntry.isFresh, hversion, hprotocol, hmatch, hfresh] at hnot
  refine ⟨listing, hlisting, ?_⟩
  rw [Listing.serving, hsockets, List.filter_append, hnone, List.nil_append,
    List.filter_cons_of_pos hserves, List.head?_cons]

/-- Behind a recent reading, a lookup finds an entry for every key that a socket serves. -/
theorem Faithful.find?_ne_none (h : l.Faithful files now) (hread : l.ReadWithin now key)
    {listing : Listing} (hlisting : Listing.ofFiles? files key.version key.protocol = some listing)
    {socket : Connection} (hfirst : (listing.serving key).head? = some socket) :
    l.cache.find? now key ≠ none := by
  obtain ⟨reading, hreading, htable, hage⟩ := hread
  obtain ⟨hsocket, hserves⟩ := List.mem_filter.1 (List.mem_of_head? hfirst)
  have hentry := h.kept reading hreading hage key htable listing hlisting socket hsocket
  intro hnone
  have hnot := List.find?_eq_none.1 hnone _ hentry
  simp [SocketKey.matchesEntry, SocketKey.entry, CacheEntry.isFresh, hserves, hage] at hnot

theorem Backed.readWithin (h : l.Backed) {entry : CacheEntry}
    (hfind : l.cache.find? now key = some entry) : l.ReadWithin now key := by
  obtain ⟨hmem, hfresh, hversion, hprotocol, -⟩ := OwnerCache.find?_eq_some hfind
  obtain ⟨reading, hreading, hreadAt, htable, -⟩ := h entry hmem
  rw [hversion, hprotocol] at htable
  rw [CacheEntry.isFresh_iff, ← hreadAt] at hfresh
  exact ⟨reading, hreading, htable, hfresh⟩

theorem LookupCourse.answer_eq_reading (h : LookupCourse files now key l answer l')
    (hnone : l.cache.find? now key = none) : answer = key.reading files := by
  unfold SocketKey.reading
  cases h with
  | hit entry hfind => cases hnone.symm.trans hfind
  | noTable hfind htable => rw [htable]
  | noFile hfind table htable hfile => simp only [htable, Listing.ofFiles?_of_select? htable, hfile]
  | read hfind table htable listing hfile =>
    simp only [htable, Listing.ofFiles?_of_select? htable, hfile]

theorem lookup_of_find?_eq_some {entry : CacheEntry} (h : l.cache.find? now key = some entry) :
    (l.cache.lookup files now key).1 = .uid entry.socket.uid := by
  rw [OwnerCache.lookup, h]

theorem reading_of_ofFiles? {listing : Listing}
    (h : Listing.ofFiles? files key.version key.protocol = some listing) :
    key.reading files = listing.answer key := by
  unfold SocketKey.reading
  cases htable : ConnectionTable.select? key.version key.protocol with
  | none => rw [Listing.ofFiles?, htable] at h; cases h
  | some table => simp only [h]

/-- A lookup answers as the files do exactly if its table was not read recently or its listing is
settled. -/
theorem Faithful.lookup_eq_reading_iff (h : l.Faithful files now) (key : SocketKey) :
    (l.cache.lookup files now key).1 = key.reading files ↔
      (l.ReadWithin now key → ∀ listing,
        Listing.ofFiles? files key.version key.protocol = some listing → listing.Settled key) := by
  cases hfind : l.cache.find? now key with
  | none =>
    refine iff_of_true ((lookup_course files now key l).answer_eq_reading hfind) ?_
    intro hread listing hlisting
    rw [Listing.settled_iff]
    intro socket hfirst
    exact absurd hfind (h.find?_ne_none hread hlisting hfirst)
  | some entry =>
    obtain ⟨listing, hlisting, hfirst⟩ := h.find?_first hfind
    rw [lookup_of_find?_eq_some hfind, reading_of_ofFiles? hlisting]
    constructor
    · intro heq _ listed hlisted
      obtain rfl := Option.some.inj (hlisting.symm.trans hlisted)
      rw [Listing.settled_iff]
      intro socket hsocket
      obtain rfl := Option.some.inj (hfirst.symm.trans hsocket)
      exact heq.symm
    · intro hsettled
      exact (Listing.settled_iff.1 (hsettled (h.backed.readWithin hfind) listing hlisting) _
        hfirst).symm

theorem Faithful.lookup_eq_notFound_iff (h : l.Faithful files now) (key : SocketKey) :
    (l.cache.lookup files now key).1 = .notFound ↔ key.reading files = .notFound := by
  cases hfind : l.cache.find? now key with
  | none => rw [(lookup_course files now key l).answer_eq_reading hfind]
  | some entry =>
    obtain ⟨listing, hlisting, hfirst⟩ := h.find?_first hfind
    rw [lookup_of_find?_eq_some hfind, reading_of_ofFiles? hlisting,
      Listing.answer_eq_notFound_iff]
    refine iff_of_false nofun ?_
    rintro ⟨-, hnone⟩
    rw [hnone] at hfirst
    cases hfirst

omit [HexDecoder] in
theorem ofQuery_version_ne (query : FlowQuery) :
    (SocketKey.ofQuery .v6 query).version ≠ (SocketKey.ofQuery .v4 query).version :=
  fun h => IpVersion.noConfusion h

/-- A lookup reads no table of the other version. -/
theorem LookupCourse.readWithin_iff (h : LookupCourse files now key l answer l')
    {other : SocketKey} (hne : key.version ≠ other.version) :
    l'.ReadWithin now other ↔ l.ReadWithin now other := by
  cases h with
  | hit entry hfind => exact Iff.rfl
  | noTable hfind htable => exact Iff.rfl
  | noFile hfind table htable hfile => exact Iff.rfl
  | read hfind table htable listing hfile =>
    constructor
    · rintro ⟨reading, hreading, hother, hage⟩
      rcases List.mem_append.1 hreading with hold | hnew
      · exact ⟨reading, hold, hother, hage⟩
      · obtain rfl := List.mem_singleton.1 hnew
        have hversion := (ConnectionTable.select?_eq_some_iff.1 htable).1
        exact absurd (hversion.trans (ConnectionTable.select?_eq_some_iff.1 hother).1.symm) hne
    · rintro ⟨reading, hreading, hother, hage⟩
      exact ⟨reading, List.mem_append_left _ hreading, hother, hage⟩

/-- A question is answered as the files do exactly if every listing it consults whose table was
read recently is settled. -/
theorem Faithful.resolve_eq_reading_iff (h : l.Faithful files now) (query : FlowQuery) :
    (l.cache.resolve files now query).1 = query.reading files ↔
      ∀ version, query.Consults files version →
        l.ReadWithin now (.ofQuery version query) → ∀ listing,
          Listing.ofFiles? files version query.protocol = some listing →
          listing.Settled (.ofQuery version query) := by
  have hsix := h.lookup_eq_reading_iff (.ofQuery .v6 query)
  have hfound := h.lookup_eq_notFound_iff (.ofQuery .v6 query)
  rcases resolve_cases files now query l with ⟨hkind, hone, -⟩ | ⟨hversion, hnone, htwo, -⟩
  · -- the first answer is the last one, here and from the files
    have hreading : query.reading files = (SocketKey.ofQuery .v6 query).reading files := by
      unfold FlowQuery.reading
      split
      · rename_i hversion hnotFound
        exact absurd (hfound.2 hnotFound) (hkind hversion)
      · rfl
    rw [hone, hreading, hsix]
    constructor
    · intro hsettled version hconsults
      cases version with
      | v6 => exact hsettled
      | v4 =>
        obtain ⟨hversion, hnotFound⟩ := hconsults rfl
        exact absurd (hfound.2 hnotFound) (hkind hversion)
    · intro hsettled
      exact hsettled .v6 nofun
  · have hnotFound := hfound.1 hnone
    have hreading : query.reading files = (SocketKey.ofQuery .v4 query).reading files := by
      unfold FlowQuery.reading
      rw [hversion, hnotFound]
    have hfaithful := (lookup_course files now (.ofQuery .v6 query) l).faithful h
    have hfour := hfaithful.lookup_eq_reading_iff (.ofQuery .v4 query)
    rw [(lookup_course files now (.ofQuery .v6 query) l).readWithin_iff
      (ofQuery_version_ne query)] at hfour
    rw [htwo, hreading, hfour]
    constructor
    · intro hsettled version hconsults
      cases version with
      | v6 => exact hsix.1 (hnone.trans hnotFound.symm)
      | v4 => exact hsettled
    · intro hsettled
      exact hsettled .v4 fun _ => ⟨hversion, hnotFound⟩

/-- A new cache answers as the files do. -/
theorem resolve_empty (files : TableFiles) (now ttl : Nat) (root : String) (query : FlowQuery) :
    (({ ttl, root } : OwnerCache).resolve files now query).1 = query.reading files :=
  ((faithful_empty files now ttl root).resolve_eq_reading_iff query).2
    fun _ _ ⟨_, hreading, _⟩ => nomatch hreading

theorem step_faithful (question : Question) (h : l.Faithful files question.now) :
    (l.step (question.event files)).Faithful files question.now :=
  resolve_preserves (fun key l' => (lookup_course files question.now key l').faithful) h

theorem run_faithful {start : Nat} (questions : List Question) (h : l.Faithful files start)
    (hordered : (start :: (questions.map Question.now ++ [now])).Pairwise (· ≤ ·)) :
    (l.run (questions.map (Question.event files))).Faithful files now := by
  induction questions generalizing l start with
  | nil => exact h.mono (List.rel_of_pairwise_cons hordered (by simp))
  | cons question questions ih =>
    have hstart : start ≤ question.now := List.rel_of_pairwise_cons hordered (by simp)
    exact ih (step_faithful question (h.mono hstart)) hordered.of_cons

theorem faithful_of_ordered (files : TableFiles) (ttl : Nat) (root : String)
    {earlier : List Question} {question : Question}
    (hordered : ((earlier ++ [question]).map Question.now).Pairwise (· ≤ ·)) :
    (run ⟨{ ttl, root }, []⟩ (earlier.map (Question.event files))).Faithful files question.now := by
  refine run_faithful earlier (faithful_empty files 0 ttl root) ?_
  rw [List.map_append] at hordered
  exact List.pairwise_cons.2 ⟨fun instant _ => Nat.zero_le instant, hordered⟩

/-- With files that do not change, an answer after any earlier questions is the answer of a new
cache exactly if every listing the question consults is settled whose table was read at most
`ttl` ago. -/
theorem resolve_eq_resolve_empty_iff (files : TableFiles) (ttl : Nat) (root : String)
    (earlier : List Question) (question : Question)
    (hordered : ((earlier ++ [question]).map Question.now).Pairwise (· ≤ ·)) :
    ((run ⟨{ ttl, root }, []⟩ (earlier.map (Question.event files))).cache.resolve files
        question.now question.query).1 =
      (({ ttl, root } : OwnerCache).resolve files question.now question.query).1 ↔
    ∀ version, question.query.Consults files version →
      (run ⟨{ ttl, root }, []⟩ (earlier.map (Question.event files))).ReadWithin question.now
        (.ofQuery version question.query) →
      ∀ listing, Listing.ofFiles? files version question.query.protocol = some listing →
        listing.Settled (.ofQuery version question.query) := by
  rw [resolve_empty]
  exact (faithful_of_ordered files ttl root hordered).resolve_eq_reading_iff question.query

end Ledger

namespace Ledger

/-- Two sockets of ICMP serve the same ping: one for any remote address, and behind it one for
192.0.2.1. -/
def twoOwnerFiles : TableFiles
  | .icmp => .regular (Utf8.encode ("head\n" ++
      "0 0100000A:0009 00000000:0000 3 4 5 6 111\n" ++
      "1 0100000A:0009 010200C0:0000 3 4 5 6 222\n"))
  | _ => .absent

/-- Who owns the ping from 10.0.0.1 to 192.0.2.1? -/
def twoOwnerQuestion : Question := ⟨0, pingQuery⟩

theorem resolve_eq_resolve_empty_iff_twoOwner :
    ((run ⟨{ ttl := 100, root := "net" }, []⟩
        ([twoOwnerQuestion].map (Question.event twoOwnerFiles))).cache.resolve twoOwnerFiles
        twoOwnerQuestion.now twoOwnerQuestion.query).1 =
      (({ ttl := 100, root := "net" } : OwnerCache).resolve twoOwnerFiles twoOwnerQuestion.now
        twoOwnerQuestion.query).1 ↔
    ∀ version, twoOwnerQuestion.query.Consults twoOwnerFiles version →
      (run ⟨{ ttl := 100, root := "net" }, []⟩
        ([twoOwnerQuestion].map (Question.event twoOwnerFiles))).ReadWithin twoOwnerQuestion.now
        (.ofQuery version twoOwnerQuestion.query) →
      ∀ listing,
        Listing.ofFiles? twoOwnerFiles version twoOwnerQuestion.query.protocol = some listing →
        listing.Settled (.ofQuery version twoOwnerQuestion.query) :=
  resolve_eq_resolve_empty_iff twoOwnerFiles 100 "net" [twoOwnerQuestion] twoOwnerQuestion
    (by decide)

/-- The same question asked twice in a row gets two answers: the last line's owner from the
table, the first line's from the entries. -/
theorem exists_resolve_ne_resolve_empty :
    ¬ ∀ (files : TableFiles) (ttl : Nat) (root : String) (earlier : List Question)
      (question : Question), ((earlier ++ [question]).map Question.now).Pairwise (· ≤ ·) →
      ((run ⟨{ ttl, root }, []⟩ (earlier.map (Question.event files))).cache.resolve files
          question.now question.query).1 =
        (({ ttl, root } : OwnerCache).resolve files question.now question.query).1 := by
  intro h
  have hequal := h twoOwnerFiles 100 "net" [twoOwnerQuestion] twoOwnerQuestion (by decide)
  have hcold : (({ ttl := 100, root := "net" } : OwnerCache).resolve twoOwnerFiles
      twoOwnerQuestion.now twoOwnerQuestion.query).1 = .uid 222 := by decide +kernel
  have hwarm : ((run ⟨{ ttl := 100, root := "net" }, []⟩
      ([twoOwnerQuestion].map (Question.event twoOwnerFiles))).cache.resolve twoOwnerFiles
      twoOwnerQuestion.now twoOwnerQuestion.query).1 = .uid 111 := by decide +kernel
  rw [hcold, hwarm] at hequal
  cases hequal

end Ledger

end TunnelFirewall
