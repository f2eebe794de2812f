import TunnelFirewall.Owner.Cache

/-!
# What a connection table lists

A reading takes the sockets of a table in one after the other and stops at the first line that
cannot be read or understood. What it has seen by then is a listing; the slots that the sockets
get and the answer for a key are functions of it.
-/
namespace TunnelFirewall

/-- The sockets of a table up to the first line that cannot be read or understood, and whether
there is no such line. -/
structure Listing where
  sockets : List Connection
  intact : Bool
deriving DecidableEq

namespace Listing

/-- The sockets that serve a key, in the order of the table. -/
def serving (key : SocketKey) (listing : Listing) : List Connection :=
  listing.sockets.filter key.matchesSocket

/-- The answer of a complete reading is the last socket that serves the key. -/
def answer (key : SocketKey) (listing : Listing) : Owner :=
  if listing.intact then
    match (listing.serving key).getLast? with
    | some socket => .uid socket.uid
    | none => .notFound
  else .unavailable

/-- No socket serves the key, or the table is complete and the first and the last socket that
serve the key have the same owner. -/
def Settled (key : SocketKey) (listing : Listing) : Prop :=
  listing.serving key = [] ∨
    listing.intact = true ∧
      (listing.serving key).head?.map (·.uid) = (listing.serving key).getLast?.map (·.uid)

variable {key : SocketKey} {listing : Listing}

theorem answer_eq_notFound_iff :
    listing.answer key = .notFound ↔ listing.intact = true ∧ listing.serving key = [] := by
  unfold answer
  split
  · rename_i hintact
    cases hlast : (listing.serving key).getLast? with
    | none => simp [hintact, List.getLast?_eq_none_iff.1 hlast]
    | some socket =>
      have hne : listing.serving key ≠ [] := List.ne_nil_of_mem (List.mem_of_getLast? hlast)
      simp [hne]
  · rename_i hintact
    simp [hintact]

/-- A listing is settled if the first socket that serves the key has the owner that the listing
answers with. -/
theorem settled_iff :
    listing.Settled key ↔
      ∀ socket, (listing.serving key).head? = some socket →
        listing.answer key = .uid socket.uid := by
  unfold Settled answer
  cases hserving : listing.serving key with
  | nil => simp
  | cons first rest =>
    rw [List.getLast?_cons]
    cases listing.intact <;> simp [eq_comm]

end Listing

/-- The protocol of the sockets in a table. -/
def ConnectionTable.protocol : ConnectionTable → Protocol
  | .tcp | .tcp6 => .tcp
  | .udp | .udp6 => .udp
  | .icmp => .icmp
  | .icmp6 => .icmpv6

theorem ConnectionTable.select?_eq_some_iff {version : IpVersion} {protocol : Protocol}
    {table : ConnectionTable} :
    select? version protocol = some table ↔
      version = table.version ∧ protocol = table.protocol := by
  constructor
  · intro h
    cases version <;> simp only [select?] at h <;>
      (split at h; · cases h; exact ⟨rfl, ‹_›⟩) <;>
      (split at h; · cases h; exact ⟨rfl, ‹_›⟩) <;>
      (split at h; · cases h; exact ⟨rfl, ‹_›⟩) <;> cases h
  · rintro ⟨rfl, rfl⟩
    cases table <;> rfl

variable [HexDecoder]

namespace Listing

/-- The listing of a table whose lines from line `number` on are given. -/
def ofLines (version : IpVersion) : Nat → List (Except IoFailure String) → Listing
  | _, [] => ⟨[], true⟩
  | _, .error _ :: _ => ⟨[], false⟩
  | number, .ok line :: rest =>
    if number = 1 then ofLines version (number + 1) rest
    else
      match Connection.read version number line with
      | .error _ => ⟨[], false⟩
      | .ok socket =>
        let listing := ofLines version (number + 1) rest
        ⟨socket :: listing.sockets, listing.intact⟩

/-- The listing of what stands at the path of a table, if it can be opened. -/
def of? (version : IpVersion) (content : FileState) : Option Listing :=
  match content.readLines with
  | .error _ => none
  | .ok lines => some (ofLines version 1 lines)

/-- The listing of the table for a version and a protocol, if there is one and it can be
opened. -/
def ofFiles? (files : TableFiles) (version : IpVersion) (protocol : Protocol) : Option Listing :=
  (ConnectionTable.select? version protocol).bind fun table => of? version (files table)

end Listing

/-- The answer for a key that the files alone give. -/
def SocketKey.reading (files : TableFiles) (key : SocketKey) : Owner :=
  match ConnectionTable.select? key.version key.protocol with
  | none => .notFound
  | some _ =>
    match Listing.ofFiles? files key.version key.protocol with
    | none => .unavailable
    | some listing => listing.answer key

/-- The answer to a question that the files alone give. -/
def FlowQuery.reading (files : TableFiles) (query : FlowQuery) : Owner :=
  match query.version, (SocketKey.ofQuery .v6 query).reading files with
  | .v4, .notFound => (SocketKey.ofQuery .v4 query).reading files
  | _, answer => answer

/-- A line of the content is understood as this socket, and the lines before it were read and,
behind the heading, understood. -/
def FileState.Lists (version : IpVersion) (content : FileState) (socket : Connection) : Prop :=
  ∃ (heading : String) (before : List String) (line : String)
    (after : List (Except IoFailure String)),
    content.readLines = .ok (.ok heading :: (before.map .ok ++ .ok line :: after)) ∧
    (∀ i text, before[i]? = some text → ∃ s, Connection.read version (i + 2) text = .ok s) ∧
    Connection.read version (before.length + 2) line = .ok socket

namespace Listing

variable {version : IpVersion}

theorem ofLines_ok {number : Nat} (hnumber : 1 < number) {line : String} {socket : Connection}
    (hread : Connection.read version number line = .ok socket)
    (rest : List (Except IoFailure String)) :
    (ofLines version number (.ok line :: rest)).sockets =
      socket :: (ofLines version (number + 1) rest).sockets := by
  have hne : number ≠ 1 := by omega
  simp only [ofLines, if_neg hne, hread]

theorem exists_line_of_mem_ofLines {number : Nat} (hnumber : 1 < number)
    {lines : List (Except IoFailure String)} {socket : Connection}
    (h : socket ∈ (ofLines version number lines).sockets) :
    ∃ (before : List String) (line : String) (after : List (Except IoFailure String)),
      lines = before.map .ok ++ .ok line :: after ∧
      (∀ i text, before[i]? = some text →
        ∃ s, Connection.read version (i + number) text = .ok s) ∧
      Connection.read version (before.length + number) line = .ok socket := by
  induction lines generalizing number with
  | nil => cases h
  | cons first rest ih =>
    cases first with
    | error failure => cases h
    | ok text =>
      cases hread : Connection.read version number text with
      | error e =>
        have hne : number ≠ 1 := by omega
        simp only [ofLines, if_neg hne, hread] at h
        cases h
      | ok s =>
        rw [ofLines_ok hnumber hread, List.mem_cons] at h
        rcases h with rfl | h
        · exact ⟨[], text, rest, rfl, by simp, by simpa using hread⟩
        · obtain ⟨before, line, after, rfl, hbefore, hline⟩ := ih (Nat.lt_succ_of_lt hnumber) h
          refine ⟨text :: before, line, after, rfl, ?_, ?_⟩
          · intro i other hi
            cases i with
            | zero =>
              obtain rfl : text = other := by simpa using hi
              exact ⟨s, by simpa using hread⟩
            | succ i =>
              obtain ⟨t, ht⟩ := hbefore i other hi
              exact ⟨t, by rwa [Nat.succ_add_eq_add_succ]⟩
          · rwa [List.length_cons, Nat.succ_add_eq_add_succ]

theorem mem_ofLines {number : Nat} (hnumber : 1 < number) {before : List String} {line : String}
    {after : List (Except IoFailure String)} {socket : Connection}
    (hbefore : ∀ i text, before[i]? = some text →
      ∃ s, Connection.read version (i + number) text = .ok s)
    (hline : Connection.read version (before.length + number) line = .ok socket) :
    socket ∈ (ofLines version number (before.map .ok ++ .ok line :: after)).sockets := by
  induction before generalizing number with
  | nil =>
    rw [List.length_nil, Nat.zero_add] at hline
    rw [List.map_nil, List.nil_append, ofLines_ok hnumber hline]
    exact List.mem_cons_self
  | cons first before ih =>
    obtain ⟨s, hs⟩ := hbefore 0 first rfl
    rw [Nat.zero_add] at hs
    rw [List.map_cons, List.cons_append, ofLines_ok hnumber hs]
    refine List.mem_cons_of_mem _ (ih (Nat.lt_succ_of_lt hnumber) ?_ ?_)
    · intro i text hi
      obtain ⟨t, ht⟩ := hbefore (i + 1) text hi
      exact ⟨t, by rwa [Nat.succ_add_eq_add_succ] at ht⟩
    · rwa [List.length_cons, Nat.succ_add_eq_add_succ] at hline

/-- Nothing of these lines is taken in: none is left, or the first, which has number `number`,
cannot be read or understood. -/
def Halts (version : IpVersion) (number : Nat) (rest : List (Except IoFailure String)) : Prop :=
  ∀ line after, rest = .ok line :: after → ∃ e, Connection.read version number line = .error e

theorem ofLines_append {number : Nat} (hnumber : 1 < number) {texts : List String}
    {sockets : List Connection} {rest : List (Except IoFailure String)}
    (hread : texts.mapIdx (fun i line => Connection.read version (i + number) line) =
      sockets.map .ok)
    (hend : Halts version (texts.length + number) rest) :
    ofLines version number (texts.map .ok ++ rest) = ⟨sockets, rest.isEmpty⟩ := by
  induction texts generalizing number sockets with
  | nil =>
    have hnone : sockets = [] := by simpa using hread
    subst hnone
    cases rest with
    | nil => rfl
    | cons first after =>
      cases first with
      | error failure => rfl
      | ok line =>
        have hne : number ≠ 1 := by omega
        obtain ⟨e, he⟩ := hend line after rfl
        rw [List.length_nil, Nat.zero_add] at he
        simp only [List.map_nil, List.nil_append, ofLines, if_neg hne, he]
        rfl
  | cons line texts ih =>
    rw [List.mapIdx_cons] at hread
    obtain ⟨socket, later, rfl, hsocket, hlater⟩ := List.map_eq_cons_iff.1 hread.symm
    have hne : number ≠ 1 := by omega
    have hline : Connection.read version number line = .ok socket := by
      rw [hsocket, Nat.zero_add]
    have hrest : ofLines version (number + 1) (texts.map .ok ++ rest) = ⟨later, rest.isEmpty⟩ := by
      apply ih (Nat.lt_succ_of_lt hnumber)
      · simpa only [Nat.succ_add_eq_add_succ] using hlater.symm
      · rwa [← Nat.succ_add_eq_add_succ]
    simp only [List.map_cons, List.cons_append, ofLines, if_neg hne, hline, hrest]

theorem exists_ofLines_append (version : IpVersion) {number : Nat} (hnumber : 1 < number)
    (lines : List (Except IoFailure String)) :
    ∃ (texts : List String) (rest : List (Except IoFailure String)),
      lines = texts.map .ok ++ rest ∧
      texts.mapIdx (fun i line => Connection.read version (i + number) line) =
        (ofLines version number lines).sockets.map .ok ∧
      Halts version (texts.length + number) rest := by
  induction lines generalizing number with
  | nil => exact ⟨[], [], rfl, rfl, nofun⟩
  | cons first after ih =>
    cases first with
    | error failure => exact ⟨[], .error failure :: after, rfl, rfl, nofun⟩
    | ok line =>
      have hne : number ≠ 1 := by omega
      cases hline : Connection.read version number line with
      | error e =>
        refine ⟨[], .ok line :: after, rfl, ?_, ?_⟩
        · simp only [ofLines, if_neg hne, hline, List.mapIdx_nil, List.map_nil]
        · rintro text tail ⟨⟩
          exact ⟨e, by rwa [List.length_nil, Nat.zero_add]⟩
      | ok socket =>
        obtain ⟨texts, rest, rfl, hread, hend⟩ := ih (Nat.lt_succ_of_lt hnumber)
        refine ⟨line :: texts, rest, rfl, ?_, ?_⟩
        · simp only [ofLines, if_neg hne, hline, List.mapIdx_cons, Nat.zero_add, List.map_cons,
            ← hread, Nat.succ_add_eq_add_succ]
        · rwa [List.length_cons, Nat.succ_add_eq_add_succ]

/-- The sockets of a listing are those of the lines before the first bad one. -/
theorem lists_iff {content : FileState} {socket : Connection} :
    content.Lists version socket ↔
      ∃ listing, of? version content = some listing ∧ socket ∈ listing.sockets := by
  constructor
  · rintro ⟨heading, before, line, after, hlines, hbefore, hline⟩
    refine ⟨ofLines version 1 (.ok heading :: (before.map .ok ++ .ok line :: after)), ?_, ?_⟩
    · rw [of?, hlines]
    · exact mem_ofLines (Nat.lt_succ_self 1) hbefore hline
  · rintro ⟨listing, hlisting, hsocket⟩
    unfold of? at hlisting
    split at hlisting
    · cases hlisting
    · rename_i lines hlines
      obtain rfl := Option.some.inj hlisting
      cases lines with
      | nil => cases hsocket
      | cons first rest =>
        cases first with
        | error failure => cases hsocket
        | ok heading =>
          obtain ⟨before, line, after, rfl, hbefore, hline⟩ :=
            exists_line_of_mem_ofLines (Nat.lt_succ_self 1) hsocket
          exact ⟨heading, before, line, after, hlines, hbefore, hline⟩

theorem ofFiles?_of_select? {files : TableFiles} {protocol : Protocol} {table : ConnectionTable}
    (h : ConnectionTable.select? version protocol = some table) :
    ofFiles? files version protocol = of? version (files table) := by
  rw [ofFiles?, h]
  rfl

end Listing

end TunnelFirewall
