import TunnelFirewall.Outer.Json.Parser
import TunnelFirewall.Proofs.Outer.Json.Quote

/-!
# Printed JSON is read back

The printed form of a value is scanned into the tokens of the value, whatever the layout and the
level of indentation, and the reader puts the value together again from these. So every value that
can be written at all is read back from its printed form.
-/
namespace TunnelFirewall.PlainJson

open Json

mutual

/-- The tokens of a value. -/
def tokens : Json → List Token
  | .null => [.null]
  | .bool value => [.bool value]
  | .count value => [.count value]
  | .number lexeme => [.number lexeme]
  | .string text => [.string text]
  | .array items => .openArray :: (itemTokens items ++ [.closeArray])
  | .object members => .openObject :: (memberTokens members ++ [.closeObject])

def itemTokens : List Json → List Token
  | [] => []
  | [item] => tokens item
  | item :: rest => tokens item ++ .comma :: itemTokens rest

def memberTokens : List (Option String × Json) → List Token
  | [] => []
  | [(name, value)] => .string name :: .colon :: tokens value
  | (name, value) :: rest => .string name :: .colon :: (tokens value ++ .comma :: memberTokens rest)

end

/-- A value that has a written form: strings and names are texts, and what is kept as a number is
the lexeme of one. -/
inductive IsWritable : Json → Prop
  | null : IsWritable .null
  | bool (value : Bool) : IsWritable (.bool value)
  | count (value : Nat) : IsWritable (.count value)
  | number {lexeme : String} (hnumeric : ∀ c ∈ lexeme.toList, Token.isNumeric c = true)
      (hnumber : Token.ofNumeric? lexeme.toList = some (.number lexeme)) :
      IsWritable (.number lexeme)
  | text (value : String) : IsWritable (.text value)
  | array {items : List Json} (h : ∀ item ∈ items, IsWritable item) : IsWritable (.array items)
  | object {members : List (Option String × Json)}
      (hnames : ∀ member ∈ members, member.1.isSome = true)
      (h : ∀ member ∈ members, IsWritable member.2) : IsWritable (.object members)

namespace Reader

/-- The tokens of items start with one that does not end them. -/
theorem exists_first_itemTokens (item : Json) (items : List Json) :
    ∃ token row, itemTokens (item :: items) = token :: row ∧ token ≠ .closeArray := by
  have hitem : ∃ token row, tokens item = token :: row ∧ token ≠ .closeArray := by
    cases item <;> exact ⟨_, _, rfl, nofun⟩
  obtain ⟨token, row, hrow, hne⟩ := hitem
  cases items with
  | nil => exact ⟨token, row, hrow, hne⟩
  | cons next items =>
    refine ⟨token, row ++ .comma :: itemTokens (next :: items), ?_, hne⟩
    rw [itemTokens, hrow]
    · rfl
    · nofun

theorem exists_first_memberTokens (member : Option String × Json)
    (members : List (Option String × Json)) :
    ∃ row, memberTokens (member :: members) = .string member.1 :: row := by
  cases members <;> exact ⟨_, rfl⟩

/-- The reader takes the tokens of this value. -/
def Reads (value : Json) : Prop :=
  ∀ frames rest, (tokens value ++ rest).foldlM step ⟨.value, frames⟩ =
    rest.foldlM step ⟨.behind value, frames⟩

theorem reads_items {items : List Json} (hitems : ∀ item ∈ items, Reads item) (hne : items ≠ [])
    (taken : List Json) (frames : List Frame) (rest : List Token) :
    (itemTokens items ++ .closeArray :: rest).foldlM step ⟨.value, .array taken :: frames⟩ =
      rest.foldlM step ⟨.behind (.array (taken.reverse ++ items)), frames⟩ := by
  induction items generalizing taken with
  | nil => exact absurd rfl hne
  | cons item items ih =>
    have hitem := hitems item List.mem_cons_self
    cases items with
    | nil =>
      rw [itemTokens, hitem]
      simp [step, finish]
    | cons next items =>
      have hrest := ih (fun other hother => hitems other (List.mem_cons_of_mem _ hother))
        (List.cons_ne_nil _ _) (item :: taken)
      rw [itemTokens, List.append_assoc, hitem]
      · simpa [step, finish] using hrest
      · nofun

theorem reads_members {members : List (Option String × Json)}
    (hmembers : ∀ member ∈ members, Reads member.2) (hne : members ≠ [])
    (taken : List (Option String × Json)) (frames : List Frame) (rest : List Token) :
    (memberTokens members ++ .closeObject :: rest).foldlM step ⟨.name taken, frames⟩ =
      rest.foldlM step ⟨.behind (.object (taken.reverse ++ members)), frames⟩ := by
  induction members generalizing taken with
  | nil => exact absurd rfl hne
  | cons member members ih =>
    obtain ⟨name, value⟩ := member
    have hvalue : Reads value := hmembers (name, value) List.mem_cons_self
    cases members with
    | nil =>
      simp only [memberTokens, List.cons_append, List.foldlM_cons, step, Option.bind_eq_bind,
        Option.bind_some]
      rw [hvalue]
      simp [step, finish]
    | cons next members =>
      have hrest := ih (fun other hother => hmembers other (List.mem_cons_of_mem _ hother))
        (List.cons_ne_nil _ _) ((name, value) :: taken)
      simp only [memberTokens, List.cons_append, List.foldlM_cons, step, Option.bind_eq_bind,
        Option.bind_some, List.append_assoc]
      rw [hvalue]
      simpa [step, finish] using hrest

theorem reads_of_isWritable {value : Json} (h : IsWritable value) : Reads value := by
  induction h with
  | null | bool | count | number | text => exact fun frames rest => rfl
  | @array items h ih =>
    intro frames rest
    cases items with
    | nil => rfl
    | cons item items =>
      have hitems := reads_items ih (List.cons_ne_nil _ _) [] frames rest
      obtain ⟨token, row, hrow, hne⟩ := exists_first_itemTokens item items
      -- a token that does not end the items is taken as the first token of a value
      have hfirst : step ⟨.firstItem, frames⟩ token = step ⟨.value, .array [] :: frames⟩ token := by
        cases token <;> first | exact absurd rfl hne | rfl
      rw [hrow, List.cons_append, List.foldlM_cons, ← hfirst, ← List.foldlM_cons] at hitems
      rw [tokens, hrow, List.cons_append, List.append_assoc]
      exact hitems
  | @object members hnames h ih =>
    intro frames rest
    cases members with
    | nil => rfl
    | cons member members =>
      have hmembers := reads_members ih (List.cons_ne_nil _ _) [] frames rest
      obtain ⟨row, hrow⟩ := exists_first_memberTokens member members
      rw [hrow] at hmembers
      rw [tokens, hrow, List.cons_append, List.append_assoc]
      exact hmembers

/-- The tokens of a value are put together to the value. -/
theorem result_tokens {value : Json} (h : IsWritable value) :
    ((tokens value).foldlM step {}).bind result? = some value := by
  have hreads := reads_of_isWritable h [] []
  rw [List.append_nil] at hreads
  show ((tokens value).foldlM step ⟨.value, []⟩).bind result? = some value
  rw [hreads]
  rfl

end Reader

namespace Token

/-- The characters are scanned to these tokens if this comes behind them. -/
def Scans (text : List Char) (row : List Token) (behind : List Char) : Prop :=
  ∀ before, splitAfter? before (text ++ behind) = splitAfter? (row.reverse ++ before) behind

variable {text front back behind : List Char} {row row' : List Token}

theorem Scans.append (hfront : Scans front row (back ++ behind)) (hback : Scans back row' behind) :
    Scans (front ++ back) (row ++ row') behind := by
  intro before
  rw [List.append_assoc, hfront, hback, List.reverse_append, List.append_assoc]

theorem scans_blank {c : Char} (h : isBlank c = true) (behind : List Char) :
    Scans [c] [] behind := by
  intro before
  rw [List.singleton_append, splitAfter?, if_pos h]
  rfl

theorem scans_indent (level : Nat) (layout : Layout) (behind : List Char) :
    Scans (indent level layout).toList [] behind := by
  have hspaces (n : Nat) : Scans (List.replicate n ' ') [] behind := by
    induction n with
    | zero => exact fun before => rfl
    | succ n ih => exact (scans_blank rfl _).append ih
  cases layout with
  | compact => exact fun before => rfl
  | indented =>
    rw [indent, String.toList_ofList]
    exact (scans_blank rfl _).append (hspaces (2 * level))

theorem scans_of_next? {c : Char} {token : Token} (hblank : isBlank c = false)
    (hnext : next? c (text ++ behind) = some (token, behind)) :
    Scans (c :: text) [token] behind := by
  intro before
  rw [List.cons_append, splitAfter?, if_neg (by simp [hblank])]
  split
  · rename_i found
    rw [hnext] at found
    cases found
    rfl
  · rename_i found
    rw [hnext] at found
    cases found

theorem scans_mark {c : Char} {token : Token} (hmark : ofMark? c = some token)
    (behind : List Char) : Scans [c] [token] behind := by
  unfold ofMark? at hmark
  split at hmark <;> cases hmark <;> exact scans_of_next? rfl rfl

theorem scans_quote (name : String) (behind : List Char) :
    Scans (quote (some name)).toList [.string (some name)] behind := by
  rw [toList_quote]
  apply scans_of_next?
  · rfl
  · rw [List.append_assoc]
    exact next?_quote name behind

/-- No number or word goes on here. -/
def Stops : List Char → Prop
  | [] => True
  | c :: _ => isNumeric c = false ∧ c.isAlpha = false

/-- Characters of a kind end where no number or word goes on. -/
theorem Stops.cut {p : Char → Bool}
    (hp : ∀ c, isNumeric c = false ∧ c.isAlpha = false → p c = false) (hstop : Stops behind)
    {row : List Char} (hrow : ∀ c ∈ row, p c = true) :
    (row ++ behind).takeWhile p = row ∧ (row ++ behind).dropWhile p = behind := by
  have hbehind : behind.takeWhile p = [] ∧ behind.dropWhile p = behind := by
    cases behind with
    | nil => exact ⟨rfl, rfl⟩
    | cons c behind => simp [hp c hstop]
  rw [List.takeWhile_append_of_pos hrow, List.dropWhile_append_of_pos hrow, hbehind.1, hbehind.2,
    List.append_nil]
  exact ⟨rfl, rfl⟩

theorem isBlank_eq_false_of {p : Char → Bool}
    (hp : [' ', '\t', '\n', '\r'].all (fun c => !p c) = true) {c : Char} (hc : p c = true) :
    isBlank c = false := by
  rw [Bool.eq_false_iff]
  intro hblank
  have hmem : c ∈ [' ', '\t', '\n', '\r'] := by
    simpa [isBlank, or_assoc] using hblank
  have hnot := List.all_eq_true.1 hp c hmem
  rw [hc] at hnot
  cases hnot

theorem scans_numeric {c : Char} {row : List Char} {token : Token}
    (hnumeric : ∀ d ∈ c :: row, isNumeric d = true) (hnumber : ofNumeric? (c :: row) = some token)
    (hstop : Stops behind) : Scans (c :: row) [token] behind := by
  obtain ⟨hfirst, hrow⟩ := List.forall_mem_cons.1 hnumeric
  obtain ⟨htake, hdrop⟩ := hstop.cut (fun _ h => h.1) hrow
  have hquote : c ≠ '"' := by
    rintro rfl
    cases hfirst
  apply scans_of_next? (isBlank_eq_false_of rfl hfirst)
  rw [next?, if_neg hquote, if_pos hfirst, htake, hdrop, hnumber]
  rfl

theorem scans_word (c : Char) (row : List Char) {token : Token}
    (halpha : (c :: row).all Char.isAlpha = true) (hnumeric : isNumeric c = false)
    (hword : ofWord? (c :: row) = some token) (hstop : Stops behind) :
    Scans (c :: row) [token] behind := by
  obtain ⟨hfirst, hrow⟩ := List.forall_mem_cons.1 (List.all_eq_true.1 halpha)
  obtain ⟨htake, hdrop⟩ := hstop.cut (fun _ h => h.2) hrow
  have hquote : c ≠ '"' := by
    rintro rfl
    cases hfirst
  apply scans_of_next? (isBlank_eq_false_of rfl hfirst)
  rw [next?, if_neg hquote, if_neg (by simp [hnumeric]), if_pos hfirst, htake, hdrop, hword]
  rfl

theorem isNumeric_of_isDigit {c : Char} (h : c.isDigit = true) : isNumeric c = true := by
  simp [isNumeric, h]

theorem ofNumeric?_toDigits (n : Nat) : ofNumeric? (Nat.toDigits 10 n) = some (.count n) := by
  have hdigits : isDigits (Nat.toDigits 10 n) = true := by
    simp only [isDigits, Bool.and_eq_true, Bool.not_eq_true', List.isEmpty_eq_false_iff, ne_eq,
      Nat.toDigits_ne_nil, not_false_eq_true, List.all_eq_true, true_and]
    exact fun c hc => Nat.isDigit_of_mem_toDigits (by decide) (by decide) hc
  have hwhole : isWhole (Nat.toDigits 10 n) = true := by
    simp only [isWhole, hdigits, Bool.true_and, Bool.or_eq_true, bne_iff_ne, ne_eq, beq_iff_eq]
    by_cases hzero : (Nat.toDigits 10 n).head? = some '0'
    · right
      rw [Numeral.head?_toDigits (by decide) hzero, Nat.toDigits_zero]
      rfl
    · exact .inl hzero
  rw [ofNumeric?, if_pos hwhole, Numeral.digits?_toDigits (by decide) (by decide)]
  rfl

theorem scans_count (n : Nat) (hstop : Stops behind) :
    Scans (toString n).toList [.count n] behind := by
  have hrow : (toString n).toList = Nat.toDigits 10 n := Nat.toList_repr
  obtain ⟨c, row, hcons⟩ := List.exists_cons_of_ne_nil (Nat.toDigits_ne_nil (n := n) (b := 10))
  rw [hrow, hcons]
  refine scans_numeric ?_ (by rw [← hcons, ofNumeric?_toDigits]) hstop
  intro d hd
  rw [← hcons] at hd
  exact isNumeric_of_isDigit (Nat.isDigit_of_mem_toDigits (by decide) (by decide) hd)

theorem scans_colon (layout : Layout) (behind : List Char) :
    Scans (PlainJson.colon layout).toList [.colon] behind := by
  cases layout with
  | compact => exact scans_mark rfl behind
  | indented => exact (scans_mark rfl _).append (scans_blank rfl behind)

/-- The printed form of this value is scanned to its tokens, in every layout and at every level. -/
def ScansWritten (value : Json) : Prop :=
  ∀ layout level behind, Stops behind →
    Scans (write layout level value).toList (tokens value) behind

theorem scans_items {items : List Json} (hitems : ∀ item ∈ items, ScansWritten item)
    (layout : Layout) (level : Nat) (hstop : Stops behind) :
    Scans (writeItems layout level items).toList (itemTokens items) behind := by
  induction items with
  | nil => exact fun before => rfl
  | cons item items ih =>
    have hitem := hitems item List.mem_cons_self
    cases items with
    | nil =>
      rw [writeItems, itemTokens, String.toList_append]
      exact (scans_indent level layout _).append (hitem layout level behind hstop)
    | cons next items =>
      have hrest := ih fun other hother => hitems other (List.mem_cons_of_mem _ hother)
      have hfirst := hitem layout level
        (',' :: ((writeItems layout level (next :: items)).toList ++ behind)) ⟨rfl, rfl⟩
      have hcomma : Scans ",".toList [.comma]
          ((writeItems layout level (next :: items)).toList ++ behind) := scans_mark rfl _
      simp only [writeItems, itemTokens, String.toList_append, List.append_assoc]
      exact (scans_indent level layout _).append (hfirst.append (hcomma.append hrest))

theorem scans_members {members : List (Option String × Json)}
    (hnames : ∀ member ∈ members, member.1.isSome = true)
    (hmembers : ∀ member ∈ members, ScansWritten member.2) (layout : Layout) (level : Nat)
    (hstop : Stops behind) :
    Scans (writeMembers layout level members).toList (memberTokens members) behind := by
  induction members with
  | nil => exact fun before => rfl
  | cons member members ih =>
    obtain ⟨name?, value⟩ := member
    obtain ⟨name, rfl⟩ := Option.isSome_iff_exists.1 (hnames _ List.mem_cons_self)
    have hvalue : ScansWritten value := hmembers _ List.mem_cons_self
    cases members with
    | nil =>
      simp only [writeMembers, memberTokens, String.toList_append, List.append_assoc]
      exact (scans_indent level layout _).append ((scans_quote name _).append
        ((scans_colon layout _).append (hvalue layout level behind hstop)))
    | cons next members =>
      have hrest := ih (fun other hother => hnames other (List.mem_cons_of_mem _ hother))
        fun other hother => hmembers other (List.mem_cons_of_mem _ hother)
      have hfirst := hvalue layout level
        (',' :: ((writeMembers layout level (next :: members)).toList ++ behind)) ⟨rfl, rfl⟩
      have hcomma : Scans ",".toList [.comma]
          ((writeMembers layout level (next :: members)).toList ++ behind) := scans_mark rfl _
      simp only [writeMembers, memberTokens, String.toList_append, List.append_assoc]
      exact (scans_indent level layout _).append ((scans_quote name _).append
        ((scans_colon layout _).append (hfirst.append (hcomma.append hrest))))

/-- What is indented does not go on with a number or word in front of it. -/
theorem stops_indent (level : Nat) (layout : Layout) (hstop : Stops (back ++ behind)) :
    Stops ((indent level layout).toList ++ back ++ behind) := by
  cases layout with
  | compact => exact hstop
  | indented =>
    rw [indent, String.toList_ofList]
    exact ⟨rfl, rfl⟩

theorem scansWritten_of_isWritable {value : Json} (h : IsWritable value) : ScansWritten value := by
  induction h with
  | null =>
    intro layout level behind hstop
    rw [write, tokens]
    exact scans_word 'n' "ull".toList rfl rfl rfl hstop
  | bool value =>
    intro layout level behind hstop
    cases value with
    | true =>
      rw [write, tokens]
      exact scans_word 't' "rue".toList rfl rfl rfl hstop
    | false =>
      rw [write, tokens]
      exact scans_word 'f' "alse".toList rfl rfl rfl hstop
  | count value =>
    intro layout level behind hstop
    rw [write, tokens]
    exact scans_count value hstop
  | @number lexeme hnumeric hnumber =>
    intro layout level behind hstop
    rw [write, tokens]
    cases hrow : lexeme.toList with
    | nil =>
      rw [hrow] at hnumber
      cases hnumber
    | cons c row =>
      rw [hrow] at hnumeric hnumber
      exact scans_numeric hnumeric hnumber hstop
  | text value =>
    intro layout level behind hstop
    rw [Json.text, write, tokens]
    exact scans_quote value behind
  | @array items h ih =>
    intro layout level behind hstop
    have hopen (behind : List Char) : Scans "[".toList [.openArray] behind := scans_mark rfl behind
    have hclose : Scans "]".toList [.closeArray] behind := scans_mark rfl behind
    cases items with
    | nil =>
      rw [write, tokens]
      exact (hopen _).append hclose
    | cons item items =>
      have hstops : Stops ("]".toList ++ behind) := ⟨rfl, rfl⟩
      have hitems := scans_items ih layout (level + 1) (stops_indent level layout hstops)
      simp only [write, tokens, String.toList_append, List.append_assoc]
      exact (hopen _).append (hitems.append ((scans_indent level layout _).append hclose))
  | @object members hnames h ih =>
    intro layout level behind hstop
    have hopen (behind : List Char) : Scans "\x7b".toList [.openObject] behind :=
      scans_mark rfl behind
    have hclose : Scans "\x7d".toList [.closeObject] behind := scans_mark rfl behind
    cases members with
    | nil =>
      rw [write, tokens]
      exact (hopen _).append hclose
    | cons member members =>
      have hstops : Stops ("\x7d".toList ++ behind) := ⟨rfl, rfl⟩
      have hmembers := scans_members hnames ih layout (level + 1) (stops_indent level layout hstops)
      simp only [write, tokens, String.toList_append, List.append_assoc]
      exact (hopen _).append (hmembers.append ((scans_indent level layout _).append hclose))

end Token

/-- The printed form of a value is read as the value. -/
theorem parse?_write {value : Json} (h : IsWritable value) (layout : Layout) (level : Nat) :
    parse? (write layout level value) = some value := by
  have hscan := Token.scansWritten_of_isWritable h layout level [] trivial []
  have hend : Token.splitAfter? (tokens value).reverse [] = some (tokens value) := by
    rw [Token.splitAfter?, List.reverse_reverse]
  have hsplit : Token.split? (write layout level value).toList = some (tokens value) := by
    rwa [List.append_nil, List.append_nil, hend] at hscan
  simp only [parse?, hsplit]
  exact Reader.result_tokens h

end TunnelFirewall.PlainJson
