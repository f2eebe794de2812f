import TunnelFirewall.Proofs.Text.Utf8

/-!
# Characters by the form of their bytes

A character, taken by its form alone, is a lead byte with as many following bytes as its leading
ones announce. The structural check accepts the rows of such characters and nothing else, so an
accepted front never changes what is said of the bytes behind it, and the check refuses nothing that
strict decoding would accept.
-/
namespace TunnelFirewall.Utf8

/-- A byte `10xxxxxx`. -/
def Follows (byte : UInt8) : Prop := byte >>> 6 = 0b10

/-- A byte that starts a character with so many bytes behind it: `0xxxxxxx`, `110xxxxx`,
`1110xxxx` or `11110xxx`. -/
def Leads (byte : UInt8) : Nat → Prop
  | 0 => byte < 0x80
  | 1 => byte >>> 5 = 0b110
  | 2 => byte >>> 4 = 0b1110
  | 3 => byte >>> 3 = 0b11110
  | _ => False

instance (byte : UInt8) : (count : Nat) → Decidable (Leads byte count)
  | 0 => inferInstanceAs (Decidable (_ < _))
  | 1 | 2 | 3 => inferInstanceAs (Decidable (_ = _))
  | _ + 4 => isFalse id

/-- A lead byte and exactly the following bytes that it announces. -/
inductive IsCharacter : Bytes → Prop
  | intro {lead : UInt8} {tail : Bytes} (leads : Leads lead tail.length)
      (follows : ∀ byte ∈ tail, Follows byte) : IsCharacter (lead :: tail)

variable {lead byte : UInt8} {bytes front back tail rest : Bytes}

theorem isContinuation_iff : isContinuation byte = true ↔ Follows byte := by
  revert byte
  apply Bytes.forall_byte
  unfold Follows
  decide +kernel

theorem continuationCount?_le {count : Nat} (h : continuationCount? lead = some count) :
    count ≤ 3 := by
  grind [continuationCount?]

theorem Leads.le {count : Nat} (h : Leads lead count) : count ≤ 3 := by
  match count with
  | 0 | 1 | 2 | 3 => decide
  | _ + 4 => cases h

theorem continuationCount?_eq_some_iff {count : Nat} :
    continuationCount? lead = some count ↔ Leads lead count := by
  have table : ∀ lead, ∀ count ≤ 3, continuationCount? lead = some count ↔ Leads lead count := by
    apply Bytes.forall_byte
    decide +kernel
  constructor
  · intro hcount
    exact (table lead count (continuationCount?_le hcount)).1 hcount
  · intro hleads
    exact (table lead count hleads.le).2 hleads

/-- Following bytes that are due are passed. -/
theorem isStructuralAfter_append (follows : ∀ byte ∈ tail, Follows byte) (rest : Bytes) :
    isStructuralAfter tail.length (tail ++ rest) = isStructural rest := by
  induction tail with
  | nil => rfl
  | cons byte tail ih =>
    rw [List.forall_mem_cons, ← isContinuation_iff] at follows
    rw [List.length_cons, List.cons_append, isStructuralAfter, follows.1, Bool.true_and,
      ih follows.2]

theorem exists_tail_of_isStructuralAfter {pending : Nat}
    (h : isStructuralAfter pending bytes = true) :
    ∃ tail rest, bytes = tail ++ rest ∧ tail.length = pending ∧ (∀ byte ∈ tail, Follows byte) ∧
      isStructural rest = true := by
  induction pending generalizing bytes with
  | zero => exact ⟨[], bytes, rfl, rfl, nofun, h⟩
  | succ pending ih =>
    cases bytes with
    | nil => cases h
    | cons byte bytes =>
      rw [isStructuralAfter, Bool.and_eq_true, isContinuation_iff] at h
      obtain ⟨tail, rest, rfl, hlength, follows, hrest⟩ := ih h.2
      exact ⟨byte :: tail, rest, rfl, congrArg (· + 1) hlength,
        List.forall_mem_cons.2 ⟨h.1, follows⟩, hrest⟩

/-- One turn of the check takes a lead byte with the bytes that it announces. -/
theorem isStructural_cons_iff :
    isStructural (lead :: bytes) = true ↔
      ∃ tail rest, bytes = tail ++ rest ∧ Leads lead tail.length ∧
        (∀ byte ∈ tail, Follows byte) ∧ isStructural rest = true := by
  rw [isStructural, isStructuralAfter]
  constructor
  · intro h
    split at h
    · rename_i count hcount
      obtain ⟨tail, rest, rfl, rfl, follows, hrest⟩ := exists_tail_of_isStructuralAfter h
      exact ⟨tail, rest, rfl, continuationCount?_eq_some_iff.1 hcount, follows, hrest⟩
    · cases h
  · rintro ⟨tail, rest, rfl, leads, follows, hrest⟩
    simp only [continuationCount?_eq_some_iff.2 leads]
    rw [isStructuralAfter_append follows, hrest]

theorem IsCharacter.isStructural_append (h : IsCharacter front) (rest : Bytes) :
    isStructural (front ++ rest) = isStructural rest := by
  cases h with
  | intro leads follows =>
    rw [isStructural, List.cons_append, isStructuralAfter]
    simp only [continuationCount?_eq_some_iff.2 leads]
    exact isStructuralAfter_append follows rest

theorem isStructural_flatten_append {characters : List Bytes}
    (h : ∀ character ∈ characters, IsCharacter character) (rest : Bytes) :
    isStructural (characters.flatten ++ rest) = isStructural rest := by
  induction characters with
  | nil => rfl
  | cons character characters ih =>
    rw [List.forall_mem_cons] at h
    rw [List.flatten_cons, List.append_assoc, h.1.isStructural_append, ih h.2]

/-- Accepted bytes fall into characters: the turns of the check cut them. -/
theorem exists_characters (h : isStructural bytes = true) :
    ∃ characters : List Bytes, (∀ character ∈ characters, IsCharacter character) ∧
      characters.flatten = bytes := by
  induction hn : bytes.length using Nat.strongRecOn generalizing bytes with
  | ind n ih =>
    cases bytes with
    | nil => exact ⟨[], nofun, rfl⟩
    | cons lead bytes =>
      obtain ⟨tail, rest, rfl, leads, follows, hrest⟩ := isStructural_cons_iff.1 h
      have hshorter : rest.length < n := by
        rw [← hn, List.length_cons, List.length_append]
        omega
      obtain ⟨characters, hcharacters, rfl⟩ := ih _ hshorter hrest rfl
      exact ⟨(lead :: tail) :: characters,
        List.forall_mem_cons.2 ⟨.intro leads follows, hcharacters⟩, rfl⟩

theorem isStructural_iff :
    isStructural bytes = true ↔
      ∃ characters : List Bytes, (∀ character ∈ characters, IsCharacter character) ∧
        characters.flatten = bytes := by
  constructor
  · exact exists_characters
  · rintro ⟨characters, h, rfl⟩
    have hwhole := isStructural_flatten_append h []
    rwa [List.append_nil] at hwhole

theorem isStructural_append (h : isStructural front = true) (back : Bytes) :
    isStructural (front ++ back) = isStructural back := by
  obtain ⟨characters, hcharacters, rfl⟩ := isStructural_iff.1 h
  exact isStructural_flatten_append hcharacters back

/-- Accepted are the rows of characters. Every encoded text is one, so that no bytes are refused
which strict decoding would accept, and behind an accepted front the rest alone decides. -/
theorem isStructural_by_characters :
    (∀ bytes, isStructural bytes = true ↔
      ∃ characters : List Bytes, (∀ character ∈ characters, IsCharacter character) ∧
        characters.flatten = bytes) ∧
    (∀ text, isStructural (encode text) = true) ∧
    (∀ bytes text, decode? bytes = some text → isStructural bytes = true) ∧
    ∀ front back, isStructural front = true →
      (isStructural (front ++ back) = true ↔ isStructural back = true) := by
  refine ⟨fun _ => isStructural_iff, isStructural_encode, ?_, ?_⟩
  · intro bytes text htext
    rw [decode?_eq_some_iff.1 htext]
    exact isStructural_encode text
  · intro front back hfront
    rw [isStructural_append hfront]

/-- An overlong form in front, which strict decoding refuses, and half a character behind it. -/
theorem isStructural_by_characters_overlong :
    isStructural [0xC0, 0x80] = true ∧ isStructural ([0xC0, 0x80] ++ [0xE2, 0x82]) = false ∧
      decode? [0xC3, 0xA9] = some "é" ∧ isStructural [0xC3, 0xA9] = true := by
  have hfront : isStructural [0xC0, 0x80] = true := by decide
  have hhalf : ¬isStructural [0xE2, 0x82] = true := by decide
  have hname : decode? [0xC3, 0xA9] = some "é" := by
    rw [decode?_eq_some_iff, encode_eq_flatMap]
    decide
  obtain ⟨-, -, hdecoded, hbehind⟩ := isStructural_by_characters
  have hwhole := mt (hbehind [0xC0, 0x80] [0xE2, 0x82] hfront).1 hhalf
  exact ⟨hfront, Bool.eq_false_iff.2 hwhole, hname, hdecoded _ _ hname⟩

end TunnelFirewall.Utf8
