import TunnelFirewall.Proofs.Bytes.Hex
import TunnelFirewall.Proofs.Outer.Hex

/-!
# Which texts are decoded

A text is decoded if it has an even number of bytes and all of them are digits, and then gives the
bytes that it spells. An odd length is reported before anything else, a byte that is no digit with
its place, the first one if there are several. Decoding to a fixed size looks at the length and then
says the same, though another reader of the decoder is behind it. A dump without its spaces is a
text that spells the bytes, and stays one if letters change their case.
-/
namespace TunnelFirewall.Hex

/-- The byte encodes a hexadecimal digit of either case. -/
def IsDigit (byte : UInt8) : Prop := charOfByte byte ∈ "0123456789abcdefABCDEF".toList

instance (byte : UInt8) : Decidable (IsDigit byte) := inferInstanceAs (Decidable (_ ∈ _))

/-- The first byte that is no digit stands behind these digits. -/
def FirstBad (text front : Bytes) (bad : UInt8) : Prop :=
  (∃ back, text = front ++ bad :: back) ∧ (∀ byte ∈ front, IsDigit byte) ∧ ¬IsDigit bad

variable {byte bad : UInt8} {bytes front back : Bytes} {text : String} {error : Error}

theorem isDigit_iff : IsDigit byte ↔ ∃ half, half? byte = some half := by
  rw [← Option.isSome_iff_exists]
  revert byte
  apply Bytes.forall_byte
  decide +kernel

theorem half?_eq_none_iff : half? byte = none ↔ ¬IsDigit byte := by
  rw [isDigit_iff, ← Option.isSome_iff_exists, Option.not_isSome_iff_eq_none]

theorem IsDigit.lt (h : IsDigit byte) : byte < 0x80 := by
  revert byte
  apply Bytes.forall_byte
  decide +kernel

/-- Either all is well or something is the first to be wrong. -/
theorem forall_isDigit_or_firstBad (text : Bytes) :
    (∀ byte ∈ text, IsDigit byte) ∨ ∃ front bad, FirstBad text front bad := by
  induction text with
  | nil => exact .inl nofun
  | cons byte text ih =>
    by_cases hbyte : IsDigit byte
    · rcases ih with hall | ⟨front, bad, ⟨back, rfl⟩, hfront, hbad⟩
      · exact .inl (List.forall_mem_cons.2 ⟨hbyte, hall⟩)
      · exact .inr ⟨byte :: front, bad, ⟨back, rfl⟩, List.forall_mem_cons.2 ⟨hbyte, hfront⟩, hbad⟩
    · exact .inr ⟨[], byte, ⟨text, rfl⟩, nofun, hbyte⟩

/-- The pairs in front of the first bad byte are read, and the pair with that byte fails there. -/
theorem read_of_bad {read : Nat → Bytes → Except HexDecoder.Fault Bytes}
    (hread : HexDecoder.ReadsPairs read) (hbad : ¬IsDigit bad) : ∀ (front : Bytes) (size : Nat),
    (∀ byte ∈ front, IsDigit byte) → (front ++ bad :: back).length = 2 * size →
    read size (front ++ bad :: back) = .error (.badDigit (charOfByte bad) front.length)
  | _, 0, _, hlength => by simp at hlength
  | [], size + 1, _, hlength => by
    have hnone := half?_eq_none_iff.2 hbad
    cases back with
    | nil =>
      simp only [List.nil_append, List.length_singleton] at hlength
      omega
    | cons low back =>
      simp only [List.nil_append, List.length_cons] at hlength
      exact hread.high hnone (by omega)
  | [high], size + 1, hfront, hlength => by
    have hnone := half?_eq_none_iff.2 hbad
    obtain ⟨half, hhigh⟩ := isDigit_iff.1 (hfront high List.mem_cons_self)
    simp only [List.cons_append, List.nil_append, List.length_cons] at hlength
    exact hread.low hhigh hnone (by omega)
  | high :: low :: front, size + 1, hfront, hlength => by
    rw [List.forall_mem_cons, List.forall_mem_cons] at hfront
    obtain ⟨upper, hhigh⟩ := isDigit_iff.1 hfront.1
    obtain ⟨lower, hlow⟩ := isDigit_iff.1 hfront.2.1
    have hlength' : (front ++ bad :: back).length = 2 * size := by
      simp only [List.cons_append, List.length_cons] at hlength
      omega
    have hrest := read_of_bad hread hbad front size hfront.2.2 hlength'
    rw [List.cons_append, List.cons_append, hread.pair hhigh hlow hlength', hrest]
    rfl

theorem FirstBad.read_eq {read : Nat → Bytes → Except HexDecoder.Fault Bytes} {row : Bytes}
    (h : FirstBad row front bad) (hread : HexDecoder.ReadsPairs read) {size : Nat}
    (hsize : row.length = 2 * size) :
    read size row = .error (.badDigit (charOfByte bad) front.length) := by
  obtain ⟨⟨back, rfl⟩, hfront, hbad⟩ := h
  exact read_of_bad hread hbad front size hfront hsize

/-- If all bytes of a text are digits, then so are its characters. -/
theorem exists_digit_of_mem (hall : ∀ byte ∈ Utf8.encode text, IsDigit byte) {c : Char}
    (hc : c ∈ text.toList) : ∃ value, Numeral.digit? 16 c = some value := by
  obtain ⟨byte, hbyte⟩ := List.exists_mem_of_ne_nil _ (String.utf8EncodeChar_ne_nil (c := c))
  have hmem : byte ∈ Utf8.encode text := by
    rw [Utf8.encode_eq_flatMap]
    exact List.mem_flatMap.2 ⟨c, hc, hbyte⟩
  have hdigit := hall byte hmem
  obtain ⟨half, hhalf⟩ := isDigit_iff.1 hdigit
  rw [half?, charOfByte, ← Utf8.eq_ofNat_of_mem_encodeChar hbyte hdigit.lt] at hhalf
  exact ⟨half, hhalf⟩

theorem length_encode_of_digits {row : List Char}
    (hall : ∀ c ∈ row, ∃ value, Numeral.digit? 16 c = some value) :
    (Utf8.encode (String.ofList row)).length = row.length := by
  rw [Utf8.encode_ofList]
  induction row with
  | nil => rfl
  | cons c row ih =>
    rw [List.forall_mem_cons] at hall
    obtain ⟨value, hvalue⟩ := hall.1
    obtain ⟨byte, hbyte, -⟩ := exists_byte_of_digit? hvalue
    rw [List.flatMap_cons, hbyte, List.length_append, ih hall.2, List.length_singleton,
      List.length_cons, Nat.add_comm]

theorem exists_digitsFrom? {row : List Char}
    (hall : ∀ c ∈ row, ∃ value, Numeral.digit? 16 c = some value) (start : Nat) :
    ∃ n, Numeral.digitsFrom? 16 start row = some n := by
  induction row generalizing start with
  | nil => exact ⟨start, rfl⟩
  | cons c row ih =>
    rw [List.forall_mem_cons] at hall
    obtain ⟨value, hvalue⟩ := hall.1
    obtain ⟨n, hn⟩ := ih hall.2 (start * 16 + value)
    exact ⟨n, by rw [Numeral.digitsFrom?, hvalue]; exact hn⟩

/-- An even number of digits spells bytes. -/
theorem exists_spells_of_digits (hall : ∀ byte ∈ Utf8.encode text, IsDigit byte)
    (heven : (Utf8.encode text).length % 2 = 0) : ∃ bytes, Spells text.toList bytes := by
  have hdigits : ∀ c ∈ text.toList, ∃ value, Numeral.digit? 16 c = some value :=
    fun c hc => exists_digit_of_mem hall hc
  have hlength := length_encode_of_digits hdigits
  rw [String.ofList_toList] at hlength
  rw [hlength] at heven
  obtain ⟨n, hn⟩ := exists_digitsFrom? hdigits 0
  obtain ⟨bytes, hspells, -⟩ := exists_spells heven hn
  exact ⟨bytes, hspells⟩

/-- The digits of a dump are what is left of it without the spaces. -/
theorem filter_dump (bytes : Bytes) : (dump bytes).toList.filter (· ≠ ' ') = digits bytes := by
  have hdigit : ∀ n < 16, upperDigit n ≠ ' ' := by decide
  rw [dump, String.toList_ofList]
  induction bytes with
  | nil => rfl
  | cons byte bytes ih =>
    have hhigh := hdigit _ (div_lt_sixteen byte)
    have hlow := hdigit _ (mod_lt_sixteen byte)
    rw [List.flatMap_cons, List.filter_append, ih, digits_cons]
    simp [dumpByte, hhigh, hlow]

/-- The case of the letters does not matter. -/
theorem Spells.of_map_toLower {row other : List Char} (h : Spells row bytes)
    (hcase : other.map Char.toLower = row.map Char.toLower) : Spells other bytes := by
  induction h generalizing other with
  | nil =>
    obtain rfl := List.map_eq_nil_iff.1 hcase
    exact .nil
  | cons high low _ ih =>
    obtain ⟨c, other, rfl, hc, hother⟩ := List.map_eq_cons_iff.1 hcase
    obtain ⟨d, other, rfl, hd, hrest⟩ := List.map_eq_cons_iff.1 hother
    rw [← Numeral.digit?_toLower, ← hc, Numeral.digit?_toLower] at high
    rw [← Numeral.digit?_toLower, ← hd, Numeral.digit?_toLower] at low
    exact .cons high low (ih hrest)

theorem Spells.length_encode_text (h : Spells text.toList bytes) :
    (Utf8.encode text).length = 2 * bytes.length := by
  have hlength := h.length_encode
  rwa [String.ofList_toList] at hlength

/-- What decoding gives: the complaint about an odd length or about the first byte that is no digit,
or the bytes that the text spells. -/
inductive Decodes (text : String) : Except Error Bytes → Prop
  | odd (hodd : (Utf8.encode text).length % 2 ≠ 0) :
      Decodes text (.error (.oddLength (Utf8.encode text).length))
  | bad {front : Bytes} {bad : UInt8} (heven : (Utf8.encode text).length % 2 = 0)
      (hbad : FirstBad (Utf8.encode text) front bad) :
      Decodes text (.error (.invalidCharacter (charOfByte bad) front.length))
  | ok {bytes : Bytes} (heven : (Utf8.encode text).length % 2 = 0)
      (hall : ∀ byte ∈ Utf8.encode text, IsDigit byte) (spells : Spells text.toList bytes) :
      Decodes text (.ok bytes)

section

variable [HexDecoder] {size : Nat}

theorem decode_of_odd (hodd : (Utf8.encode text).length % 2 ≠ 0) :
    decode text = .error (.oddLength (Utf8.encode text).length) := by
  simp only [decode, ne_eq, hodd, not_false_eq_true, if_true]

theorem decodeExact_of_length_ne (h : (Utf8.encode text).length ≠ 2 * size) :
    decodeExact size text = .error (.lengthMismatch (2 * size) (Utf8.encode text).length) := by
  simp only [decodeExact, ne_eq, h, not_false_eq_true, if_true]

variable (hdecoder : HexDecoder.Lawful)

include hdecoder

theorem Spells.decode_text (h : Spells text.toList bytes) : decode text = .ok bytes := by
  have hread := h.decode_eq hdecoder
  rwa [String.ofList_toList] at hread

theorem Spells.decodeExact_text (h : Spells text.toList bytes) :
    decodeExact bytes.length text = .ok bytes := by
  have hread := h.decodeExact_eq hdecoder
  rwa [String.ofList_toList] at hread

theorem FirstBad.decode_eq (h : FirstBad (Utf8.encode text) front bad)
    (heven : (Utf8.encode text).length % 2 = 0) :
    decode text = .error (.invalidCharacter (charOfByte bad) front.length) := by
  obtain ⟨size, hsize⟩ := Nat.dvd_of_mod_eq_zero heven
  simp only [decode, heven, ne_eq, not_true_eq_false, if_false, h.read_eq hdecoder.decode hsize]
  rfl

theorem FirstBad.decodeExact_eq (h : FirstBad (Utf8.encode text) front bad)
    (hsize : (Utf8.encode text).length = 2 * size) :
    decodeExact size text = .error (.invalidCharacter (charOfByte bad) front.length) := by
  simp only [decodeExact, hsize, ne_eq, not_true_eq_false, if_false, h.read_eq hdecoder.fill hsize]
  rfl

theorem decodes (text : String) : Decodes text (decode text) := by
  by_cases heven : (Utf8.encode text).length % 2 = 0
  · rcases forall_isDigit_or_firstBad (Utf8.encode text) with hall | ⟨front, bad, hbad⟩
    · obtain ⟨bytes, hspells⟩ := exists_spells_of_digits hall heven
      rw [hspells.decode_text hdecoder]
      exact .ok heven hall hspells
    · rw [hbad.decode_eq hdecoder heven]
      exact .bad heven hbad
  · rw [decode_of_odd heven]
    exact .odd heven

theorem decode_eq_ok_iff : decode text = .ok bytes ↔ Spells text.toList bytes := by
  constructor
  · intro hread
    have h := decodes hdecoder text
    rw [hread] at h
    cases h with
    | ok heven hall spells => exact spells
  · exact Spells.decode_text hdecoder

theorem exists_decode_eq_ok_iff :
    (∃ bytes, decode text = .ok bytes) ↔
      (Utf8.encode text).length % 2 = 0 ∧ ∀ byte ∈ Utf8.encode text, IsDigit byte := by
  constructor
  · rintro ⟨bytes, hread⟩
    have h := decodes hdecoder text
    rw [hread] at h
    cases h with
    | ok heven hall spells => exact ⟨heven, hall⟩
  · rintro ⟨heven, hall⟩
    obtain ⟨bytes, hspells⟩ := exists_spells_of_digits hall heven
    exact ⟨bytes, hspells.decode_text hdecoder⟩

theorem decode_eq_error_iff :
    decode text = .error error ↔
      (Utf8.encode text).length % 2 ≠ 0 ∧ error = .oddLength (Utf8.encode text).length ∨
      (Utf8.encode text).length % 2 = 0 ∧ ∃ front bad, FirstBad (Utf8.encode text) front bad ∧
        error = .invalidCharacter (charOfByte bad) front.length := by
  constructor
  · intro hread
    have h := decodes hdecoder text
    rw [hread] at h
    cases h with
    | odd hodd => exact .inl ⟨hodd, rfl⟩
    | bad heven hbad => exact .inr ⟨heven, _, _, hbad, rfl⟩
  · rintro (⟨hodd, rfl⟩ | ⟨heven, front, bad, hbad, rfl⟩)
    · exact decode_of_odd hodd
    · exact hbad.decode_eq hdecoder heven

/-- The two readers of a decoder agree on a text of the right length. -/
theorem decodeExact_of_length (hsize : (Utf8.encode text).length = 2 * size) :
    decodeExact size text = decode text := by
  have h := decodes hdecoder text
  cases hread : decode text with
  | ok bytes =>
    rw [hread] at h
    cases h with
    | ok _ _ spells =>
      obtain rfl : bytes.length = size := by
        have hlength := spells.length_encode_text
        omega
      exact spells.decodeExact_text hdecoder
  | error fault =>
    rw [hread] at h
    cases h with
    | odd hodd => omega
    | bad _ hbad => exact hbad.decodeExact_eq hdecoder hsize

end

/-- A dump without its spaces is decoded to the bytes, in whatever case its letters are. A text is
decoded if and only if it has an even number of bytes and they are all digits, and then to the bytes
that it spells; an odd length is reported first, else the first byte that is no digit, with its
index. A text of the wrong length for a fixed size is refused, and every other is decoded to that
size as it is without one. -/
theorem decode_exact [HexDecoder] (hdecoder : HexDecoder.Lawful) :
    (∀ bytes row, row.map Char.toLower =
        ((dump bytes).toList.filter (· ≠ ' ')).map Char.toLower →
      decode (String.ofList row) = .ok bytes) ∧
    (∀ text,
      ((∃ bytes, decode text = .ok bytes) ↔
        (Utf8.encode text).length % 2 = 0 ∧ ∀ byte ∈ Utf8.encode text, IsDigit byte) ∧
      (∀ bytes, decode text = .ok bytes ↔ Spells text.toList bytes) ∧
      ∀ error, decode text = .error error ↔
        (Utf8.encode text).length % 2 ≠ 0 ∧ error = .oddLength (Utf8.encode text).length ∨
        (Utf8.encode text).length % 2 = 0 ∧ ∃ front bad, FirstBad (Utf8.encode text) front bad ∧
          error = .invalidCharacter (charOfByte bad) front.length) ∧
    ∀ size text,
      ((Utf8.encode text).length ≠ 2 * size →
        decodeExact size text = .error (.lengthMismatch (2 * size) (Utf8.encode text).length)) ∧
      ((Utf8.encode text).length = 2 * size →
        decodeExact size text = decode text ∧
          ∀ bytes, decodeExact size text = .ok bytes → bytes.length = size) := by
  refine ⟨?_, ?_, ?_⟩
  · intro bytes row hcase
    rw [filter_dump] at hcase
    exact ((spells_digits bytes).of_map_toLower hcase).decode_eq hdecoder
  · intro text
    exact ⟨exists_decode_eq_ok_iff hdecoder, fun _ => decode_eq_ok_iff hdecoder,
      fun _ => decode_eq_error_iff hdecoder⟩
  · intro size text
    refine ⟨decodeExact_of_length_ne, fun hlength =>
      ⟨decodeExact_of_length hdecoder hlength, fun bytes hread => ?_⟩⟩
    rw [decodeExact_of_length hdecoder hlength] at hread
    have hbytes := ((decode_eq_ok_iff hdecoder).1 hread).length_encode_text
    omega

/-- Two bytes in mixed case, and a text whose one character has two bytes. -/
theorem decode_exact_mixed :
    "deAD".toList.map Char.toLower =
        ((dump [0xDE, 0xAD]).toList.filter (· ≠ ' ')).map Char.toLower ∧
      decode "deAD" = .ok [0xDE, 0xAD] ∧
      (Utf8.encode "deAD").length = 2 * 2 ∧ decodeExact 2 "deAD" = decode "deAD" ∧
      (Utf8.encode "é").length ≠ 2 * 2 ∧ decodeExact 2 "é" = .error (.lengthMismatch 4 2) := by
  obtain ⟨hdump, htext, hexact⟩ := decode_exact pairDecoder_lawful
  have hcase : ['d', 'e', 'A', 'D'].map Char.toLower =
      ((dump [0xDE, 0xAD]).toList.filter (· ≠ ' ')).map Char.toLower := by
    rw [filter_dump]
    decide
  have hread : decode "deAD" = .ok [0xDE, 0xAD] := hdump _ _ hcase
  have hlength : (Utf8.encode "deAD").length = 2 * 2 :=
    (((htext "deAD").2.1 [0xDE, 0xAD]).1 hread).length_encode_text
  have haccent : (Utf8.encode "é").length = 2 := by
    rw [Utf8.encode_eq_flatMap]
    decide
  have hne : (Utf8.encode "é").length ≠ 2 * 2 := by
    rw [haccent]
    decide
  have hrefused := (hexact 2 "é").1 hne
  rw [haccent] at hrefused
  exact ⟨hcase, hread, hlength, ((hexact 2 "deAD").2 hlength).1, hne, hrefused⟩

end TunnelFirewall.Hex
