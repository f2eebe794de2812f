import TunnelFirewall.Proofs.Bytes.Accumulator
import TunnelFirewall.Proofs.Bytes.Position

/-!
# What a checksum detects

A header verifies exactly if the sum of its words is a positive multiple of 65535. The complement
of the checksum of a header that has none makes up the difference to such a multiple. A word that is
exchanged for another one moves the sum by less than 65535, unless the two words are the two zeros
of one's-complement arithmetic, so every other exchange is detected.
-/
namespace TunnelFirewall.Checksum

/-- The two words that count as zero: no bit is set, or every bit is. -/
def AreZeros (first second : Nat) : Prop :=
  (first = 0 ∧ second = 0xFFFF) ∨ (first = 0xFFFF ∧ second = 0)

instance (first second : Nat) : Decidable (AreZeros first second) :=
  inferInstanceAs (Decidable (_ ∨ _))

variable {header : Bytes} {position : Nat} {value : UInt16}

theorem verifies_iff_sum (hlength : header.length ≤ 131072) :
    verifies header = true ↔ 0 < (words header).sum ∧ 65535 ∣ (words header).sum := by
  obtain ⟨hmod, hzero⟩ := toNat_ofBytes_mod 0 hlength
  have hlt := (ofBytes 0 header).toNat_lt
  rw [UInt16.toNat_zero] at hmod hzero
  rw [verifies, beq_iff_eq, ← UInt16.toNat_inj, show (0xFFFF : UInt16).toNat = 65535 from rfl]
  omega

/-- Storing a word moves the sum by what the word changes. -/
theorem sum_words_setWord (heven : position % 2 = 0) (hinside : position + 2 ≤ header.length)
    (value : UInt16) :
    (words (header.setWord position value)).sum + header.wordAt position =
      (words header).sum + value.toNat := by
  have hfront : (header.take position).length % 2 = 0 := by
    rw [List.length_take]
    omega
  have hbefore : (words header).sum = (words (header.take position)).sum +
      (header.wordAt position + (words (header.drop (position + 2))).sum) := by
    conv_lhs => rw [Bytes.take_append_word_append_drop hinside]
    rw [words_append hfront, words, List.sum_append, List.sum_cons]
    rfl
  have hafter : (words (header.setWord position value)).sum =
      (words (header.take position)).sum +
        (value.toNat + (words (header.drop (position + 2))).sum) := by
    rw [Bytes.setWord, List.append_assoc, words_append hfront, List.sum_append, Bytes.ofWord,
      List.cons_append, List.cons_append, List.nil_append, words, List.sum_cons,
      Bytes.word_ofNat value.toNat_lt]
  omega

/-- The complement of the sum so far makes up the difference to a multiple of 65535. -/
theorem verifies_filled (hlength : header.length ≤ 131072) (hinside : 12 ≤ header.length)
    (hempty : header.wordAt 10 = 0) :
    verifies (header.setWord 10 (~~~(ofBytes 0 header))) = true := by
  obtain ⟨hmod, hzero⟩ := toNat_ofBytes_mod 0 hlength
  have hlt := (ofBytes 0 header).toNat_lt
  have hsum := sum_words_setWord (by decide) hinside (~~~(ofBytes 0 header))
  have hcomplement : (~~~(ofBytes 0 header)).toNat = 65535 - (ofBytes 0 header).toNat :=
    UInt16.toNat_not _
  rw [verifies_iff_sum (by rwa [Bytes.length_setWord hinside])]
  rw [UInt16.toNat_zero] at hmod hzero
  rw [hempty, hcomplement] at hsum
  omega

/-- The changes of one word that are not detected: none at all, and of one zero to the other, if
that leaves a word with a bit set. -/
theorem verifies_setWord_iff (hlength : header.length ≤ 131072) (hverifies : verifies header = true)
    (heven : position % 2 = 0) (hinside : position + 2 ≤ header.length) :
    verifies (header.setWord position value) = true ↔
      value.toNat = header.wordAt position ∨
        (AreZeros (header.wordAt position) value.toNat ∧
          0 < (words (header.setWord position value)).sum) := by
  have hsum := sum_words_setWord heven hinside value
  have hvalue := value.toNat_lt
  have hword : header.wordAt position < 65536 := Bytes.word_lt _ _
  rw [verifies_iff_sum hlength] at hverifies
  rw [verifies_iff_sum (by rwa [Bytes.length_setWord hinside]), AreZeros]
  omega

/-- A buffer of zeros, however long, sums to nothing. -/
theorem sumWords_of_forall_eq_zero {sum : UInt32} (h : ∀ byte ∈ header, byte = 0) :
    sumWords sum header = sum := by
  have hword : sum + UInt32.ofNat (Bytes.word 0 0) = sum := UInt32.add_zero sum
  induction header using words.induct with
  | case1 high low rest ih =>
    simp only [List.forall_mem_cons] at h
    obtain ⟨rfl, rfl, hrest⟩ := h
    rw [sumWords, hword, ih hrest]
  | case2 high =>
    obtain rfl := h high (List.mem_singleton_self high)
    rw [sumWords, hword]
  | case3 => rfl

theorem verifies_eq_false_of_forall_eq_zero (h : ∀ byte ∈ header, byte = 0) :
    verifies header = false := by
  have hhigh : (0 : UInt16).toUInt32 >>> 16 = 0 := rfl
  rw [verifies, ofBytes, sumWords_of_forall_eq_zero h, fold, if_pos hhigh]
  rfl

/-- A header verifies exactly if its words sum to a positive multiple of 65535. It does once the
complement of its checksum is stored where two zero bytes are kept free for it, and no longer when
one of its words is exchanged for another one, except for the two zeros. All zeros never verify. -/
theorem verifies_by_words (header : Bytes) :
    (header.length ≤ 131072 →
      (12 ≤ header.length → header.byteAt 10 = 0 ∧ header.byteAt 11 = 0 →
        verifies (header.setWord 10 (~~~(ofBytes 0 header))) = true) ∧
      (verifies header = true → ∀ position value, position % 2 = 0 →
        position + 2 ≤ header.length → header.wordAt position ≠ value.toNat →
        ¬AreZeros (header.wordAt position) value.toNat →
          verifies (header.setWord position value) = false) ∧
      (verifies header = true ↔ 0 < (words header).sum ∧ 65535 ∣ (words header).sum)) ∧
    ((∀ byte ∈ header, byte = 0) → verifies header = false) := by
  refine ⟨fun hlength => ⟨?_, ?_, verifies_iff_sum hlength⟩, verifies_eq_false_of_forall_eq_zero⟩
  · rintro hinside ⟨hhigh, hlow⟩
    apply verifies_filled hlength hinside
    rw [Bytes.wordAt, hhigh, hlow]
    rfl
  · intro hverifies position value heven hinside hne hzeros
    rw [← Bool.not_eq_true, verifies_setWord_iff hlength hverifies heven hinside]
    rintro (hsame | ⟨hother, -⟩)
    · exact hne hsame.symm
    · exact hzeros hother

section Example

/-- The header of a UDP packet whose checksum has not been filled in yet. -/
def unfilledHeader : Bytes :=
  [0x45, 0x00, 0x00, 0x73, 0x00, 0x00, 0x40, 0x00, 0x40, 0x11, 0x00, 0x00, 0xC0, 0xA8, 0x00, 0x01,
    0xC0, 0xA8, 0x00, 0xC7]

/-- The same header with its checksum. -/
def filledHeader : Bytes := unfilledHeader.setWord 10 0xB861

/-- The checksum makes the header verify, and a hop that is counted down breaks it again. -/
theorem verifies_by_words_udp :
    verifies (unfilledHeader.setWord 10 (~~~(ofBytes 0 unfilledHeader))) = true ∧
      verifies filledHeader = true ∧ verifies (filledHeader.setWord 8 0x3F11) = false := by
  have hshort : unfilledHeader.length ≤ 131072 := by decide
  have hlength : filledHeader.length ≤ 131072 := by decide
  obtain ⟨hfill, -, -⟩ := (verifies_by_words unfilledHeader).1 hshort
  obtain ⟨-, hdetect, hsum⟩ := (verifies_by_words filledHeader).1 hlength
  have hverifies : verifies filledHeader = true := hsum.2 (by decide)
  exact ⟨hfill (by decide) (by decide), hverifies,
    hdetect hverifies 8 0x3F11 (by decide) (by decide) (by decide) (by decide)⟩

end Example

end TunnelFirewall.Checksum
