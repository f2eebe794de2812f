import Mathlib.Data.Nat.ModEq
import TunnelFirewall.Proofs.Bytes.Checksum

/-!
# Room in the accumulator

The accumulator of a checksum has 32 bits. For a buffer of up to 131072 bytes no addition into it
overflows, whatever the start, and two rounds of folding at most empty its high half. So the
checksum is a sum of words modulo 65535, and a buffer can be summed in two parts, the second on top
of what the first one gave.
-/
namespace TunnelFirewall.Checksum

/-- The sum of two accumulators, if it fits one. -/
def add? (a b : UInt32) : Option UInt32 :=
  if a.toNat + b.toNat < 4294967296 then some (a + b) else none

/-- Adds the words of a buffer as `sumWords` does, but gives nothing if an addition does not fit. -/
def sumWords? : UInt32 → Bytes → Option UInt32
  | sum, high :: low :: rest =>
    (add? sum (UInt32.ofNat (Bytes.word high low))).bind fun sum => sumWords? sum rest
  | sum, [high] => add? sum (UInt32.ofNat (Bytes.word high 0))
  | sum, [] => some sum

/-- One round of folding: the low half of a sum and its high half, added. -/
def addHalves (sum : UInt32) : UInt32 := (sum &&& (0xFFFF : UInt32)) + (sum >>> 16)

/-- The folding of a sum ends after so many rounds, each with an addition that fits, and leaves the
low half. -/
inductive Folds : Nat → UInt32 → UInt16 → Prop
  | done {sum : UInt32} (low : sum >>> 16 = 0) : Folds 0 sum sum.toUInt16
  | round {rounds : Nat} {sum next : UInt32} {folded : UInt16} (high : sum >>> 16 ≠ 0)
      (fits : add? (sum &&& (0xFFFF : UInt32)) (sum >>> 16) = some next)
      (rest : Folds rounds next folded) :
      Folds (rounds + 1) sum folded

variable {a b c sum total : UInt32} {start : UInt16} {buffer front back : Bytes} {n : Nat}

theorem add?_eq_some_iff : add? a b = some c ↔ a.toNat + b.toNat = c.toNat := by
  have hc := c.toNat_lt
  have hadd : (a + b).toNat = (a.toNat + b.toNat) % 4294967296 := UInt32.toNat_add a b
  rw [add?]
  split
  · rw [Option.some_inj, ← UInt32.toNat_inj]
    omega
  · simp only [reduceCtorEq, false_iff]
    omega

theorem add?_word_eq_some_iff {high low : UInt8} :
    add? sum (UInt32.ofNat (Bytes.word high low)) = some total ↔
      sum.toNat + Bytes.word high low = total.toNat := by
  have hword := Bytes.word_lt high low
  have htoNat : (UInt32.ofNat (Bytes.word high low)).toNat = Bytes.word high low := by
    rw [UInt32.toNat_ofNat']
    omega
  rw [add?_eq_some_iff, htoNat]

/-- No addition overflows exactly if the accumulator has room for the sum of all words. -/
theorem sumWords?_eq_some_iff :
    sumWords? sum buffer = some total ↔ sum.toNat + (words buffer).sum = total.toNat := by
  induction buffer using words.induct generalizing sum with
  | case1 high low rest ih =>
    rw [sumWords?, Option.bind_eq_some_iff, words, List.sum_cons]
    constructor
    · rintro ⟨next, hnext, hrest⟩
      rw [add?_word_eq_some_iff] at hnext
      rw [ih] at hrest
      omega
    · intro hsum
      have htotal := total.toNat_lt
      have hnext : (UInt32.ofNat (sum.toNat + Bytes.word high low)).toNat =
          sum.toNat + Bytes.word high low := by
        rw [UInt32.toNat_ofNat']
        omega
      refine ⟨UInt32.ofNat (sum.toNat + Bytes.word high low), ?_, ?_⟩
      · rw [add?_word_eq_some_iff, hnext]
      · rw [ih, hnext]
        omega
  | case2 high => rw [sumWords?, add?_word_eq_some_iff, words, List.sum_singleton]
  | case3 =>
    rw [sumWords?, words, List.sum_nil, Nat.add_zero, Option.some_inj, UInt32.toNat_inj]

theorem toNat_addHalves (sum : UInt32) :
    (addHalves sum).toNat = sum.toNat % 65536 + sum.toNat / 65536 := toNat_fold_once sum

theorem add?_halves (sum : UInt32) :
    add? (sum &&& (0xFFFF : UInt32)) (sum >>> 16) = some (addHalves sum) := by
  rw [add?_eq_some_iff, toNat_addHalves, toNat_low, toNat_high]

/-- If the halves, added, can be folded in `n` rounds, then the sum can in one more. -/
theorem exists_folds_of_addHalves
    (h : ∃ rounds ≤ n, Folds rounds (addHalves sum) (fold (addHalves sum))) :
    ∃ rounds ≤ n + 1, Folds rounds sum (fold sum) := by
  obtain ⟨rounds, hrounds, hfolds⟩ := h
  rw [fold]
  split
  case isTrue hlow => exact ⟨0, Nat.zero_le _, .done hlow⟩
  case isFalse hhigh =>
    exact ⟨rounds + 1, Nat.succ_le_succ hrounds, .round hhigh (add?_halves sum) hfolds⟩

/-- The first round leaves a carry of one bit at most, and the second has room for it. -/
theorem exists_folds (sum : UInt32) : ∃ rounds ≤ 2, Folds rounds sum (fold sum) := by
  apply exists_folds_of_addHalves
  apply exists_folds_of_addHalves
  have hlow : addHalves (addHalves sum) >>> 16 = 0 := by
    have hsum := sum.toNat_lt
    have hfirst := toNat_addHalves sum
    rw [← UInt32.toNat_inj, toNat_high, UInt32.toNat_zero, toNat_addHalves]
    omega
  rw [fold, if_pos hlow]
  exact ⟨0, Nat.le_refl 0, .done hlow⟩

theorem sum_words_eq_zero_iff : (words buffer).sum = 0 ↔ ∀ byte ∈ buffer, byte = 0 := by
  have hword (high low : UInt8) : Bytes.word high low = 0 ↔ high = 0 ∧ low = 0 := by
    rw [← UInt8.toNat_inj, ← UInt8.toNat_inj, UInt8.toNat_zero, Bytes.word]
    omega
  induction buffer using words.induct with
  | case1 high low rest ih =>
    rw [words, List.sum_cons, Nat.add_eq_zero_iff, hword, List.forall_mem_cons,
      List.forall_mem_cons, and_assoc]
    exact and_congr_right fun _ => and_congr_right fun _ => ih
  | case2 high => simp [words, hword]
  | case3 => simp [words]

/-- The words of a buffer are those of its parts, unless a word lies across the cut. -/
theorem words_append (heven : front.length % 2 = 0) :
    words (front ++ back) = words front ++ words back := by
  induction front using words.induct with
  | case1 high low rest ih =>
    have heven' : rest.length % 2 = 0 := by
      simp only [List.length_cons] at heven
      omega
    simp only [List.cons_append, words, ih heven']
  | case2 high => simp at heven
  | case3 => rfl

theorem ofBytes_append (heven : front.length % 2 = 0)
    (hlength : (front ++ back).length ≤ 131072) :
    ofBytes start (front ++ back) = ofBytes (ofBytes start front) back := by
  have hparts : front.length ≤ 131072 ∧ back.length ≤ 131072 := by
    rw [List.length_append] at hlength
    omega
  apply UInt16.toNat_inj.1
  rw [toNat_ofBytes start hlength, toNat_ofBytes _ hparts.2, toNat_ofBytes start hparts.1, onesSum,
    words_append heven, List.foldl_append]
  rfl

/-- For a buffer of up to 131072 bytes no addition overflows and the folding ends. The result is the
start and the words modulo 65535, zero for nothing but zeros, and goes on from a part of even
length as from a start. -/
theorem ofBytes_exact (hlength : buffer.length ≤ 131072) :
    sumWords? start.toUInt32 buffer = some (sumWords start.toUInt32 buffer) ∧
    (∃ rounds ≤ 2, Folds rounds (sumWords start.toUInt32 buffer) (ofBytes start buffer)) ∧
    (ofBytes start buffer).toNat ≡ start.toNat + (words buffer).sum [MOD 65535] ∧
    (ofBytes start buffer = 0 ↔ start = 0 ∧ ∀ byte ∈ buffer, byte = 0) ∧
    ∀ front back, buffer = front ++ back → front.length % 2 = 0 →
      ofBytes start buffer = ofBytes (ofBytes start front) back := by
  obtain ⟨hmod, hzero⟩ := toNat_ofBytes_mod start hlength
  refine ⟨?_, exists_folds _, hmod, ?_, ?_⟩
  · rw [sumWords?_eq_some_iff, toNat_sumWords]
    rw [UInt16.toNat_toUInt32]
    exact sum_words_lt hlength
  · rw [← UInt16.toNat_inj, ← UInt16.toNat_inj, ← sum_words_eq_zero_iff]
    rw [Nat.add_eq_zero_iff] at hzero
    exact hzero
  · rintro front back rfl heven
    exact ofBytes_append heven hlength

/-- Both zeros in a row: the start is all ones, and so is the first word. -/
theorem ofBytes_exact_ones :
    ([0xFF, 0xFF, 0x01] : Bytes).length ≤ 131072 ∧
      ofBytes 0xFFFF [0xFF, 0xFF, 0x01] = ofBytes (ofBytes 0xFFFF [0xFF, 0xFF]) [0x01] := by
  have hlength : ([0xFF, 0xFF, 0x01] : Bytes).length ≤ 131072 := by decide
  exact ⟨hlength, (ofBytes_exact hlength).2.2.2.2 [0xFF, 0xFF] [0x01] rfl rfl⟩

end TunnelFirewall.Checksum
