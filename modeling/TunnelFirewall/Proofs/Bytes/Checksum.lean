import Mathlib.Algebra.GroupWithZero.Nat
import TunnelFirewall.Bytes.Checksum

/-!
# One's-complement sums

The checksum of a buffer is the sum of its big-endian words in one's-complement arithmetic, where a
carry out of the top bit is added back in at the bottom. The accumulator collects the carries in its
high half and folds them back at the end. For a buffer that cannot overflow it, this is the same as
adding back each carry at once.
-/
namespace TunnelFirewall.Checksum

/-- The big-endian words of a buffer. A last odd byte is the high half of a word. -/
def words : Bytes → List Nat
  | high :: low :: rest => Bytes.word high low :: words rest
  | [high] => [Bytes.word high 0]
  | [] => []

/-- Addition of 16-bit words with the carry added back in at the bottom. -/
def onesAdd (a b : Nat) : Nat :=
  if a + b < 65536 then a + b else a + b - 65535

/-- The one's-complement sum of the words of a buffer, on top of a start value. -/
def onesSum (start : Nat) (buffer : Bytes) : Nat :=
  (words buffer).foldl onesAdd start

variable {sum : UInt32} {start : UInt16} {buffer : Bytes}

theorem lt_of_mem_words {w : Nat} (h : w ∈ words buffer) : w < 65536 := by
  induction buffer using words.induct with
  | case1 high low rest ih =>
    rcases List.mem_cons.1 h with rfl | hrest
    · exact Bytes.word_lt high low
    · exact ih hrest
  | case2 high =>
    obtain rfl := List.mem_singleton.1 h
    exact Bytes.word_lt high 0
  | case3 => cases h

theorem sum_words_le (buffer : Bytes) : (words buffer).sum ≤ 65535 * ((buffer.length + 1) / 2) := by
  induction buffer using words.induct with
  | case1 high low rest ih =>
    have hword := Bytes.word_lt high low
    rw [words, List.sum_cons, List.length_cons, List.length_cons]
    omega
  | case2 high =>
    have hword := Bytes.word_lt high 0
    rw [words, List.sum_cons, List.sum_nil, List.length_singleton]
    omega
  | case3 => exact Nat.zero_le _

/-- A buffer of 131072 bytes is the longest that cannot overflow the accumulator: full words on top
of a full start value then add up to the largest value it holds. -/
theorem sum_words_lt (hlength : buffer.length ≤ 131072) :
    start.toNat + (words buffer).sum < 4294967296 := by
  have hsum := sum_words_le buffer
  have hstart := start.toNat_lt
  omega

theorem toNat_add_word {high low : UInt8} (hfits : sum.toNat + Bytes.word high low < 4294967296) :
    (sum + UInt32.ofNat (Bytes.word high low)).toNat = sum.toNat + Bytes.word high low := by
  rw [UInt32.toNat_add, UInt32.toNat_ofNat']
  omega

/-- The accumulator holds the sum of the words as long as that fits. -/
theorem toNat_sumWords (hfits : sum.toNat + (words buffer).sum < 4294967296) :
    (sumWords sum buffer).toNat = sum.toNat + (words buffer).sum := by
  induction buffer using words.induct generalizing sum with
  | case1 high low rest ih =>
    rw [words, List.sum_cons, ← Nat.add_assoc] at hfits
    have hfirst := toNat_add_word (Nat.lt_of_add_right_lt hfits)
    rw [sumWords, ih (by rwa [hfirst]), hfirst, words, List.sum_cons, Nat.add_assoc]
  | case2 high =>
    rw [words, List.sum_singleton] at hfits
    rw [sumWords, toNat_add_word hfits, words, List.sum_singleton]
  | case3 => rfl

/-- Folding keeps a sum modulo 65535, and gives zero for nothing but zero. -/
theorem toNat_fold (sum : UInt32) :
    (fold sum).toNat % 65535 = sum.toNat % 65535 ∧ ((fold sum).toNat = 0 ↔ sum.toNat = 0) := by
  induction sum using fold.induct with
  | case1 sum hhigh =>
    have hsmall : sum.toNat / 65536 = 0 := by rw [← toNat_high, hhigh]; rfl
    have htoNat : (fold sum).toNat = sum.toNat := by
      rw [fold, if_pos hhigh, UInt32.toNat_toUInt16]
      omega
    rw [htoNat]
    exact ⟨rfl, Iff.rfl⟩
  | case2 sum hhigh ih =>
    rw [toNat_fold_once] at ih
    rw [fold, if_neg hhigh]
    omega

theorem onesAdd_cases {a b : Nat} (ha : a < 65536) (hb : b < 65536) :
    onesAdd a b < 65536 ∧ onesAdd a b % 65535 = (a + b) % 65535 ∧
      (onesAdd a b = 0 ↔ a + b = 0) := by
  unfold onesAdd
  split <;> omega

theorem foldl_onesAdd {a : Nat} {ws : List Nat} (ha : a < 65536) (hws : ∀ w ∈ ws, w < 65536) :
    ws.foldl onesAdd a < 65536 ∧ ws.foldl onesAdd a % 65535 = (a + ws.sum) % 65535 ∧
      (ws.foldl onesAdd a = 0 ↔ a + ws.sum = 0) := by
  induction ws generalizing a with
  | nil => exact ⟨ha, rfl, Iff.rfl⟩
  | cons w ws ih =>
    obtain ⟨hlt, hmod, hzero⟩ := onesAdd_cases ha (hws w List.mem_cons_self)
    obtain ⟨hlt', hmod', hzero'⟩ := ih hlt fun v hv => hws v (List.mem_cons_of_mem w hv)
    rw [List.foldl_cons, List.sum_cons]
    refine ⟨hlt', ?_, ?_⟩ <;> omega

/-- The result agrees with the start and the words modulo 65535, and is zero only if they are. -/
theorem toNat_ofBytes_mod (start : UInt16) (hlength : buffer.length ≤ 131072) :
    (ofBytes start buffer).toNat % 65535 = (start.toNat + (words buffer).sum) % 65535 ∧
      ((ofBytes start buffer).toNat = 0 ↔ start.toNat + (words buffer).sum = 0) := by
  have hfits : start.toUInt32.toNat + (words buffer).sum < 4294967296 := by
    rw [UInt16.toNat_toUInt32]
    exact sum_words_lt hlength
  have hsum := toNat_sumWords hfits
  rw [UInt16.toNat_toUInt32] at hsum
  rw [ofBytes, ← hsum]
  exact toNat_fold (sumWords start.toUInt32 buffer)

/-- The folded accumulator is the one's-complement sum. Both lie below 65536, agree modulo 65535,
and are zero only together, so the two zeros of that arithmetic are not confused. -/
theorem toNat_ofBytes (start : UInt16) (hlength : buffer.length ≤ 131072) :
    (ofBytes start buffer).toNat = onesSum start.toNat buffer := by
  obtain ⟨hmod, hzero⟩ := toNat_ofBytes_mod start hlength
  obtain ⟨hlt', hmod', hzero'⟩ := foldl_onesAdd start.toNat_lt fun w (hw : w ∈ words buffer) =>
    lt_of_mem_words hw
  have hlt := (ofBytes start buffer).toNat_lt
  rw [onesSum]
  omega

theorem verifies_iff (hlength : buffer.length ≤ 131072) :
    verifies buffer = true ↔ onesSum 0 buffer = 0xFFFF := by
  have hsum : (ofBytes 0 buffer).toNat = onesSum 0 buffer := toNat_ofBytes 0 hlength
  rw [verifies, beq_iff_eq, ← UInt16.toNat_inj, hsum]
  rfl

end TunnelFirewall.Checksum
