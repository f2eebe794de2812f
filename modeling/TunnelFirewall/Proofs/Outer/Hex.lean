import TunnelFirewall.Outer.Hex
import TunnelFirewall.Proofs.Bytes.Hex

/-!
# The decoder of hexadecimal digits is lawful

Reading on behind a pair finds what reading from the start finds there, two places further on.
-/
namespace TunnelFirewall.Hex

variable {byte : UInt8}

/-- The decoder takes the same bytes for digits, and for the same values. -/
theorem half?_eq (byte : UInt8) : half? byte = (digit? byte).map UInt8.toNat := by
  revert byte
  apply Bytes.forall_byte
  decide +kernel

theorem digit?_eq_none (h : half? byte = none) : digit? byte = none := by
  rwa [half?_eq, Option.map_eq_none_iff] at h

theorem exists_digit?_eq_some {value : Nat} (h : half? byte = some value) :
    ∃ half, digit? byte = some half ∧ half.toNat = value := by
  rwa [half?_eq, Option.map_eq_some_iff] at h

theorem ofNat_pair (high low : UInt8) :
    UInt8.ofNat (high.toNat * 16 + low.toNat) = high * 16 + low := by
  apply UInt8.toNat_inj.1
  simp only [UInt8.toNat_ofNat', UInt8.toNat_add, UInt8.toNat_mul, UInt8.toNat_ofNat]
  omega

/-- Faults are counted from where the reading starts. -/
theorem decodePairs_add (index n : Nat) (text : Bytes) :
    decodePairs (index + n) text = (decodePairs index text).mapError (.behind n) := by
  fun_induction decodePairs index text with
  | case1 index high low rest h l hhigh hlow bytes hrest ih =>
    rw [hrest, Nat.add_right_comm] at ih
    simp only [decodePairs, hhigh, hlow, ih]
    rfl
  | case2 index high low rest h l hhigh hlow fault hrest ih =>
    rw [hrest, Nat.add_right_comm] at ih
    simp only [decodePairs, hhigh, hlow, ih]
    rfl
  | case3 index high low rest hhigh =>
    simp only [decodePairs, hhigh]
    rfl
  | case4 index high low rest h hhigh hlow =>
    simp only [decodePairs, hhigh, hlow, Nat.add_right_comm index n 1]
    rfl
  | case5 index text hshort =>
    rw [decodePairs]
    · rfl
    · exact hshort

theorem readsPairs_decodePairs : HexDecoder.ReadsPairs fun _ => decodePairs 0 where
  nil := rfl
  high := by
    intro high low rest size bad _
    simp only [decodePairs, digit?_eq_none bad]
  low := by
    intro high low rest size upper good bad _
    obtain ⟨half, hhalf, -⟩ := exists_digit?_eq_some good
    simp only [decodePairs, hhalf, digit?_eq_none bad, Nat.zero_add]
  pair := by
    intro high low rest size upper lower first second _
    obtain ⟨h, hhigh, rfl⟩ := exists_digit?_eq_some first
    obtain ⟨l, hlow, rfl⟩ := exists_digit?_eq_some second
    simp only [decodePairs, hhigh, hlow, decodePairs_add 0 2 rest, ofNat_pair]
    cases decodePairs 0 rest <;> rfl

/-- Only what a reader does with texts of the right length counts. -/
theorem readsPairs_of_eq {read other : Nat → Bytes → Except HexDecoder.Fault Bytes}
    (hread : HexDecoder.ReadsPairs read)
    (heq : ∀ (size : Nat) (text : Bytes), text.length = 2 * size →
      other size text = read size text) :
    HexDecoder.ReadsPairs other := by
  have hpair {high low : UInt8} {rest : Bytes} {size : Nat} (length : rest.length = 2 * size) :
      other (size + 1) (high :: low :: rest) = read (size + 1) (high :: low :: rest) := by
    apply heq
    simp only [List.length_cons, length]
    omega
  constructor
  case nil => rw [heq 0 [] rfl, hread.nil]
  case high =>
    intro high low rest size bad length
    rw [hpair length, hread.high bad length]
  case low =>
    intro high low rest size upper good bad length
    rw [hpair length, hread.low good bad length]
  case pair =>
    intro high low rest size upper lower first second length
    rw [hpair length, heq size rest length, hread.pair first second length]

theorem pairDecoder_lawful : @HexDecoder.Lawful pairDecoder where
  decode := by
    apply readsPairs_of_eq readsPairs_decodePairs
    intro size text hlength
    have heven : ¬text.length % 2 ≠ 0 := by omega
    exact if_neg heven
  fill := by
    apply readsPairs_of_eq readsPairs_decodePairs
    intro size text hlength
    have heven : ¬text.length % 2 ≠ 0 := by omega
    have hsize : ¬text.length / 2 ≠ size := by omega
    exact (if_neg heven).trans (if_neg hsize)

end TunnelFirewall.Hex
