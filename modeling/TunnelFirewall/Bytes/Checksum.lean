import TunnelFirewall.Bytes.Split

/-!
# Internet checksum

The one's-complement sum of the big-endian 16-bit words of a buffer. A 32-bit accumulator
adds the words and its carries are folded back into the low half at the end. A header that
carries a correct checksum sums to `0xFFFF`.
-/
namespace TunnelFirewall.Checksum

/-- Adds the words of a buffer to an accumulator; a last odd byte is the high half of a word. -/
def sumWords : UInt32 → Bytes → UInt32
  | sum, high :: low :: rest => sumWords (sum + UInt32.ofNat (Bytes.word high low)) rest
  | sum, [high] => sum + UInt32.ofNat (Bytes.word high 0)
  | sum, [] => sum

theorem toNat_low (sum : UInt32) : (sum &&& (0xFFFF : UInt32)).toNat = sum.toNat % 65536 := by
  rw [UInt32.toNat_and]
  exact Nat.and_two_pow_sub_one_eq_mod sum.toNat 16

theorem toNat_high (sum : UInt32) : (sum >>> 16).toNat = sum.toNat / 65536 := by
  rw [UInt32.toNat_shiftRight]
  simp [Nat.shiftRight_eq_div_pow]

theorem toNat_fold_once (sum : UInt32) :
    ((sum &&& (0xFFFF : UInt32)) + (sum >>> 16)).toNat = sum.toNat % 65536 + sum.toNat / 65536 := by
  have := sum.toNat_lt
  rw [UInt32.toNat_add, toNat_low, toNat_high]
  omega

/-- Adds the high half of a sum to its low half until the high half is empty. -/
def fold (sum : UInt32) : UInt16 :=
  if sum >>> 16 = 0 then sum.toUInt16 else fold ((sum &&& (0xFFFF : UInt32)) + (sum >>> 16))
termination_by sum.toNat
decreasing_by
  rename_i carry
  have high : (sum >>> 16).toNat = sum.toNat / 65536 := by
    rw [UInt32.toNat_shiftRight]
    simp [Nat.shiftRight_eq_div_pow]
  have : sum.toNat / 65536 ≠ 0 := by
    intro zero
    exact carry (UInt32.toNat_inj.mp (by simpa [high] using zero))
  have := toNat_fold_once sum
  omega

/-- The folded one's-complement sum of a buffer, on top of `start`. It is the sum itself, not
its complement. -/
def ofBytes (start : UInt16) (buffer : Bytes) : UInt16 :=
  fold (sumWords start.toUInt32 buffer)

/-- A whole IPv4 header, options included, carries a correct checksum. -/
def verifies (header : Bytes) : Bool :=
  ofBytes 0 header == 0xFFFF

end TunnelFirewall.Checksum
