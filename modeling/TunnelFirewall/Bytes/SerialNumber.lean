/-!
# Serial-number order

Sequence numbers of 32 bits wrap around, so the smaller of two numbers need not be the earlier
one. When they lie less than about half of the number space apart, the smaller one precedes;
when they lie farther apart, the larger one precedes, because the other has wrapped around.
-/
namespace TunnelFirewall.SerialNumber

/-- The distance from which two numbers are taken to lie on either side of the wrap. -/
def halfSpace : UInt32 := 0x7FFFFFFF

/-- Compares two wrapping 32-bit counters. At exactly `halfSpace` apart the first counts as the
later one. -/
def order (a b : UInt32) : Ordering :=
  if a = b then .eq
  else if (a < b ∧ b - a < halfSpace) ∨ (b < a ∧ halfSpace < a - b) then .lt
  else .gt

end TunnelFirewall.SerialNumber
