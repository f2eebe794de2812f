import TunnelFirewall.Outer.Probe
import TunnelFirewall.Proofs.Probe.Datagram

/-!
# The networks and the random numbers are lawful

The generator reduces a word to the width of the range that is asked for and adds it to its start.
-/
namespace TunnelFirewall

theorem prefixNetworks_lawful : @Networks.Lawful prefixNetworks where
  network {network length} h := by
    refine ⟨_, if_pos h, ?_⟩
    intro a hversion
    rw [Bool.and_eq_true, beq_iff_eq, beq_iff_eq]
    rfl

namespace Probe

theorem reduced_le {low high : Nat} (h : low ≤ high) (word : Nat) :
    low + word % (high - low + 1) ≤ high := by
  have hlt : word % (high - low + 1) < high - low + 1 := Nat.mod_lt _ (Nat.succ_pos _)
  omega

theorem congruential_lawful : congruential.Lawful where
  between16 {low high} h r := by
    rw [UInt16.le_iff_toNat_le] at h
    have hle := reduced_le h (nextWord r).1.toNat
    have hsame : (congruential.between16 low high r).1.toNat =
        low.toNat + (nextWord r).1.toNat % (high.toNat - low.toNat + 1) :=
      UInt16.toNat_ofNat_of_lt' (Nat.lt_of_le_of_lt hle high.toNat_lt)
    rw [UInt16.le_iff_toNat_le, UInt16.le_iff_toNat_le, hsame]
    exact ⟨Nat.le_add_right _ _, hle⟩
  between64 {low high} h r := by
    rw [UInt64.le_iff_toNat_le] at h
    have hle := reduced_le h (nextWord r).1.toNat
    have hsame : (congruential.between64 low high r).1.toNat =
        low.toNat + (nextWord r).1.toNat % (high.toNat - low.toNat + 1) :=
      UInt64.toNat_ofNat_of_lt' (Nat.lt_of_le_of_lt hle high.toNat_lt)
    rw [UInt64.le_iff_toNat_le, UInt64.le_iff_toNat_le, hsame]
    exact ⟨Nat.le_add_right _ _, hle⟩

end Probe

end TunnelFirewall
