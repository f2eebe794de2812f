import Mathlib.Algebra.Group.Nat.Defs
import TunnelFirewall.Probe.Datagram

/-!
# What a probe may be

A library of networks is lawful if a network holds the addresses whose first bits are its own, and a
source of random numbers is if it keeps to the ranges asked for. Then no target lies in a reserved
network, and every datagram that is drawn goes to a target and a port and has a size in range. The
addresses drawn for IPv6 are global unicast addresses.
-/
namespace TunnelFirewall

/-- The number that an address is. -/
def Address.number (a : Address) : Nat := Bytes.bigEndian a.octets

/-- The address has the first bits of the network. -/
def Address.Within (network : Address) (length : Nat) (a : Address) : Prop :=
  a.version = network.version ∧
    a.number >>> (network.version.width - length) =
      network.number >>> (network.version.width - length)

/-- What is relied on of a library of networks. -/
structure Networks.Lawful [Networks] : Prop where
  /-- There is a network for every number of bits that an address has. -/
  network {network : Address} {length : UInt8} (h : length.toNat ≤ network.version.width) :
    ∃ contains, Networks.network? network length = some contains ∧
      ∀ a : Address, a.version = network.version →
        (contains a = true ↔ network.Within length.toNat a)

/-- The bytes of a number at so many places, in order, spell its remainder. -/
theorem Bytes.bigEndian_places (word size : Nat) :
    bigEndian ((List.range size).map fun place =>
      UInt8.ofNat (word >>> (8 * (size - 1 - place)))) = word % 256 ^ size := by
  induction size generalizing word with
  | zero => exact (Nat.mod_one word).symm
  | succ size ih =>
    -- all places but the last are those of the number without its last byte
    have hfront : ((List.range size).map fun place =>
        UInt8.ofNat (word >>> (8 * (size + 1 - 1 - place)))) =
        (List.range size).map fun place =>
          UInt8.ofNat ((word / 256) >>> (8 * (size - 1 - place))) := by
      apply List.map_congr_left
      intro place hplace
      have hshift : 8 * (size + 1 - 1 - place) = 8 + 8 * (size - 1 - place) := by
        have := List.mem_range.1 hplace
        omega
      rw [hshift, Nat.shiftRight_add, Nat.shiftRight_eq_div_pow word 8]
    have hlast : (UInt8.ofNat (word >>> (8 * (size + 1 - 1 - size)))).toNat = word % 256 := by
      rw [Nat.add_sub_cancel, Nat.sub_self, Nat.mul_zero, Nat.shiftRight_zero, UInt8.toNat_ofNat']
    have hih := ih (word / 256)
    rw [Bytes.bigEndian] at hih
    rw [List.range_succ, List.map_append, hfront, Bytes.bigEndian, List.foldl_append, hih,
      List.map_singleton, List.foldl_cons, List.foldl_nil, hlast, Nat.pow_succ', Nat.mod_mul,
      Nat.add_comm, Nat.mul_comm]

theorem IPv6.number_ofWord (word : BitVec 128) : (Address.v6 (.ofWord word)).number = word.toNat :=
  (Bytes.bigEndian_places word.toNat 16).trans (Nat.mod_eq_of_lt word.isLt)

namespace Probe

/-- The network of the global unicast addresses. -/
def globalNetwork : Address := .v6 ⟨0x20 :: List.replicate 15 0, rfl⟩

/-- The network of the addresses for documentation. -/
def documentationNetwork : Address :=
  .v6 ⟨0x20 :: 0x01 :: 0x0D :: 0xB8 :: List.replicate 12 0, rfl⟩

theorem globalUnicast_ushiftRight (word : BitVec 128) : globalUnicast word >>> 125 = 1#128 := by
  have hmask : ~~~(0b111#128 <<< 125) >>> 125 = 0#128 := by decide
  have hset : 0b001#128 <<< 125 >>> 125 = 1#128 := by decide
  rw [globalUnicast, BitVec.ushiftRight_or_distrib, BitVec.ushiftRight_and_distrib, hmask, hset,
    BitVec.and_zero, BitVec.zero_or]

/-- Every address made so lies in the network of the global unicast addresses. -/
theorem within_globalUnicast (word : BitVec 128) :
    globalNetwork.Within 3 (.v6 (.ofWord (globalUnicast word))) := by
  refine ⟨rfl, ?_⟩
  have hfront : (globalUnicast word).toNat >>> 125 = 1 := by
    rw [← BitVec.toNat_ushiftRight, globalUnicast_ushiftRight]
    rfl
  have hnetwork : globalNetwork.number >>> 125 = 1 := by decide
  rw [IPv6.number_ofWord]
  exact hfront.trans hnetwork.symm

/-- Every reserved network is one. -/
theorem reserved_valid (version : IpVersion) : ∀ entry ∈ reserved version,
    entry.1.version = version ∧ entry.2.toNat ≤ entry.1.version.width := by
  cases version <;> decide

theorem not_within_of_isTarget [Networks] (hnetworks : Networks.Lawful) {address : Address}
    (h : isTarget address = true) {network : Address} {length : UInt8}
    (hreserved : (network, length) ∈ reserved address.version) :
    ¬network.Within length.toNat address := by
  obtain ⟨hversion, hlength⟩ := reserved_valid address.version _ hreserved
  obtain ⟨contains, hnetwork, hcontains⟩ := hnetworks.network hlength
  rw [← hcontains address hversion.symm]
  intro hinside
  simp only [isTarget, Bool.and_eq_true, Bool.not_eq_true', List.any_eq_false] at h
  apply h.2 _ hreserved
  rw [hnetwork]
  exact hinside

/-- What is relied on of a source of random numbers. -/
structure Chance.Lawful {ρ : Type} (chance : Chance ρ) : Prop where
  between16 {low high : UInt16} (h : low ≤ high) (r : ρ) :
    low ≤ (chance.between16 low high r).1 ∧ (chance.between16 low high r).1 ≤ high
  between64 {low high : UInt64} (h : low ≤ high) (r : ρ) :
    low ≤ (chance.between64 low high r).1 ∧ (chance.between64 low high r).1 ≤ high

section

variable [Networks] {ρ : Type}

/-- A datagram that a wait may send: to a public address and a port, of a size in range, and to an
IPv6 address only if that is asked for, which is then global and not for documentation. -/
structure Datagram.IsProbe (settings : ProbeSettings) (datagram : Datagram) : Prop where
  target : isTarget datagram.address = true
  port_ne : datagram.port ≠ 0
  size_ge : settings.minSize.toNat ≤ datagram.payload.length
  size_le : datagram.payload.length ≤ max settings.minSize.toNat settings.maxSize.toNat
  ipv6 : ∀ a, datagram.address = .v6 a → settings.ipv6 = true ∧
    globalNetwork.Within 3 (.v6 a) ∧ ¬documentationNetwork.Within 32 (.v6 a)

variable {settings : ProbeSettings} {chance : Chance ρ} {version : IpVersion} {r r' : ρ}
  {address : Address} {datagram : Datagram}

omit [Networks] in
/-- Only the tries with IPv6 draw IPv6 addresses, and these are global unicast addresses. -/
theorem within_of_randomAddress {a : IPv6} (h : (randomAddress chance version r).1 = .v6 a) :
    version = .v6 ∧ globalNetwork.Within 3 (.v6 a) := by
  cases version with
  | v4 => cases h
  | v6 =>
    rw [← h]
    exact ⟨rfl, within_globalUnicast (chance.bits128 r).1⟩

/-- After the address the datagram is drawn, if the address is a target. -/
theorem randomProbe?_eq (settings : ProbeSettings) (chance : Chance ρ) (version : IpVersion)
    (r : ρ) :
    randomProbe? chance settings version r =
      if isTarget (randomAddress chance version r).1 then
        (randomDatagram chance settings (randomAddress chance version r).1
          (randomAddress chance version r).2).map some id
      else (none, (randomAddress chance version r).2) := by
  have hrest (address : Address) (r' : ρ) :
      (if isTarget address then do
          let datagram ← randomDatagram chance settings address
          return some datagram
        else return none : StateM ρ (Option Datagram)) r' =
      if isTarget address then (randomDatagram chance settings address r').map some id
      else (none, r') := by
    split <;> rfl
  exact hrest _ _

omit [Networks] in
theorem randomDatagram_spec (hchance : chance.Lawful)
    (h : (randomDatagram chance settings address r).1 = datagram) :
    datagram.address = address ∧ datagram.port ≠ 0 ∧
      settings.minSize.toNat ≤ datagram.payload.length ∧
      datagram.payload.length ≤ max settings.minSize.toNat settings.maxSize.toNat := by
  have hports : (1 : UInt16) ≤ 65535 := by decide
  have hmost := toNat_max settings.maxSize settings.minSize
  have hsizes : settings.minSize ≤ max settings.maxSize settings.minSize := by
    rw [UInt64.le_iff_toNat_le, hmost]
    exact Nat.le_max_right _ _
  obtain ⟨hport, -⟩ := hchance.between16 hports r
  obtain ⟨hmin, hmax⟩ := hchance.between64 hsizes (chance.between16 1 65535 r).2
  rw [UInt64.le_iff_toNat_le] at hmin hmax
  rw [hmost, Nat.max_comm] at hmax
  subst h
  refine ⟨rfl, UInt16.pos_iff_ne_zero.1 hport, ?_, ?_⟩
  · exact Nat.le_trans hmin (Nat.le_of_eq Vector.length_toList.symm)
  · exact Nat.le_trans (Nat.le_of_eq Vector.length_toList) hmax

theorem isProbe_of_randomProbe? (hnetworks : Networks.Lawful) (hchance : chance.Lawful)
    (hversion : version = .v6 → settings.ipv6 = true)
    (h : (randomProbe? chance settings version r).1 = some datagram) :
    datagram.IsProbe settings := by
  rw [randomProbe?_eq] at h
  split at h
  · rename_i htarget
    obtain ⟨haddress, hport, hmin, hmax⟩ := randomDatagram_spec hchance (Option.some.inj h)
    refine ⟨by rwa [haddress], hport, hmin, hmax, ?_⟩
    intro a ha
    rw [haddress] at ha
    obtain ⟨hsix, hglobal⟩ := within_of_randomAddress ha
    rw [ha] at htarget
    have hreserved : (documentationNetwork, 32) ∈ reserved .v6 := by
      simp [reserved, documentationNetwork]
    exact ⟨hversion hsix, hglobal, not_within_of_isTarget hnetworks htarget hreserved⟩
  · cases h

end

end Probe

end TunnelFirewall
