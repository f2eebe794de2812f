import TunnelFirewall.Address.Basic

/-!
# Networks

A network is a range of addresses that have their first bits in common. What an address and a
number of leading bits make a network of, and which addresses lie in it, comes from elsewhere.
-/
namespace TunnelFirewall

/-- The number of bits of an address. -/
def IpVersion.width : IpVersion → Nat
  | .v4 => 32
  | .v6 => 128

/-- A library of networks. -/
class Networks where
  /-- The network of an address and a number of leading bits, if there is one: it tells whether
  an address of the same version lies in it. -/
  network? : Address → UInt8 → Option (Address → Bool)

namespace IPv4

/-- An address of the host itself. -/
def isLoopback (a : IPv4) : Bool := a.first == 127

def isMulticast (a : IPv4) : Bool := 224 ≤ a.first && a.first ≤ 239

def isBroadcast (a : IPv4) : Bool := a == ⟨255, 255, 255, 255⟩

/-- The address of 32 bits. -/
def ofWord (word : UInt32) : IPv4 :=
  ⟨(word >>> 24).toUInt8, (word >>> 16).toUInt8, (word >>> 8).toUInt8, word.toUInt8⟩

end IPv4

namespace IPv6

/-- The address of the host itself. -/
def isLoopback (a : IPv6) : Bool := a.octets == List.replicate 15 0 ++ [1]

def isMulticast (a : IPv6) : Bool := a.octets.head? == some 0xFF

def isUnspecified (a : IPv6) : Bool := a == unspecified

/-- The address of 128 bits. -/
def ofWord (word : BitVec 128) : IPv6 :=
  ⟨(List.range 16).map fun place => UInt8.ofNat (word.toNat >>> (8 * (15 - place))), rfl⟩

end IPv6

end TunnelFirewall
