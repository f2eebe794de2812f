import TunnelFirewall.Bytes.Split

/-!
# Internet addresses

An IPv4 address is four octets, an IPv6 address sixteen, both in network byte order. Every
IPv4 address has a mapped form among the IPv6 addresses.
-/
namespace TunnelFirewall

inductive IpVersion
  | v4
  | v6
deriving DecidableEq

namespace IpVersion

/-- The number in the first half octet of a packet. -/
def number : IpVersion → Nat
  | .v4 => 4
  | .v6 => 6

/-- The short name of a version. -/
def name (version : IpVersion) : String := s!"v{version.number}"

end IpVersion

structure IPv4 where
  first : UInt8
  second : UInt8
  third : UInt8
  fourth : UInt8
deriving DecidableEq

structure IPv6 where
  octets : Bytes
  length_octets : octets.length = 16
deriving DecidableEq

namespace IPv4

/-- The octets in network byte order. -/
def octets (a : IPv4) : Bytes := [a.first, a.second, a.third, a.fourth]

/-- The address with the given octets, if there are four. -/
def ofOctets? : Bytes → Option IPv4
  | [a, b, c, d] => some ⟨a, b, c, d⟩
  | _ => none

/-- The IPv6 form of an IPv4 address: ten zero octets, two octets of ones, the address. -/
def mapped (a : IPv4) : IPv6 :=
  ⟨[0, 0, 0, 0, 0, 0, 0, 0, 0, 0, 0xFF, 0xFF, a.first, a.second, a.third, a.fourth], rfl⟩

/-- The address that stands for any address. -/
def unspecified : IPv4 := ⟨0, 0, 0, 0⟩

end IPv4

namespace IPv6

/-- The address with the given octets, if there are sixteen. -/
def ofOctets? (octets : Bytes) : Option IPv6 :=
  if h : octets.length = 16 then some ⟨octets, h⟩ else none

theorem ofOctets?_octets (a : IPv6) : ofOctets? a.octets = some a := by
  simp [ofOctets?, a.length_octets]

/-- The IPv4 address of which this is the mapped form. -/
def unmapped? (a : IPv6) : Option IPv4 :=
  if a.octets.take 12 = [0, 0, 0, 0, 0, 0, 0, 0, 0, 0, 0xFF, 0xFF] then
    IPv4.ofOctets? (a.octets.drop 12)
  else none

/-- The address that stands for any address. -/
def unspecified : IPv6 := ⟨List.replicate 16 0, rfl⟩

end IPv6

inductive Address
  | v4 (address : IPv4)
  | v6 (address : IPv6)
deriving DecidableEq

namespace Address

def version : Address → IpVersion
  | .v4 _ => .v4
  | .v6 _ => .v6

/-- The octets in network byte order. -/
def octets : Address → Bytes
  | .v4 a => a.octets
  | .v6 a => a.octets

/-- The address with the given octets: four or sixteen of them. -/
def ofOctets? (octets : Bytes) : Option Address :=
  match IPv4.ofOctets? octets with
  | some a => some (.v4 a)
  | none => (IPv6.ofOctets? octets).map .v6

/-- The address among the IPv6 addresses: an IPv4 address in mapped form. -/
def toIPv6 : Address → IPv6
  | .v4 a => a.mapped
  | .v6 a => a

end Address

end TunnelFirewall
