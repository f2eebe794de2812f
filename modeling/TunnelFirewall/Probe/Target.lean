import TunnelFirewall.Address.Network

/-!
# Probe targets

A probe goes to a random address of the public internet. An address that has a meaning of its own
or lies in a reserved network is no target.
-/
namespace TunnelFirewall.Probe

/-- Networks that no probe goes to. Of IPv4 these are the present network, private and link-local
networks, and networks for protocols and documentation; of IPv6 unique local and link-local
addresses and addresses for documentation. -/
def reserved : IpVersion → List (Address × UInt8)
  | .v4 =>
    [(.v4 ⟨0, 0, 0, 0⟩, 8), (.v4 ⟨10, 0, 0, 0⟩, 8), (.v4 ⟨172, 16, 0, 0⟩, 12),
      (.v4 ⟨192, 168, 0, 0⟩, 16), (.v4 ⟨169, 254, 0, 0⟩, 16), (.v4 ⟨192, 0, 0, 0⟩, 24),
      (.v4 ⟨192, 0, 2, 0⟩, 24), (.v4 ⟨198, 51, 100, 0⟩, 24), (.v4 ⟨203, 0, 113, 0⟩, 24)]
  | .v6 =>
    [(.v6 ⟨[0xFC, 0] ++ List.replicate 14 0, rfl⟩, 7),
      (.v6 ⟨[0xFE, 0x80] ++ List.replicate 14 0, rfl⟩, 10),
      (.v6 ⟨[0x20, 0x01, 0x0D, 0xB8] ++ List.replicate 12 0, rfl⟩, 32)]

/-- The address has a meaning of its own. -/
def isSpecial : Address → Bool
  | .v4 a => a.isLoopback || a.isMulticast || a.isBroadcast
  | .v6 a => a.isLoopback || a.isUnspecified || a.isMulticast

/-- A probe may be sent to this address. -/
def isTarget [Networks] (address : Address) : Bool :=
  !isSpecial address && !(reserved address.version).any fun (network, length) =>
    (Networks.network? network length).any (· address)

end TunnelFirewall.Probe
