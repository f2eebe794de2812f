import TunnelFirewall.Config.Basic
import TunnelFirewall.Probe.Target

/-!
# Probe datagrams

A probe is a small datagram of random bytes to a random address and port. The random numbers come
from elsewhere. Nothing but the address is drawn when the address is no target.
-/
namespace TunnelFirewall.Probe

/-- A source of random numbers on a state of its own. -/
structure Chance (ρ : Type) where
  bits32 : StateM ρ UInt32
  bits128 : StateM ρ (BitVec 128)
  /-- A number from the first to the second. -/
  between16 : UInt16 → UInt16 → StateM ρ UInt16
  /-- A number from the first to the second. -/
  between64 : UInt64 → UInt64 → StateM ρ UInt64
  /-- So many bytes. -/
  fill : (size : Nat) → StateM ρ (Vector UInt8 size)

structure Datagram where
  address : Address
  port : UInt16
  payload : Bytes
deriving DecidableEq

/-- The first three bits are replaced by those of global unicast addresses. -/
def globalUnicast (word : BitVec 128) : BitVec 128 :=
  word &&& ~~~(0b111#128 <<< 125) ||| (0b001#128 <<< 125)

section

variable {ρ : Type} (chance : Chance ρ)

def randomAddress : IpVersion → StateM ρ Address
  | .v4 => do
    let word ← chance.bits32
    return .v4 (.ofWord word)
  | .v6 => do
    let word ← chance.bits128
    return .v6 (.ofWord (globalUnicast word))

/-- A datagram to an address. The largest payload is never below the smallest. -/
def randomDatagram (settings : ProbeSettings) (address : Address) : StateM ρ Datagram := do
  let port ← chance.between16 1 65535
  let size ← chance.between64 settings.minSize (max settings.maxSize settings.minSize)
  let payload ← chance.fill size.toNat
  return ⟨address, port, payload.toList⟩

/-- The datagram of one try, unless its address is no target. -/
def randomProbe? [Networks] (settings : ProbeSettings) (version : IpVersion) :
    StateM ρ (Option Datagram) := do
  let address ← randomAddress chance version
  if isTarget address then
    let datagram ← randomDatagram chance settings address
    return some datagram
  else return none

end

end TunnelFirewall.Probe
