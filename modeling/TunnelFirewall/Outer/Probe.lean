import TunnelFirewall.Probe.Datagram

/-!
# Networks and random numbers

A network holds the addresses whose numbers agree with its own in all but the last bits. The random
numbers are those of a linear congruential generator.
-/
namespace TunnelFirewall

instance prefixNetworks : Networks where
  network? network length :=
    let width := network.version.width
    let front (a : Address) : Nat := Bytes.bigEndian a.octets >>> (width - length.toNat)
    if length.toNat ≤ width then
      some fun a => a.version == network.version && front a == front network
    else none

namespace Probe

/-- The next number of the generator. -/
def nextWord : StateM UInt64 UInt64 := fun state =>
  let state := state * 6364136223846793005 + 1442695040888963407
  (state >>> 16, state)

/-- So many bytes of the generator. -/
def nextBytes : (size : Nat) → StateM UInt64 (Vector UInt8 size)
  | 0 => return #v[]
  | size + 1 => do
    let bytes ← nextBytes size
    let word ← nextWord
    return bytes.push word.toUInt8

def congruential : Chance UInt64 where
  bits32 := return (← nextWord).toUInt32
  bits128 := do
    let high ← nextWord
    let low ← nextWord
    return high.toBitVec ++ low.toBitVec
  between16 low high := do
    let word ← nextWord
    return .ofNat (low.toNat + word.toNat % (high.toNat - low.toNat + 1))
  between64 low high := do
    let word ← nextWord
    return .ofNat (low.toNat + word.toNat % (high.toNat - low.toNat + 1))
  fill := nextBytes

end Probe

end TunnelFirewall
