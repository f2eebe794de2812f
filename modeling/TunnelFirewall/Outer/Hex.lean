import TunnelFirewall.Bytes.Hex

/-!
# A decoder of hexadecimal digits

The pairs are read from left to right, digits of either case, and the first byte that is no digit
is reported with its place, as the character whose code point it is.
-/
namespace TunnelFirewall.Hex

/-- The value of a digit, given as the byte that encodes it. -/
def digit? (byte : UInt8) : Option UInt8 :=
  if 0x30 ≤ byte ∧ byte ≤ 0x39 then some (byte - 0x30)
  else if 0x41 ≤ byte ∧ byte ≤ 0x46 then some (byte - 0x41 + 10)
  else if 0x61 ≤ byte ∧ byte ≤ 0x66 then some (byte - 0x61 + 10)
  else none

/-- Reads pairs of digits, the first of which stands at `index`. A last lone digit is left. -/
def decodePairs (index : Nat) : Bytes → Except HexDecoder.Fault Bytes
  | high :: low :: rest =>
    match digit? high, digit? low with
    | some h, some l =>
      match decodePairs (index + 2) rest with
      | .ok bytes => .ok ((h * 16 + l) :: bytes)
      | .error fault => .error fault
    | none, _ => .error (.badDigit (charOfByte high) index)
    | some _, none => .error (.badDigit (charOfByte low) (index + 1))
  | _ => .ok []

instance pairDecoder : HexDecoder where
  decode digits := if digits.length % 2 ≠ 0 then .error .oddLength else decodePairs 0 digits
  fill size digits :=
    if digits.length % 2 ≠ 0 then .error .oddLength
    else if digits.length / 2 ≠ size then .error .wrongSize
    else decodePairs 0 digits

end TunnelFirewall.Hex
