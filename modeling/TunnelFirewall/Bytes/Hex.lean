import TunnelFirewall.Text.Quoted
import TunnelFirewall.Text.Utf8

/-!
# Hexadecimal text

Bytes are written as pairs of hexadecimal digits, the high half first. The pairs are read by a
decoder that comes from elsewhere; the length of the text is checked before, in bytes and not in
characters, and what the decoder finds wrong is put in the words of this program.
-/
namespace TunnelFirewall

/-- What a decoder finds wrong with a row of digits. -/
inductive HexDecoder.Fault
  | oddLength
  | wrongSize
  | badDigit (char : Char) (index : Nat)
deriving DecidableEq

/-- A decoder of pairs of digits: of all that there are, or of so many as fill a buffer. -/
class HexDecoder where
  decode : Bytes → Except HexDecoder.Fault Bytes
  fill : (size : Nat) → Bytes → Except HexDecoder.Fault Bytes

namespace Hex

/-- The character whose code point is a byte, as which a decoder reports it. -/
def charOfByte (byte : UInt8) : Char := Char.ofNat byte.toNat

/-- Why a text is no hexadecimal byte string. -/
inductive Error
  | oddLength (length : Nat)
  | lengthMismatch (expected actual : Nat)
  | invalidCharacter (char : Char) (index : Nat)
deriving DecidableEq

namespace Error

/-- What is reported of a text of `length` bytes that a decoder has refused. -/
def ofFault (length : Nat) : HexDecoder.Fault → Error
  | .badDigit char index => .invalidCharacter char index
  | .oddLength | .wrongSize => .oddLength length

def message : Error → String
  | .oddLength length => s!"odd hex length: {length}"
  | .lengthMismatch expected actual => s!"expected {expected} hex characters, got {actual}"
  | .invalidCharacter char index =>
    "invalid hex character " ++ Text.quotedChar char ++ s!" at index {index}"

end Error

/-- The bytes that a text of digit pairs stands for. -/
def decode [HexDecoder] (text : String) : Except Error Bytes :=
  let digits := Utf8.encode text
  if digits.length % 2 ≠ 0 then .error (.oddLength digits.length)
  else (HexDecoder.decode digits).mapError (.ofFault digits.length)

/-- The `size` bytes that a text stands for; any other length of text is refused first. -/
def decodeExact [HexDecoder] (size : Nat) (text : String) : Except Error Bytes :=
  let digits := Utf8.encode text
  if digits.length ≠ 2 * size then .error (.lengthMismatch (2 * size) digits.length)
  else (HexDecoder.fill size digits).mapError (.ofFault digits.length)

/-- The upper-case digit of a value below sixteen. -/
def upperDigit (value : Nat) : Char :=
  if value < 10 then Char.ofNat (0x30 + value) else Char.ofNat (0x41 + (value - 10))

/-- One byte of a dump: two upper-case digits and a space. -/
def dumpByte (byte : UInt8) : List Char :=
  [upperDigit (byte.toNat / 16), upperDigit (byte.toNat % 16), ' ']

/-- Every byte as two upper-case digits with a space behind them. -/
def dump (bytes : Bytes) : String := String.ofList (bytes.flatMap dumpByte)

end Hex

end TunnelFirewall
