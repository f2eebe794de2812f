import TunnelFirewall.Bytes.Split

/-!
# UTF-8

Two checks of different strength. The structural one looks at lead and continuation bytes
only: a lead byte announces how many continuation bytes follow it. Decoding is strict and
refuses overlong forms, surrogates and numbers past the last code point as well.
-/
namespace TunnelFirewall.Utf8

/-- Bytes of the form `10xxxxxx`. -/
def isContinuation (byte : UInt8) : Bool := byte &&& 0xC0 == 0x80

/-- How many continuation bytes a lead byte announces, if it can start a character. -/
def continuationCount? (lead : UInt8) : Option Nat :=
  if lead &&& 0x80 == 0 then some 0
  else if lead &&& 0xE0 == 0xC0 then some 1
  else if lead &&& 0xF0 == 0xE0 then some 2
  else if lead &&& 0xF8 == 0xF0 then some 3
  else none

/-- The bytes complete a character of which `pending` continuation bytes are still due, and
whole characters follow it. -/
def isStructuralAfter : Nat → Bytes → Bool
  | 0, [] => true
  | _ + 1, [] => false
  | 0, lead :: rest =>
    match continuationCount? lead with
    | some count => isStructuralAfter count rest
    | none => false
  | pending + 1, byte :: rest => isContinuation byte && isStructuralAfter pending rest

/-- The bytes follow the lead and continuation structure of UTF-8. -/
def isStructural (bytes : Bytes) : Bool := isStructuralAfter 0 bytes

/-- The text that the bytes encode, if they encode one. -/
def decode? (bytes : Bytes) : Option String :=
  String.fromUTF8? ⟨bytes.toArray⟩

/-- The encoding of a text. -/
def encode (text : String) : Bytes := text.toUTF8.toList

end TunnelFirewall.Utf8
