/-!
# Unsigned numerals

A numeral is an optional plus sign and at least one digit of its radix. Leading zeros are
allowed; a minus sign, blanks and separators are not. A reader that has a limit refuses a
numeral at or past it.
-/
namespace TunnelFirewall.Numeral

/-- The value of a digit, letters of either case counting from ten, if it is below the radix. -/
def digit? (radix : Nat) (c : Char) : Option Nat :=
  let value? :=
    if '0' ≤ c ∧ c ≤ '9' then some (c.toNat - '0'.toNat)
    else if 'a' ≤ c ∧ c ≤ 'z' then some (c.toNat - 'a'.toNat + 10)
    else if 'A' ≤ c ∧ c ≤ 'Z' then some (c.toNat - 'A'.toNat + 10)
    else none
  value?.filter (· < radix)

/-- The value of a row of digits on top of the value read so far. -/
def digitsFrom? (radix : Nat) (value : Nat) : List Char → Option Nat
  | [] => some value
  | c :: rest =>
    match digit? radix c with
    | some d => digitsFrom? radix (value * radix + d) rest
    | none => none

/-- The value of a nonempty row of digits. -/
def digits? (radix : Nat) : List Char → Option Nat
  | [] => none
  | row => digitsFrom? radix 0 row

/-- The value of a numeral. -/
def value? (radix : Nat) : List Char → Option Nat
  | '+' :: row => digits? radix row
  | row => digits? radix row

/-- The value of a numeral, if it is below `limit`. -/
def below? (limit radix : Nat) (text : String) : Option Nat :=
  (value? radix text.toList).filter (· < limit)

end TunnelFirewall.Numeral
