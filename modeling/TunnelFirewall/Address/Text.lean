import TunnelFirewall.Address.Basic
import TunnelFirewall.Text.Fields
import TunnelFirewall.Text.Numeral

/-!
# Address text

An IPv4 address is written as four decimal octets. An IPv6 address is written as eight
lower-case hexadecimal groups, where the longest run of at least two zero groups, the first of
them on a tie, becomes a double colon; a mapped address ends in its IPv4 form. Reading takes
any spelling: groups of one to four digits, at most one double colon that stands for at least
one group, and an IPv4 address in place of the last two groups.
-/
namespace TunnelFirewall

namespace IPv4

/-- Dotted decimal. -/
def chars (a : IPv4) : List Char :=
  Text.joinFields '.' (a.octets.map fun octet => Nat.toDigits 10 octet.toNat)

/-- One octet: up to three decimal digits, without a leading zero unless it is zero itself. -/
def readOctet? (row : List Char) : Option UInt8 :=
  if row.length ≤ 3 ∧ (row.head? = some '0' → row = ['0']) then
    ((Numeral.digits? 10 row).filter (· < 256)).map UInt8.ofNat
  else none

/-- The address that a text writes in dotted decimal. -/
def read? (text : List Char) : Option IPv4 :=
  match (Text.fields '.' text).mapM readOctet? with
  | some octets => ofOctets? octets
  | none => none

end IPv4

namespace IPv6

/-- Octets two by two as groups of sixteen bits. -/
def groupsOf : Bytes → List Nat
  | high :: low :: rest => Bytes.word high low :: groupsOf rest
  | _ => []

/-- The eight groups of an address. -/
def groups (a : IPv6) : List Nat := groupsOf a.octets

def octetsOf (row : List Nat) : Bytes :=
  row.flatMap fun group => [UInt8.ofNat (group / 256), UInt8.ofNat (group % 256)]

/-- The length of the longest run of zeros, and the place of the first run of that length, in
a row that starts at place `start`. -/
def longestZeroRun (start : Nat) : List Nat → Nat × Nat
  | [] => (0, start)
  | group :: rest =>
    let here := ((group :: rest).takeWhile (· == 0)).length
    let later := longestZeroRun (start + 1) rest
    if later.1 ≤ here then (here, start) else later

def joinGroups (row : List Nat) : List Char :=
  Text.joinFields ':' (row.map (Nat.toDigits 16))

/-- The written form of an address. -/
def chars (a : IPv6) : List Char :=
  match a.unmapped? with
  | some v4 => [':', ':', 'f', 'f', 'f', 'f', ':'] ++ v4.chars
  | none =>
    let (length, start) := longestZeroRun 0 a.groups
    if 1 < length then
      joinGroups (a.groups.take start) ++ [':', ':'] ++ joinGroups (a.groups.drop (start + length))
    else joinGroups a.groups

/-- One group: one to four hexadecimal digits. -/
def readGroup? (row : List Char) : Option Nat :=
  if row.length ≤ 4 then Numeral.digits? 16 row else none

/-- The groups of the fields between colons, where the last field may hold an IPv4 address for
two groups if `quad` allows it. -/
def readGroups? (quad : Bool) : List (List Char) → Option (List Nat)
  | [] => some []
  | [last] =>
    match readGroup? last with
    | some group => some [group]
    | none => if quad then (IPv4.read? last).map fun a => groupsOf a.octets else none
  | field :: rest =>
    match readGroup? field, readGroups? quad rest with
    | some group, some groups => some (group :: groups)
    | _, _ => none

/-- The groups on one side of a double colon; a side may be empty. -/
def readSide? (quad : Bool) : List Char → Option (List Nat)
  | [] => some []
  | side => readGroups? quad (Text.fields ':' side)

/-- The eight groups of an address, zeros in place of a double colon. -/
def fillGroups? (front back : List Nat) : Option (List Nat) :=
  if front.length + back.length < 8 then
    some (front ++ List.replicate (8 - front.length - back.length) 0 ++ back)
  else none

/-- The groups of the address that a text writes. -/
def readAll? (text : List Char) : Option (List Nat) :=
  match Text.cutDouble? ':' text with
  | none => readGroups? true (Text.fields ':' text)
  | some (front, back) =>
    match readSide? false front, readSide? true back with
    | some front, some back => fillGroups? front back
    | _, _ => none

/-- The address that a text writes. -/
def read? (text : List Char) : Option IPv6 :=
  (readAll? text).bind fun row => ofOctets? (octetsOf row)

end IPv6

namespace Address

def chars : Address → List Char
  | .v4 a => a.chars
  | .v6 a => a.chars

/-- The written form of an address. -/
def text (a : Address) : String := String.ofList a.chars

/-- The address that a text writes. -/
def read? (text : String) : Option Address :=
  match IPv4.read? text.toList with
  | some a => some (.v4 a)
  | none => (IPv6.read? text.toList).map .v6

end Address

def IPv6.text (a : IPv6) : String := String.ofList a.chars

end TunnelFirewall
