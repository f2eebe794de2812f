import TunnelFirewall.Bytes.Hex
import TunnelFirewall.Failure
import TunnelFirewall.Owner.Basic
import TunnelFirewall.Text.Blank
import TunnelFirewall.Text.Fields
import TunnelFirewall.Text.Numeral

/-!
# Connection tables

The kernel lists its sockets in one table for each pair of version and transport protocol. A
line is made of columns; the local and the remote endpoint and the owner's uid stand in three of
them. An address is written as 32-bit words in the byte order of the machine, which is
little-endian, so the octets of each word are turned round.
-/
namespace TunnelFirewall

/-- The kernel's connection tables. -/
inductive ConnectionTable
  | tcp
  | tcp6
  | udp
  | udp6
  | icmp
  | icmp6
deriving DecidableEq

namespace ConnectionTable

/-- The table that lists the sockets of a protocol. ICMP has one for IPv4 only, ICMPv6 one for
IPv6 only, and no other protocol has one. -/
def select? (version : IpVersion) (protocol : Protocol) : Option ConnectionTable :=
  match version with
  | .v4 =>
    if protocol = .icmp then some .icmp
    else if protocol = .tcp then some .tcp
    else if protocol = .udp then some .udp
    else none
  | .v6 =>
    if protocol = .icmpv6 then some .icmp6
    else if protocol = .tcp then some .tcp6
    else if protocol = .udp then some .udp6
    else none

/-- The name of the file that holds a table. -/
def fileName : ConnectionTable → String
  | .tcp => "tcp"
  | .tcp6 => "tcp6"
  | .udp => "udp"
  | .udp6 => "udp6"
  | .icmp => "icmp"
  | .icmp6 => "icmp6"

def version : ConnectionTable → IpVersion
  | .tcp | .udp | .icmp => .v4
  | .tcp6 | .udp6 | .icmp6 => .v6

def all : List ConnectionTable := [.tcp, .tcp6, .udp, .udp6, .icmp, .icmp6]

end ConnectionTable

/-- Why a connection table is no use. Lines are counted from one. -/
inductive TableError
  | openFailed (path : String) (failure : IoFailure)
  | readFailed (path : String) (failure : IoFailure)
  | missingColumn (line column : Nat)
  | malformedEndpoint (line : Nat) (field : String)
  | addressWidth (line : Nat) (field : String) (expected : Nat)
  | addressHex (line : Nat) (error : Hex.Error)
  | invalidNumber (line : Nat) (field : String)
deriving DecidableEq

def TableError.message : TableError → String
  | .openFailed path failure => "failed to open " ++ path ++ ": " ++ failure.message
  | .readFailed path failure => "failed to read " ++ path ++ ": " ++ failure.message
  | .missingColumn line column => s!"line {line}: missing column {column}"
  | .malformedEndpoint line field =>
    s!"line {line}: malformed endpoint " ++ Text.quoted field
  | .addressWidth line field expected =>
    s!"line {line}: address " ++ Text.quoted field ++ s!" is not {expected} hex characters"
  | .addressHex line error => s!"line {line}: " ++ error.message
  | .invalidNumber line field => s!"line {line}: invalid number " ++ Text.quoted field

/-- One socket of a table, IPv4 addresses in mapped form. -/
structure Connection where
  localAddress : IPv6
  localPort : UInt16
  remoteAddress : IPv6
  remotePort : UInt16
  uid : UInt32
deriving DecidableEq

namespace Connection

def localColumn : Nat := 1

def remoteColumn : Nat := 2

def uidColumn : Nat := 7

/-- The octets of 32-bit words, the octets of each word turned round. -/
def swapWords : Bytes → Bytes
  | a :: b :: c :: d :: rest => d :: c :: b :: a :: swapWords rest
  | rest => rest

def addressSize : IpVersion → Nat
  | .v4 => 4
  | .v6 => 16

/-- The address with the given octets in network byte order, in mapped form. -/
def addressOf? : IpVersion → Bytes → Option IPv6
  | .v4, octets => (IPv4.ofOctets? octets).map IPv4.mapped
  | .v6, octets => IPv6.ofOctets? octets

variable [HexDecoder]

/-- Reads an address of a table line. -/
def readAddress (version : IpVersion) (line : Nat) (field : String) : Except TableError IPv6 :=
  let digits := 2 * addressSize version
  let wrongWidth := TableError.addressWidth line field digits
  if (Utf8.encode field).length ≠ digits then .error wrongWidth
  else
    match Hex.decodeExact (addressSize version) field with
    | .error e => .error (.addressHex line e)
    | .ok octets =>
      match addressOf? version (swapWords octets) with
      | some address => .ok address
      | none => .error wrongWidth

/-- Reads an address and a port with a colon between them. -/
def readEndpoint (version : IpVersion) (line : Nat) (field : List Char) :
    Except TableError (IPv6 × UInt16) :=
  match Text.cut? ':' field with
  | none => .error (.malformedEndpoint line (String.ofList field))
  | some (address, port) =>
    match Numeral.below? 65536 16 (String.ofList port) with
    | none => .error (.invalidNumber line (String.ofList port))
    | some number =>
      match readAddress version line (String.ofList address) with
      | .error e => .error e
      | .ok address => .ok (address, UInt16.ofNat number)

/-- A column of a line. -/
def column (line : Nat) (columns : List (List Char)) (index : Nat) :
    Except TableError (List Char) :=
  match columns[index]? with
  | some field => .ok field
  | none => .error (.missingColumn line index)

/-- Reads one line of a table for addresses of `version`. -/
def read (version : IpVersion) (line : Nat) (text : String) : Except TableError Connection := do
  let columns := Text.columns text.toList
  let (localAddress, localPort) ← readEndpoint version line (← column line columns localColumn)
  let (remoteAddress, remotePort) ← readEndpoint version line (← column line columns remoteColumn)
  let field := String.ofList (← column line columns uidColumn)
  match Numeral.below? 4294967296 10 field with
  | some uid =>
    return { localAddress, localPort, remoteAddress, remotePort, uid := UInt32.ofNat uid }
  | none => throw (.invalidNumber line field)

end Connection

end TunnelFirewall
