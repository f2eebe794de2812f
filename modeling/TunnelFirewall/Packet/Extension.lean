import TunnelFirewall.Bytes.Cursor

/-!
# IPv6 extension headers

Between the fixed header of an IPv6 packet and its upper-layer header stands a chain of
extension headers. Each starts with the number of the header behind it and a length byte,
whose unit depends on the kind of header. The walk follows the chain to an upper-layer protocol
and gives up at an opaque or unknown header, at the end of the packet, and when sixteen headers
have led to no such protocol.
-/
namespace TunnelFirewall

/-- An IP protocol number, which is also the number of an IPv6 header. -/
abbrev Protocol := UInt8

namespace Protocol

def icmp : Protocol := 1

def tcp : Protocol := 6

def udp : Protocol := 17

def icmpv6 : Protocol := 58

/-- A transport protocol that the firewall handles. -/
def isUpperLayer (protocol : Protocol) : Bool :=
  protocol == tcp || protocol == udp || protocol == icmp || protocol == icmpv6

end Protocol

inductive Extension
  | hopByHop
  | routing
  | fragment
  | authentication
  | encapsulatingSecurityPayload
  | destinationOptions
  | mobility
deriving DecidableEq

namespace Extension

/-- The kind of extension that a next-header value announces. -/
def ofNextHeader? (next : Protocol) : Option Extension :=
  if next = 0 then some .hopByHop
  else if next = 43 then some .routing
  else if next = 44 then some .fragment
  else if next = 51 then some .authentication
  else if next = 50 then some .encapsulatingSecurityPayload
  else if next = 60 then some .destinationOptions
  else if next = 135 then some .mobility
  else none

/-- The size of a header in bytes, given its length byte. An encrypted payload is opaque and
has no known size. -/
def size? (lengthField : UInt8) : Extension → Option Nat
  | .fragment => some 8
  | .authentication => some ((lengthField.toNat + 2) * 4)
  | .encapsulatingSecurityPayload => none
  | .hopByHop | .routing | .destinationOptions | .mobility => some ((lengthField.toNat + 1) * 8)

/-- The most headers that a walk passes. -/
def maxHeaders : Nat := 16

/-- The size of the fixed IPv6 header. -/
def fixedHeaderSize : Nat := 40

/-- The number of the header behind the extension at the cursor, and the cursor at that
header. -/
def step? (next : Protocol) (here : Cursor) : Option (Protocol × Cursor) :=
  match ofNextHeader? next, here.rest with
  | some extension, following :: lengthField :: _ =>
    match extension.size? lengthField with
    | some size => (here.skip? size).map (following, ·)
    | none => none
  | _, _ => none

/-- Follows a chain for at most `steps` headers to an upper-layer protocol and its offset. The
header at the cursor is of type `next`. -/
def walk? : Nat → Protocol → Cursor → Option (Protocol × Nat)
  | 0, _, _ => none
  | steps + 1, next, here =>
    if next.isUpperLayer then some (next, here.position)
    else
      match step? next here with
      | some (following, behind) => walk? steps following behind
      | none => none

/-- The upper-layer protocol of an IPv6 packet whose fixed header announces `next`, and the
offset of its header. A chain that leads to no such protocol is treated as payload right
behind the fixed header. -/
def resolve (packet : Bytes) (next : Protocol) : Protocol × Nat :=
  if next.isUpperLayer then (next, fixedHeaderSize)
  else
    match (Cursor.ofBytes packet).skip? fixedHeaderSize with
    | none => (next, fixedHeaderSize)
    | some start => (walk? maxHeaders next start).getD (next, fixedHeaderSize)

end Extension

end TunnelFirewall
