import TunnelFirewall.Bytes.Split

/-!
# Read cursors

A cursor is a byte string with a position in it. An operation says what it has read, if anything,
and where the cursor stands afterwards, also when it has failed.
-/
namespace TunnelFirewall

/-- A position in a byte string. -/
structure Cursor where
  data : Bytes
  position : Nat
deriving DecidableEq

namespace Cursor

/-- The cursor before the first byte of `data`. -/
def ofBytes (data : Bytes) : Cursor := ⟨data, 0⟩

def remaining (c : Cursor) : Nat := c.data.length - c.position

def isEmpty (c : Cursor) : Bool := c.remaining == 0

def rest (c : Cursor) : Bytes := c.data.drop c.position

/-- The next byte, left unread. -/
def peek? (c : Cursor) : Option UInt8 := c.data[c.position]?

/-- The cursor `n` bytes further on. -/
def advance (n : Nat) (c : Cursor) : Cursor := { c with position := c.position + n }

/-- Reads the next byte. -/
def readByte (c : Cursor) : Option UInt8 × Cursor :=
  match c.peek? with
  | none => (none, c)
  | some byte => (some byte, c.advance 1)

/-- Takes the next `n` bytes. -/
def take (n : Nat) (c : Cursor) : Option Bytes × Cursor :=
  if c.remaining < n then (none, c) else (some (c.rest.take n), c.advance n)

/-- Reads the next `width` bytes as a number, most significant byte first. -/
def readNumber (width : Nat) (c : Cursor) : Option Nat × Cursor :=
  let (bytes, c) := c.take width
  (bytes.map Bytes.bigEndian, c)

def skip (n : Nat) (c : Cursor) : Option Unit × Cursor :=
  let (bytes, c) := c.take n
  (bytes.map fun _ => (), c)

/-- Takes the next `n` bytes as a cursor over them alone. Reads inside it cannot pass the block,
however much follows it. -/
def sub (n : Nat) (c : Cursor) : Option Cursor × Cursor :=
  let (bytes, c) := c.take n
  (bytes.map ofBytes, c)

/-- The cursor `n` bytes further on, for a caller that gives up when there are fewer. -/
def skip? (n : Nat) (c : Cursor) : Option Cursor :=
  match c.skip n with
  | (some (), next) => some next
  | (none, _) => none

end Cursor

end TunnelFirewall
