import TunnelFirewall.Text.Utf8

/-!
# Lines of a byte stream

A line ends at a line feed; a carriage return right before the line feed belongs to the
ending. Bytes after the last line feed are one more line. Each line is decoded by itself, so
that one bad line spoils none before it.
-/
namespace TunnelFirewall.Line

/-- A terminated line kept backwards, without its carriage return, the right way round. -/
def close : Bytes → Bytes
  | 0x0D :: line => line.reverse
  | line => line.reverse

/-- The lines of a stream of whose first line `line` has been read, backwards. -/
def splitAfter (line : Bytes) : Bytes → List Bytes
  | [] => if line = [] then [] else [line.reverse]
  | byte :: rest =>
    if byte = 0x0A then close line :: splitAfter [] rest else splitAfter (byte :: line) rest

/-- The lines of a stream, without their endings. -/
def split (bytes : Bytes) : List Bytes := splitAfter [] bytes

/-- The lines of a stream as texts, `none` for a line that is not UTF-8. -/
def texts (bytes : Bytes) : List (Option String) := (split bytes).map Utf8.decode?

end TunnelFirewall.Line
