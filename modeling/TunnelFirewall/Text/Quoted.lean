import TunnelFirewall.Text.Printable

/-!
# Quoted text

How a message shows a text that came from outside: between quote marks, with the line and tab
characters, the backslash and the null character written as short escapes, and every other
character that is not printable written as its code point in lower-case hexadecimal. Which
quote marks need an escape depends on what is quoted.
-/
namespace TunnelFirewall.Text

/-- The digits of a number in lower-case hexadecimal. -/
def hexDigits (n : Nat) : String := String.ofList (Nat.toDigits 16 n)

/-- One character inside quotes, where `marks` are the quote marks that need an escape. -/
def escapeChar (marks : List Char) (c : Char) : String :=
  if c = '\\' then "\\\\"
  else if c = '\n' then "\\n"
  else if c = '\r' then "\\r"
  else if c = '\t' then "\\t"
  else if c = '\x00' then "\\0"
  else if c ∈ marks then String.ofList ['\\', c]
  else if isPrintable c then c.toString
  else "\\u\x7b" ++ hexDigits c.toNat ++ "\x7d"

/-- The characters of a text inside quotes. -/
def escape (marks : List Char) (text : String) : String :=
  String.join (text.toList.map (escapeChar marks))

/-- A text, or a file path, between double quotes; single quotes in it stay as they are. -/
def quoted (text : String) : String :=
  "\"" ++ escape ['"'] text ++ "\""

/-- A character between single quotes; a double quote stays as it is. -/
def quotedChar (c : Char) : String :=
  "'" ++ escapeChar ['\''] c ++ "'"

end TunnelFirewall.Text
