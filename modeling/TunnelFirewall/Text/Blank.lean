/-!
# Blanks and columns

The characters of the Unicode property White_Space separate the columns of a table line and
surround the text of an input line.
-/
namespace TunnelFirewall.Text

/-- Characters of the property White_Space. -/
def isBlank (c : Char) : Bool :=
  let code := c.toNat
  (9 ≤ code && code ≤ 13) || code == 0x20 || code == 0x85 || code == 0xA0 || code == 0x1680 ||
  (0x2000 ≤ code && code ≤ 0x200A) || code == 0x2028 || code == 0x2029 || code == 0x202F ||
  code == 0x205F || code == 0x3000

/-- A column under construction, kept backwards; an empty one is no column. -/
def closeColumn : List Char → List (List Char)
  | [] => []
  | word => [word.reverse]

/-- The columns of a line of which `word` has been read, backwards. -/
def columnsAfter (word : List Char) : List Char → List (List Char)
  | [] => closeColumn word
  | c :: rest =>
    if isBlank c then closeColumn word ++ columnsAfter [] rest else columnsAfter (c :: word) rest

/-- The longest runs of characters that are not blank. -/
def columns (line : List Char) : List (List Char) := columnsAfter [] line

/-- A text without the blanks at its two ends. -/
def trim (text : List Char) : List Char :=
  ((text.dropWhile isBlank).reverse.dropWhile isBlank).reverse

end TunnelFirewall.Text
