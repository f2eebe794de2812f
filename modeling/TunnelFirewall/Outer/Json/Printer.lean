import TunnelFirewall.Json.Codec
import TunnelFirewall.Text.Quoted

/-!
# Writing JSON

On one line there are no blanks. The indented form has two spaces for each level, one item or member
a line, a space behind each colon, and no line feed at the end. Strings escape quotes, backslashes
and control characters and nothing else.
-/
namespace TunnelFirewall.PlainJson

open Json

/-- One character of a string. -/
def escapeChar (c : Char) : String :=
  if c = '"' then "\\\""
  else if c = '\\' then "\\\\"
  else if c = '\x08' then "\\b"
  else if c = '\x0c' then "\\f"
  else if c = '\n' then "\\n"
  else if c = '\r' then "\\r"
  else if c = '\t' then "\\t"
  else if c.toNat < 0x10 then "\\u000" ++ Text.hexDigits c.toNat
  else if c.toNat < 0x20 then "\\u00" ++ Text.hexDigits c.toNat
  else c.toString

/-- A string in quotes. One that stands for no text is written as the replacement character. -/
def quote (text : Option String) : String :=
  "\"" ++ String.join ((text.getD "\ufffd").toList.map escapeChar) ++ "\""

/-- What stands in front of an item or member at a level, and of the end of the level above. -/
def indent (level : Nat) : Layout → String
  | .compact => ""
  | .indented => String.ofList ('\n' :: List.replicate (2 * level) ' ')

/-- What stands between a name and its value. -/
def colon : Layout → String
  | .compact => ":"
  | .indented => ": "

mutual

/-- A value at a level of indentation. -/
def write (layout : Layout) (level : Nat) : Json → String
  | .null => "null"
  | .bool true => "true"
  | .bool false => "false"
  | .count value => toString value
  | .number lexeme => lexeme
  | .string text => quote text
  | .array [] => "[]"
  | .array items => "[" ++ writeItems layout (level + 1) items ++ indent level layout ++ "]"
  | .object [] => "\x7b\x7d"
  | .object members =>
    "\x7b" ++ writeMembers layout (level + 1) members ++ indent level layout ++ "\x7d"

/-- The items of an array. -/
def writeItems (layout : Layout) (level : Nat) : List Json → String
  | [] => ""
  | [item] => indent level layout ++ write layout level item
  | item :: rest =>
    indent level layout ++ write layout level item ++ "," ++ writeItems layout level rest

/-- The members of an object. -/
def writeMembers (layout : Layout) (level : Nat) : List (Option String × Json) → String
  | [] => ""
  | [(name, value)] => indent level layout ++ quote name ++ colon layout ++ write layout level value
  | (name, value) :: rest =>
    indent level layout ++ quote name ++ colon layout ++ write layout level value ++ "," ++
      writeMembers layout level rest

end

end TunnelFirewall.PlainJson
