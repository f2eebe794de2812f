/-!
# JSON values

A value keeps the members of an object in the order of the text, repeated names included. Whole
numbers without a sign are kept apart from all other numbers, because only they can be counts.
A string whose escapes name half of a surrogate pair stands for no text; it is kept as such,
since a reader may pass it over.
-/
namespace TunnelFirewall

inductive Json
  | null
  | bool (value : Bool)
  /-- A whole number written without sign, fraction or exponent. -/
  | count (value : Nat)
  /-- Any other number, as it was written. -/
  | number (lexeme : String)
  /-- A string; `none` if it stands for no text. -/
  | string (text : Option String)
  | array (items : List Json)
  /-- Members in order, each with its name. -/
  | object (members : List (Option String × Json))
deriving Inhabited

namespace Json

/-- A string that stands for a text. -/
def text (value : String) : Json := .string (some value)

/-- An object whose names are texts. -/
def ofMembers (members : List (String × Json)) : Json :=
  .object (members.map fun (name, value) => (some name, value))

/-- The values of all members of a name. -/
def valuesOf (name : String) (members : List (Option String × Json)) : List Json :=
  (members.filter fun member => member.1 == some name).map Prod.snd

/-- Every name is a text. -/
def hasTextNames (members : List (Option String × Json)) : Bool :=
  members.all fun member => member.1.isSome

end Json

end TunnelFirewall
