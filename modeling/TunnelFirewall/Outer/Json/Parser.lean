import TunnelFirewall.Json.Basic
import TunnelFirewall.Outer.Json.Token

/-!
# Reading JSON

A value is put together token by token. What is open around the current place is a stack of
arrays and objects, so the depth of a value is limited by nothing but its text. A text is one
value with nothing behind it.
-/
namespace TunnelFirewall.PlainJson

open Json

/-- An array or object that is still open. Items and members are kept backwards. -/
inductive Frame
  | array (items : List Json)
  /-- An object, and the name of the member whose value is being read. -/
  | object (members : List (Option String × Json)) (name : Option String)

/-- What may come next. -/
inductive Expecting
  /-- A value. -/
  | value
  /-- The first item of an array, or its end. -/
  | firstItem
  /-- The first name of an object, or its end. -/
  | firstName
  /-- A further name of an object. -/
  | name (members : List (Option String × Json))
  /-- The colon behind a name. -/
  | colon (members : List (Option String × Json)) (name : Option String)
  /-- What may follow a value that is complete. -/
  | behind (value : Json)

/-- Where a reader stands. -/
structure Reader where
  expecting : Expecting := .value
  frames : List Frame := []

namespace Reader

/-- Takes the first token of a value. -/
def begin (frames : List Frame) : Token → Option Reader
  | .null => some ⟨.behind .null, frames⟩
  | .bool value => some ⟨.behind (.bool value), frames⟩
  | .count value => some ⟨.behind (.count value), frames⟩
  | .number lexeme => some ⟨.behind (.number lexeme), frames⟩
  | .string text => some ⟨.behind (.string text), frames⟩
  | .openArray => some ⟨.firstItem, frames⟩
  | .openObject => some ⟨.firstName, frames⟩
  | _ => none

/-- Takes a token behind a complete value. -/
def finish (value : Json) (token : Token) : List Frame → Option Reader
  | .array items :: frames =>
    match token with
    | .comma => some ⟨.value, .array (value :: items) :: frames⟩
    | .closeArray => some ⟨.behind (.array (value :: items).reverse), frames⟩
    | _ => none
  | .object members name :: frames =>
    match token with
    | .comma => some ⟨.name ((name, value) :: members), frames⟩
    | .closeObject => some ⟨.behind (.object ((name, value) :: members).reverse), frames⟩
    | _ => none
  | [] => none

def step (reader : Reader) (token : Token) : Option Reader :=
  match reader.expecting, token with
  | .value, token => begin reader.frames token
  | .firstItem, .closeArray => some ⟨.behind (.array []), reader.frames⟩
  | .firstItem, token => begin (.array [] :: reader.frames) token
  | .firstName, .closeObject => some ⟨.behind (.object []), reader.frames⟩
  | .firstName, .string name => some ⟨.colon [] name, reader.frames⟩
  | .name members, .string name => some ⟨.colon members name, reader.frames⟩
  | .colon members name, .colon => some ⟨.value, .object members name :: reader.frames⟩
  | .behind value, token => finish value token reader.frames
  | _, _ => none

/-- The value that has been read, if it is complete and nothing is open around it. -/
def result? (reader : Reader) : Option Json :=
  match reader.expecting, reader.frames with
  | .behind value, [] => some value
  | _, _ => none

end Reader

/-- The value that a text writes. -/
def parse? (text : String) : Option Json :=
  match Token.split? text.toList with
  | some tokens => (tokens.foldlM Reader.step {}).bind Reader.result?
  | none => none

end TunnelFirewall.PlainJson
