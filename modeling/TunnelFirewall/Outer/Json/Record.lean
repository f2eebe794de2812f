import TunnelFirewall.Json.Codec

/-!
# Reading records out of JSON

A record is given as an object, whose known names occur at most once and whose other names are
passed over, or as an array of its fields in their order, which may end early. A choice between
variants is given as an object with a tag and a content, or as an array of the two, whose tag is
a plain name; a variant without content takes none, or `null`.
-/
namespace TunnelFirewall.PlainJson

open Json

/-- A record with the given names. -/
def record? (names : List String) : Json → Option Record
  | .object members =>
    if hasTextNames members && names.all fun name => (valuesOf name members).length ≤ 1 then
      some ⟨false, fun name => (valuesOf name members).head?⟩
    else none
  | .array items =>
    if items.length ≤ names.length then some ⟨true, fun name => items[names.idxOf name]?⟩ else none
  | _ => none

/-- A whole number of 64 bits. -/
def asUInt64? : Json → Option UInt64
  | .count value => if value < UInt64.size then some (UInt64.ofNat value) else none
  | _ => none

/-- A whole number of 16 bits. -/
def asUInt16? : Json → Option UInt16
  | .count value => if value < UInt16.size then some (UInt16.ofNat value) else none
  | _ => none

def asBool? : Json → Option Bool
  | .bool value => some value
  | _ => none

/-- A text. -/
def asText? : Json → Option String
  | .string text => text
  | _ => none

/-- Nothing: `null`, or, when `relaxed`, an empty object as well. -/
def isNothing (relaxed : Bool) : Json → Bool
  | .null => true
  | .object [] => relaxed
  | _ => false

/-- The name of a variant without content: the name itself, or an object that gives the name
nothing. -/
def variantName? (relaxed : Bool) : Json → Option String
  | .string name => name
  | .object [(name, value)] => if isNothing relaxed value then name else none
  | _ => none

/-- The tag and the content of a choice between variants. -/
def tagged? (tagName contentName : String) : Json → Option Tagged
  | .object members =>
    if hasTextNames members && (valuesOf contentName members).length ≤ 1 then
      match valuesOf tagName members with
      | [tag] =>
        let order := members.filterMap Prod.fst
        (variantName? false tag).map fun tag =>
          ⟨tag, (valuesOf contentName members).head?,
            order.idxOf contentName < order.idxOf tagName⟩
      | _ => none
    else none
  | .array [.string (some tag), content] => some ⟨tag, some content, false⟩
  | _ => none

end TunnelFirewall.PlainJson
