import Mathlib.Data.List.Nodup
import TunnelFirewall.Json.Codec

/-!
# Lawful readers and writers of JSON

A reader and writer is lawful if it reads every value that it has printed, finds the fields of an
object by their names wherever they stand, passes over the members of other names, and reads the
plain forms of numbers, truth values and texts.
-/
namespace TunnelFirewall

/-- A value that has a written form: its numbers are counts of 64 bits or lexemes of other numbers,
its strings are texts, and no object has two members of one name. -/
inductive Json.IsValue [JsonCodec] : Json → Prop
  | null : IsValue .null
  | bool (value : Bool) : IsValue (.bool value)
  | count (value : UInt64) : IsValue (.count value.toNat)
  | number {lexeme : String} (h : JsonCodec.IsNumber lexeme) : IsValue (.number lexeme)
  | text (value : String) : IsValue (.text value)
  | array {items : List Json} (h : ∀ item ∈ items, IsValue item) : IsValue (.array items)
  | object {members : List (Option String × Json)} (hnames : Json.hasTextNames members = true)
      (hnodup : (members.map Prod.fst).Nodup) (h : ∀ member ∈ members, IsValue member.2) :
      IsValue (.object members)

namespace JsonCodec

open Json

/-- What is relied on of a reader and writer. -/
structure Lawful [JsonCodec] : Prop where
  parse_print {value : Json} (layout : Layout) (h : value.IsValue) :
    parse? (print layout value) = some value
  parse_emptyObject : parse? "\x7b\x7d" = some (.object [])
  /-- An object with at most one member of each known name is a record. -/
  record {names : List String} {members : List (Option String × Json)}
      (textNames : hasTextNames members = true)
      (single : ∀ name ∈ names, (valuesOf name members).length ≤ 1) :
    ∃ record, record? names (.object members) = some record ∧ record.isPositional = false ∧
      ∀ name ∈ names, record.field? name = (valuesOf name members).head?
  /-- An object with one tag and at most one content is a choice. -/
  tagged {tagName contentName tag : String} {members : List (Option String × Json)}
      (textNames : hasTextNames members = true) (single : valuesOf tagName members = [.text tag])
      (content : (valuesOf contentName members).length ≤ 1) :
    ∃ tagged, tagged? tagName contentName (.object members) = some tagged ∧ tagged.tag = tag ∧
      tagged.content? = (valuesOf contentName members).head?
  unitName_text (relaxed : Bool) (name : String) : unitName? relaxed (.text name) = some name
  isNothing_null : isNothing .null = true
  isNothing_text (value : String) : isNothing (.text value) = false
  asUInt64_count (value : UInt64) : asUInt64? (.count value.toNat) = some value
  asUInt16_count (value : UInt16) : asUInt16? (.count value.toNat) = some value
  asBool_bool (value : Bool) : asBool? (.bool value) = some value
  asText_text (value : String) : asText? (.text value) = some value

end JsonCodec

namespace Json

theorem hasTextNames_ofMembers (members : List (String × Json)) :
    hasTextNames (members.map fun (name, value) => (some name, value)) = true := by
  simp [hasTextNames]

theorem isValue_ofMembers [JsonCodec] {members : List (String × Json)}
    (hnodup : (members.map Prod.fst).Nodup) (h : ∀ member ∈ members, IsValue member.2) :
    IsValue (.ofMembers members) := by
  apply IsValue.object (hasTextNames_ofMembers members)
  · have hnames : (members.map fun (name, value) => (some name, value)).map Prod.fst =
        (members.map Prod.fst).map some := by
      rw [List.map_map, List.map_map]
      rfl
    rw [hnames]
    exact hnodup.map fun _ _ => Option.some.inj
  · intro member hmember
    obtain ⟨source, hsource, rfl⟩ := List.mem_map.1 hmember
    exact h source hsource

end Json

end TunnelFirewall
