import TunnelFirewall.Outer.Json
import TunnelFirewall.Proofs.Json.Codec
import TunnelFirewall.Proofs.Outer.Json.Printer

/-!
# The reader and writer of JSON is lawful

What is printed is read back, and records and choices are found in objects by the names of their
members.
-/
namespace TunnelFirewall.PlainJson

open Json

theorem isWritable_of_isValue {value : Json} (h : @IsValue codec value) :
    IsWritable value := by
  induction h with
  | null => exact .null
  | bool value => exact .bool value
  | count value => exact .count value.toNat
  | number h => exact .number h.1 h.2
  | text value => exact .text value
  | array _ ih => exact .array ih
  | object hnames _ _ ih => exact .object (List.all_eq_true.1 hnames) ih

theorem parse?_emptyObject : parse? "\x7b\x7d" = some (.object []) := by
  have htokens : Token.split? "\x7b\x7d".toList = some [.openObject, .closeObject] := by
    decide +kernel
  rw [parse?, htokens]
  rfl

theorem record?_object {names : List String} {members : List (Option String × Json)}
    (textNames : hasTextNames members = true)
    (single : ∀ name ∈ names, (valuesOf name members).length ≤ 1) :
    record? names (.object members) =
      some ⟨false, fun name => (valuesOf name members).head?⟩ := by
  have hsingle : (names.all fun name => (valuesOf name members).length ≤ 1) = true := by
    simpa only [List.all_eq_true, decide_eq_true_eq] using single
  rw [record?, if_pos (by rw [textNames, hsingle]; rfl)]

theorem tagged?_object {tagName contentName tag : String} {members : List (Option String × Json)}
    (textNames : hasTextNames members = true) (single : valuesOf tagName members = [.text tag])
    (content : (valuesOf contentName members).length ≤ 1) :
    tagged? tagName contentName (.object members) =
      some ⟨tag, (valuesOf contentName members).head?,
        (members.filterMap Prod.fst).idxOf contentName <
          (members.filterMap Prod.fst).idxOf tagName⟩ := by
  have hcontent : decide ((valuesOf contentName members).length ≤ 1) = true :=
    decide_eq_true content
  rw [tagged?, if_pos (by rw [textNames, hcontent]; rfl), single]
  rfl

theorem codec_lawful : @JsonCodec.Lawful codec where
  parse_print layout h := parse?_write (isWritable_of_isValue h) layout 0
  parse_emptyObject := parse?_emptyObject
  record textNames single := ⟨_, record?_object textNames single, rfl, fun _ _ => rfl⟩
  tagged textNames single content := ⟨_, tagged?_object textNames single content, rfl, rfl⟩
  unitName_text _ _ := rfl
  isNothing_null := rfl
  isNothing_text _ := rfl
  asUInt64_count value := by
    show asUInt64? (.count value.toNat) = some value
    rw [asUInt64?, if_pos value.toNat_lt, UInt64.ofNat_toNat]
  asUInt16_count value := by
    show asUInt16? (.count value.toNat) = some value
    rw [asUInt16?, if_pos value.toNat_lt, UInt16.ofNat_toNat]
  asBool_bool _ := rfl
  asText_text _ := rfl

end TunnelFirewall.PlainJson
