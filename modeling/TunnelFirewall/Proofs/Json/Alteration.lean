import TunnelFirewall.Proofs.Json.Codec

/-!
# Records that are not as they were written

Before a written record is read again, members may be left out of it, members of other names put
in, and all of them moved about. The reader gets every member that is still there.
-/
namespace TunnelFirewall.Json

variable {members : List (Option String × Json)} {fields : List (String × Json)} {name : String}

/-- The second object has what is not gone of the first, in any order, and beside it only members
whose names the first one does not have. -/
def Alters (gone : String → Bool) : Json → Json → Prop
  | .object members, .object altered =>
    hasTextNames altered = true ∧
      (altered.filter fun member => (members.map Prod.fst).contains member.1).Perm
        (members.filter fun member => !member.1.any gone)
  | _, _ => False

theorem alters_append (gone : String → Bool) (unknown : List (Option String × Json))
    (hmembers : hasTextNames members = true) (hunknown : hasTextNames unknown = true)
    (hnew : ∀ member ∈ unknown, (members.map Prod.fst).contains member.1 = false) :
    Alters gone (.object members)
      (.object (members.filter (fun member => !member.1.any gone) ++ unknown)) := by
  refine ⟨?_, ?_⟩
  · simp only [hasTextNames, List.all_append, Bool.and_eq_true, List.all_eq_true] at *
    exact ⟨fun member hmember => hmembers member (List.mem_filter.1 hmember).1, hunknown⟩
  · have hkept : ∀ member ∈ members.filter (fun member => !member.1.any gone),
        (members.map Prod.fst).contains member.1 = true := by
      intro member hmember
      rw [List.contains_iff_mem]
      exact List.mem_map_of_mem (List.mem_filter.1 hmember).1
    have hnone : unknown.filter (fun member => (members.map Prod.fst).contains member.1) = [] := by
      rw [List.filter_eq_nil_iff]
      intro member hmember
      rw [hnew member hmember]
      exact Bool.false_ne_true
    rw [List.filter_append, List.filter_eq_self.2 hkept, hnone, List.append_nil]

theorem alters_self (fields : List (String × Json)) :
    Alters (fun _ => false) (.ofMembers fields) (.ofMembers fields) := by
  have halters := alters_append (fun _ => false) [] (hasTextNames_ofMembers fields) rfl nofun
  rwa [List.filter_eq_self.2 fun member _ => by simp, List.append_nil] at halters

theorem valuesOf_filter {p : Option String × Json → Bool}
    (h : ∀ value, p (some name, value) = true) :
    valuesOf name (members.filter p) = valuesOf name members := by
  have hsame : ∀ member ∈ members,
      (member.1 == some name && p member) = (member.1 == some name) := by
    rintro ⟨other, value⟩ -
    by_cases hname : other = some name
    · subst hname
      simp [h]
    · simp [hname]
  rw [valuesOf, List.filter_filter, List.filter_congr hsame, valuesOf]

theorem valuesOf_filter_eq_nil {p : Option String × Json → Bool}
    (h : ∀ value, p (some name, value) = false) : valuesOf name (members.filter p) = [] := by
  rw [valuesOf, List.filter_filter, List.filter_eq_nil_iff.2, List.map_nil]
  rintro ⟨other, value⟩ -
  by_cases hname : other = some name
  · subst hname
    simp [h]
  · simp [hname]

/-- Under each name of a written record stands the value of that field and nothing else. -/
theorem valuesOf_fields (hnodup : (fields.map Prod.fst).Nodup) {value : Json}
    (hmem : (name, value) ∈ fields) :
    valuesOf name (fields.map fun field => (some field.1, field.2)) = [value] := by
  induction fields with
  | nil => cases hmem
  | cons field fields ih =>
    rw [List.map_cons, List.nodup_cons] at hnodup
    rcases List.mem_cons.1 hmem with rfl | hmem
    · have hrest : valuesOf name (fields.map fun field => (some field.1, field.2)) = [] := by
        rw [valuesOf, List.filter_eq_nil_iff.2, List.map_nil]
        simp only [List.mem_map]
        rintro _ ⟨field, hfield, rfl⟩ hname
        simp only [beq_iff_eq, Option.some.injEq] at hname
        exact hnodup.1 (hname ▸ List.mem_map.2 ⟨field, hfield, rfl⟩)
      rw [List.map_cons, valuesOf, List.filter_cons_of_pos (by simp), List.map_cons]
      exact congrArg (value :: ·) hrest
    · have hother : field.1 ≠ name := by
        rintro rfl
        exact hnodup.1 (List.mem_map.2 ⟨_, hmem, rfl⟩)
      rw [List.map_cons, valuesOf, List.filter_cons_of_neg (by simpa using hother)]
      exact ih hnodup.2 hmem

theorem valuesOf_of_alters (hnodup : (fields.map Prod.fst).Nodup) {gone : String → Bool}
    {altered : List (Option String × Json)} (h : Alters gone (.ofMembers fields) (.object altered))
    {value : Json} (hmem : (name, value) ∈ fields) :
    valuesOf name altered = if gone name then [] else [value] := by
  have hknown : ((fields.map fun field => (some field.1, field.2)).map Prod.fst).contains
      (some name) = true := by
    rw [List.contains_iff_mem]
    exact List.mem_map.2 ⟨_, List.mem_map.2 ⟨_, hmem, rfl⟩, rfl⟩
  have hvalues := (h.2.filter fun member => member.1 == some name).map Prod.snd
  change (valuesOf name _).Perm (valuesOf name _) at hvalues
  rw [valuesOf_filter fun _ => hknown] at hvalues
  split
  · rename_i hgone
    rw [valuesOf_filter_eq_nil (by simp [hgone])] at hvalues
    exact hvalues.eq_nil
  · rename_i hkept
    rw [valuesOf_filter (by simp [hkept]), valuesOf_fields hnodup hmem] at hvalues
    exact List.perm_singleton.1 hvalues

/-- What is left of a written record is read, each field under its name. -/
theorem record?_of_alters [JsonCodec] (hcodec : JsonCodec.Lawful)
    (hnodup : (fields.map Prod.fst).Nodup) {gone : String → Bool} {json : Json}
    (h : Alters gone (.ofMembers fields) json) :
    ∃ record, JsonCodec.record? (fields.map Prod.fst) json = some record ∧
      record.isPositional = false ∧
      ∀ field ∈ fields,
        record.field? field.1 = if gone field.1 then none else some field.2 := by
  cases json with
  | object altered =>
    have hsingle : ∀ name ∈ fields.map Prod.fst, (valuesOf name altered).length ≤ 1 := by
      intro name hname
      obtain ⟨⟨_, value⟩, hmem, rfl⟩ := List.mem_map.1 hname
      rw [valuesOf_of_alters hnodup h hmem]
      split
      · exact Nat.zero_le 1
      · exact Nat.le_refl 1
    obtain ⟨record, hrecord, hgiven, hfields⟩ := hcodec.record h.1 hsingle
    refine ⟨record, hrecord, hgiven, ?_⟩
    rintro ⟨name, value⟩ hmem
    rw [hfields name (List.mem_map_of_mem hmem), valuesOf_of_alters hnodup h hmem]
    split <;> rfl
  | _ => exact h.elim

namespace Record

variable {α : Type} {record : Record} {decode? : Json → Option α} {written : Json} {value : α}

/-- A field that is not gone is read, and one that is gone takes the default. -/
theorem getD?_of_field {gone : Bool}
    (hfield : record.field? name = if gone then none else some written)
    (hdecode : decode? written = some value) (default : α) :
    record.getD? decode? name default = some (if gone then default else value) := by
  cases gone with
  | true => rw [getD?, hfield, if_pos rfl, if_pos rfl]
  | false =>
    rw [getD?, hfield, if_neg Bool.false_ne_true, if_neg Bool.false_ne_true]
    exact hdecode

end Record

end TunnelFirewall.Json
