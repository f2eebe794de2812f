import TunnelFirewall.Text.Fields

/-!
# Joined fields are cut apart again

Fields without the separator come back from the text that joins them, and the fields of a text,
joined, are the text, so its last fields belong to what it ends in behind a separator. A pair of
separators behind joined fields is the first pair, if no field is empty.
-/
namespace TunnelFirewall.Text

variable {separator : Char} {row : List (List Char)}

theorem cut?_append {field : List Char} (h : separator ∉ field) (tail : List Char) :
    cut? separator (field ++ separator :: tail) = some (field, tail) := by
  induction field with
  | nil => rw [List.nil_append, cut?, if_pos rfl]
  | cons c field ih =>
    rw [List.mem_cons, not_or] at h
    rw [List.cons_append, cut?, if_neg (Ne.symm h.1), ih h.2, Option.map_some]

theorem fieldsAfter_append {field : List Char} (h : separator ∉ field) (before tail : List Char) :
    fieldsAfter separator before (field ++ tail) =
      fieldsAfter separator (field.reverse ++ before) tail := by
  induction field generalizing before with
  | nil => rfl
  | cons c field ih =>
    rw [List.mem_cons, not_or] at h
    rw [List.cons_append, fieldsAfter, if_neg (Ne.symm h.1), ih h.2, List.reverse_cons,
      List.append_assoc]
    rfl

theorem fields_of_not_mem {field : List Char} (h : separator ∉ field) :
    fields separator field = [field] := by
  have hread := fieldsAfter_append h [] []
  rw [List.append_nil, List.append_nil] at hread
  rw [fields, hread, fieldsAfter, List.reverse_reverse]

theorem fieldsAfter_ne_nil (before text : List Char) : fieldsAfter separator before text ≠ [] := by
  induction text generalizing before with
  | nil => exact List.cons_ne_nil _ _
  | cons c text ih =>
    rw [fieldsAfter]
    split
    · exact List.cons_ne_nil _ _
    · exact ih (c :: before)

theorem joinFields_cons_of_ne_nil (field : List Char) (h : row ≠ []) :
    joinFields separator (field :: row) = field ++ separator :: joinFields separator row := by
  cases row with
  | nil => exact absurd rfl h
  | cons next row =>
    rw [joinFields]
    nofun

theorem joinFields_append {tail : List (List Char)} (hrow : row ≠ []) (htail : tail ≠ []) :
    joinFields separator (row ++ tail) =
      joinFields separator row ++ separator :: joinFields separator tail := by
  induction row with
  | nil => exact absurd rfl hrow
  | cons field row ih =>
    cases row with
    | nil => exact joinFields_cons_of_ne_nil field htail
    | cons next row =>
      have hne : next :: row ≠ [] := List.cons_ne_nil _ _
      have happend : next :: row ++ tail ≠ [] := List.append_ne_nil_of_left_ne_nil hne _
      rw [List.cons_append, joinFields_cons_of_ne_nil field happend, ih hne,
        joinFields_cons_of_ne_nil field hne, List.append_assoc, List.cons_append]

theorem joinFields_fieldsAfter (before text : List Char) :
    joinFields separator (fieldsAfter separator before text) = before.reverse ++ text := by
  induction text generalizing before with
  | nil => rw [fieldsAfter, joinFields, List.append_nil]
  | cons c text ih =>
    rw [fieldsAfter]
    split
    · rename_i hc
      rw [joinFields_cons_of_ne_nil _ (fieldsAfter_ne_nil [] text), ih, hc]
      rfl
    · rw [ih, List.reverse_cons, List.append_assoc]
      rfl

theorem fields_ne_nil (text : List Char) : fields separator text ≠ [] := fieldsAfter_ne_nil [] text

/-- The fields of a text, joined, are the text. -/
theorem joinFields_fields (text : List Char) :
    joinFields separator (fields separator text) = text := joinFields_fieldsAfter [] text

theorem fieldsAfter_separator (before front back : List Char) :
    fieldsAfter separator before (front ++ separator :: back) =
      fieldsAfter separator before front ++ fields separator back := by
  induction front generalizing before with
  | nil =>
    rw [List.nil_append, fieldsAfter, fieldsAfter, if_pos rfl]
    rfl
  | cons c front ih =>
    rw [List.cons_append, fieldsAfter, fieldsAfter]
    split
    · rw [ih, List.cons_append]
    · exact ih (c :: before)

/-- A separator ends a field, whatever stands before and behind it. -/
theorem fields_append_separator (front back : List Char) :
    fields separator (front ++ separator :: back) =
      fields separator front ++ fields separator back := fieldsAfter_separator [] front back

theorem fields_joinFields (hne : row ≠ []) (h : ∀ field ∈ row, separator ∉ field) :
    fields separator (joinFields separator row) = row := by
  induction row with
  | nil => exact absurd rfl hne
  | cons field row ih =>
    have hfield : separator ∉ field := h field List.mem_cons_self
    cases row with
    | nil => rw [joinFields, fields_of_not_mem hfield]
    | cons next row =>
      have hrest := ih (List.cons_ne_nil _ _) fun other hother =>
        h other (List.mem_cons_of_mem _ hother)
      rw [joinFields_cons_of_ne_nil field (List.cons_ne_nil _ _), fields_append_separator,
        fields_of_not_mem hfield, hrest]
      rfl

/-- The last fields of a text are those of what it is itself or ends in behind a separator. -/
theorem fields_isSuffix_iff {text tail : List Char} :
    fields separator tail <:+ fields separator text ↔
      text = tail ∨ separator :: tail <:+ text := by
  constructor
  · rintro ⟨row, hrow⟩
    have hjoin := congrArg (joinFields separator) hrow
    rw [joinFields_fields] at hjoin
    cases row with
    | nil =>
      rw [List.nil_append, joinFields_fields] at hjoin
      exact .inl hjoin.symm
    | cons field row =>
      rw [joinFields_append (List.cons_ne_nil _ _) (fields_ne_nil tail), joinFields_fields] at hjoin
      exact .inr ⟨_, hjoin⟩
  · rintro (rfl | ⟨front, rfl⟩)
    · exact List.suffix_rfl
    · rw [fields_append_separator]
      exact List.suffix_append _ _

/-- Every character that does not separate stands in one of the fields. -/
theorem exists_fieldsAfter_of_mem {c : Char} (hc : c ≠ separator) {text before : List Char}
    (h : c ∈ before ++ text) : ∃ field ∈ fieldsAfter separator before text, c ∈ field := by
  induction text generalizing before with
  | nil =>
    rw [List.append_nil] at h
    exact ⟨before.reverse, List.mem_singleton_self _, List.mem_reverse.2 h⟩
  | cons d text ih =>
    rw [fieldsAfter]
    split
    · rename_i hd
      subst hd
      rcases List.mem_append.1 h with hbefore | htext
      · exact ⟨before.reverse, List.mem_cons_self, List.mem_reverse.2 hbefore⟩
      · rcases List.mem_cons.1 htext with heq | htext
        · exact absurd heq hc
        · obtain ⟨field, hfield, hmem⟩ := ih (List.mem_append_right [] htext)
          exact ⟨field, List.mem_cons_of_mem _ hfield, hmem⟩
    · apply ih
      simpa [or_left_comm] using h

theorem exists_field_of_mem {c : Char} (hc : c ≠ separator) {text : List Char} (h : c ∈ text) :
    ∃ field ∈ fields separator text, c ∈ field := exists_fieldsAfter_of_mem hc h

theorem mem_joinFields_cons_cons (field next : List Char) (row : List (List Char)) :
    separator ∈ joinFields separator (field :: next :: row) := by
  rw [joinFields_cons_of_ne_nil field (List.cons_ne_nil _ _)]
  exact List.mem_append_right _ List.mem_cons_self

theorem cutDouble?_cons_of_ne {c : Char} (h : c ≠ separator) (tail : List Char) :
    cutDouble? separator (c :: tail) =
      (cutDouble? separator tail).map fun (front, back) => (c :: front, back) := by
  cases tail with
  | nil => rfl
  | cons d tail => rw [cutDouble?, if_neg fun hpair => h hpair.1]

theorem cutDouble?_append {field : List Char} (h : separator ∉ field) (tail : List Char) :
    cutDouble? separator (field ++ tail) =
      (cutDouble? separator tail).map fun (front, back) => (field ++ front, back) := by
  induction field with
  | nil => simp
  | cons c field ih =>
    rw [List.mem_cons, not_or] at h
    rw [List.cons_append, cutDouble?_cons_of_ne (Ne.symm h.1), ih h.2, Option.map_map]
    rfl

/-- A text of joined fields does not begin with the separator, if its first field is not empty. -/
theorem exists_joinFields_eq_cons {field : List Char} (hne : field ≠ []) (h : separator ∉ field)
    (row : List (List Char)) :
    ∃ c text, joinFields separator (field :: row) = c :: text ∧ c ≠ separator := by
  obtain ⟨c, text, rfl⟩ := List.exists_cons_of_ne_nil hne
  have hc : c ≠ separator := fun heq => h (heq ▸ List.mem_cons_self)
  cases row with
  | nil => exact ⟨c, text, rfl, hc⟩
  | cons => exact ⟨c, _, rfl, hc⟩

/-- In the text of joined fields, of which none is empty, there is no pair of separators. -/
theorem cutDouble?_joinFields_append (h : ∀ field ∈ row, field ≠ [] ∧ separator ∉ field)
    (tail : List Char) :
    cutDouble? separator (joinFields separator row ++ tail) =
      (cutDouble? separator tail).map fun (front, back) =>
        (joinFields separator row ++ front, back) := by
  induction row with
  | nil => simp [joinFields]
  | cons field row ih =>
    have hfield := (h field List.mem_cons_self).2
    cases row with
    | nil => exact cutDouble?_append hfield tail
    | cons next row =>
      have hrest := ih fun other hother => h other (List.mem_cons_of_mem _ hother)
      have hnext := h next (List.mem_cons_of_mem _ List.mem_cons_self)
      -- the separator between two fields is followed by the first character of the second one
      obtain ⟨c, text, htext, hc⟩ := exists_joinFields_eq_cons hnext.1 hnext.2 row
      have hseparator :
          cutDouble? separator (separator :: (joinFields separator (next :: row) ++ tail)) =
          (cutDouble? separator tail).map fun (front, back) =>
            (separator :: (joinFields separator (next :: row) ++ front), back) := by
        rw [htext] at hrest ⊢
        rw [List.cons_append, cutDouble?, if_neg fun hpair => hc hpair.2, ← List.cons_append, hrest,
          Option.map_map]
        rfl
      rw [joinFields_cons_of_ne_nil field (List.cons_ne_nil _ _), List.append_assoc,
        cutDouble?_append hfield, List.cons_append, hseparator, Option.map_map]
      simp [Function.comp_def]

end TunnelFirewall.Text
