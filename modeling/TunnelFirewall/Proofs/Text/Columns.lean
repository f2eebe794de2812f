import TunnelFirewall.Text.Blank

/-!
# Columns behind blanks

A line that is written column by column, with blanks in front of each, is cut into the same columns
again, whichever blanks these are and however many.
-/
namespace TunnelFirewall.Text

/-- A column of a line, and the blanks in front of it. -/
structure Column where
  gap : List Char
  word : List Char

/-- The line of some columns, with blanks behind the last. -/
def lineOf (row : List Column) (after : List Char) : List Char :=
  row.flatMap (fun column => column.gap ++ column.word) ++ after

/-- Blanks only. -/
def IsGap (gap : List Char) : Prop := ∀ c ∈ gap, isBlank c = true

/-- At least one character, and no blank. -/
def IsWord (word : List Char) : Prop := word ≠ [] ∧ ∀ c ∈ word, isBlank c = false

instance (gap : List Char) : Decidable (IsGap gap) :=
  decidable_of_iff (gap.all isBlank = true) (by simp [IsGap])

instance (word : List Char) : Decidable (IsWord word) :=
  decidable_of_iff ((!word.isEmpty && word.all fun c => !isBlank c) = true) (by simp [IsWord])

/-- The columns are words, and there is a gap in front of each and behind the last, which may be
empty at the two ends of the line only. -/
structure IsRow (row : List Column) (after : List Char) : Prop where
  gaps : ∀ column ∈ row, IsGap column.gap
  apart : ∀ column ∈ row.tail, column.gap ≠ []
  words : ∀ column ∈ row, IsWord column.word
  after : IsGap after

variable {word gap after : List Char} {row : List Column} {column : Column}

theorem IsRow.of_cons (h : IsRow (column :: row) after) : IsRow row after where
  gaps other hother := h.gaps other (List.mem_cons_of_mem column hother)
  apart other hother := h.apart other (List.mem_of_mem_tail hother)
  words other hother := h.words other (List.mem_cons_of_mem column hother)
  after := h.after

theorem closeColumn_reverse (hne : word ≠ []) : closeColumn word.reverse = [word] := by
  cases hword : word.reverse with
  | nil => exact absurd (List.reverse_eq_nil_iff.1 hword) hne
  | cons c rest =>
    rw [closeColumn, ← hword, List.reverse_reverse]
    nofun

theorem columnsAfter_word (hword : ∀ c ∈ word, isBlank c = false) (before tail : List Char) :
    columnsAfter before (word ++ tail) = columnsAfter (word.reverse ++ before) tail := by
  induction word generalizing before with
  | nil => rfl
  | cons c word ih =>
    obtain ⟨hc, hrest⟩ := List.forall_mem_cons.1 hword
    rw [List.cons_append, columnsAfter, if_neg (by simp [hc]), ih hrest, List.reverse_cons,
      List.append_assoc]
    rfl

theorem columnsAfter_nil_gap (hgap : IsGap gap) (tail : List Char) :
    columnsAfter [] (gap ++ tail) = columnsAfter [] tail := by
  induction gap with
  | nil => rfl
  | cons c gap ih =>
    obtain ⟨hc, hrest⟩ := List.forall_mem_cons.1 hgap
    rw [List.cons_append, columnsAfter, if_pos hc, ih hrest]
    rfl

/-- The first blank ends a column, and the others add none. -/
theorem columnsAfter_gap (hne : gap ≠ []) (hgap : IsGap gap) (before tail : List Char) :
    columnsAfter before (gap ++ tail) = closeColumn before ++ columnsAfter [] tail := by
  obtain ⟨c, rest, rfl⟩ := List.exists_cons_of_ne_nil hne
  obtain ⟨hc, hrest⟩ := List.forall_mem_cons.1 hgap
  rw [List.cons_append, columnsAfter, if_pos hc, columnsAfter_nil_gap hrest]

theorem columnsAfter_blanks (hafter : IsGap after) (before : List Char) :
    columnsAfter before after = closeColumn before := by
  cases after with
  | nil => rfl
  | cons c after =>
    have hcut := columnsAfter_gap (List.cons_ne_nil c after) hafter before []
    rw [List.append_nil] at hcut
    rw [hcut]
    exact List.append_nil _

/-- Behind a column that ends at its first blank, each further column is cut out by itself. -/
theorem columnsAfter_lineOf (hrow : IsRow (column :: row) after) (before : List Char) :
    columnsAfter before (lineOf row after) = closeColumn before ++ row.map Column.word := by
  induction row generalizing before column with
  | nil =>
    rw [List.map_nil, List.append_nil]
    exact columnsAfter_blanks hrow.after before
  | cons next row ih =>
    have hgap := hrow.gaps next (by simp)
    have happart := hrow.apart next (by simp)
    obtain ⟨hne, hword⟩ := hrow.words next (by simp)
    have hline : lineOf (next :: row) after = next.gap ++ (next.word ++ lineOf row after) := by
      simp [lineOf]
    rw [hline, columnsAfter_gap happart hgap, columnsAfter_word hword, List.append_nil,
      ih hrow.of_cons, closeColumn_reverse hne]
    rfl

/-- The columns of a line are those that it was written with. -/
theorem columns_lineOf (hrow : IsRow row after) :
    columns (lineOf row after) = row.map Column.word := by
  cases row with
  | nil => exact columnsAfter_blanks hrow.after []
  | cons column row =>
    obtain ⟨hne, hword⟩ := hrow.words column List.mem_cons_self
    have hline : lineOf (column :: row) after =
        column.gap ++ (column.word ++ lineOf row after) := by
      simp [lineOf]
    rw [columns, hline, columnsAfter_nil_gap (hrow.gaps column List.mem_cons_self),
      columnsAfter_word hword, List.append_nil, columnsAfter_lineOf hrow, closeColumn_reverse hne]
    rfl

/-- Columns can be written with one space in front of each. -/
theorem isRow_spaced {words : List (List Char)} (h : ∀ word ∈ words, IsWord word) :
    IsRow (words.map fun word => ⟨[' '], word⟩) [] := by
  refine ⟨?_, ?_, ?_, nofun⟩
  · intro column hcolumn c hc
    obtain ⟨word, -, rfl⟩ := List.mem_map.1 hcolumn
    rw [List.mem_singleton.1 hc]
    decide
  · intro column hcolumn
    obtain ⟨word, -, rfl⟩ := List.mem_map.1 (List.mem_of_mem_tail hcolumn)
    exact List.cons_ne_nil ' ' []
  · intro column hcolumn
    obtain ⟨word, hword, rfl⟩ := List.mem_map.1 hcolumn
    exact h word hword

end TunnelFirewall.Text
