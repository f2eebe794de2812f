import TunnelFirewall.Outer.Json.Printer
import TunnelFirewall.Outer.Json.Token
import TunnelFirewall.Proofs.Text.Numeral

/-!
# Quoted strings are read back

The escapes that the printer uses are among those that the scanner knows: each stands for one
code unit, and none of them closes the string.
-/
namespace TunnelFirewall.PlainJson

/-- A row of characters inside quotes that stands for one code unit. -/
inductive Spells : List Char → Nat → Prop
  | plain {c : Char} (hquote : c ≠ '"') (hslash : c ≠ '\\') (hprint : 0x20 ≤ c.toNat) :
      Spells [c] c.toNat
  | short {c : Char} {unit : Nat}
      (h : (c, unit) ∈ [('"', 0x22), ('\\', 0x5C), ('b', 0x08), ('f', 0x0C), ('n', 0x0A),
        ('r', 0x0D), ('t', 0x09)]) : Spells ['\\', c] unit
  | long {high low : Nat} (hhigh : high < 16) (hlow : low < 16) :
      Spells ['\\', 'u', '0', '0', high.digitChar, low.digitChar] (high * 16 + low)

theorem digitChar_plain {d : Nat} (h : d < 16) : d.digitChar ≠ '"' ∧ d.digitChar ≠ '\\' := by
  match d with
  | 0 | 1 | 2 | 3 | 4 | 5 | 6 | 7 | 8 | 9 | 10 | 11 | 12 | 13 | 14 | 15 => decide
  | d + 16 => omega

theorem spells_hexDigits {n : Nat} (h : n < 0x10) :
    Spells ("\\u000" ++ Text.hexDigits n).toList n := by
  have hrow : ("\\u000" ++ Text.hexDigits n).toList =
      ['\\', 'u', '0', '0', Nat.digitChar 0, n.digitChar] := by
    rw [String.toList_append, Text.hexDigits, Nat.toDigits_of_lt_base h]
    simp only [String.toList_ofList]
    rfl
  have hzero : 0 < 16 := by decide
  have hlong := Spells.long hzero h
  rwa [Nat.zero_mul, Nat.zero_add, ← hrow] at hlong

theorem spells_hexDigits_of_le {n : Nat} (hle : 0x10 ≤ n) (h : n < 0x20) :
    Spells ("\\u00" ++ Text.hexDigits n).toList n := by
  have hrow : ("\\u00" ++ Text.hexDigits n).toList =
      ['\\', 'u', '0', '0', (n / 16).digitChar, (n % 16).digitChar] := by
    rw [String.toList_append, Text.hexDigits, Nat.toDigits_of_base_le (by decide) hle,
      Nat.toDigits_of_lt_base (by omega)]
    simp only [String.toList_ofList]
    rfl
  have hhigh : n / 16 < 16 := by omega
  have hlong := Spells.long hhigh (Nat.mod_lt n (by decide))
  rwa [Nat.div_add_mod', ← hrow] at hlong

theorem spells_escapeChar (c : Char) : Spells (escapeChar c).toList c.toNat := by
  unfold escapeChar
  split; · subst c; exact .short (by decide)
  split; · subst c; exact .short (by decide)
  split; · subst c; exact .short (by decide)
  split; · subst c; exact .short (by decide)
  split; · subst c; exact .short (by decide)
  split; · subst c; exact .short (by decide)
  split; · subst c; exact .short (by decide)
  split
  · rename_i h
    exact spells_hexDigits h
  split
  · rename_i hle h
    exact spells_hexDigits_of_le (Nat.le_of_not_lt hle) h
  · rename_i hquote hslash _ _ _ _ _ _ hprint
    have hrow : c.toString.toList = [c] := String.toList_singleton c
    rw [hrow]
    exact .plain hquote hslash (Nat.le_of_not_lt hprint)

namespace Token

variable {row : List Char} {unit : Nat}

theorem closeQuote?_plain {c : Char} (hquote : c ≠ '"') (hslash : c ≠ '\\')
    (body tail : List Char) : closeQuote? body (c :: tail) = closeQuote? (c :: body) tail := by
  rw [closeQuote?]
  · exact hquote
  · rintro d rest heq -
    exact hslash heq

theorem closeQuote?_spells (h : Spells row unit) (body tail : List Char) :
    closeQuote? body (row ++ tail) = closeQuote? (row.reverse ++ body) tail := by
  cases h with
  | plain hquote hslash hprint => exact closeQuote?_plain hquote hslash body tail
  | short hshort => rfl
  | long hhigh hlow =>
    obtain ⟨hhighQuote, hhighSlash⟩ := digitChar_plain hhigh
    obtain ⟨hlowQuote, hlowSlash⟩ := digitChar_plain hlow
    show closeQuote? ('u' :: '\\' :: body) ('0' :: '0' :: _ :: _ :: tail) = _
    rw [closeQuote?_plain (by decide) (by decide), closeQuote?_plain (by decide) (by decide),
      closeQuote?_plain hhighQuote hhighSlash, closeQuote?_plain hlowQuote hlowSlash]
    rfl

theorem codeUnits?_spells (h : Spells row unit) (tail : List Char) :
    codeUnits? (row ++ tail) = (codeUnits? tail).map (unit :: ·) := by
  cases h with
  | @plain c hquote hslash hprint =>
    have hcontrol : ¬(c.toNat < 0x20 ∨ c = '\\') := by
      rintro (hlt | heq)
      · exact absurd hlt (Nat.not_lt.2 hprint)
      · exact hslash heq
    rw [List.singleton_append, codeUnits?, if_neg hcontrol]
    · intro _ _ _ _ _ heq _
      exact hslash heq
    · intro _ _ heq _
      exact hslash heq
  | short hshort =>
    simp only [List.mem_cons, Prod.mk.injEq, List.not_mem_nil, or_false] at hshort
    rcases hshort with ⟨rfl, rfl⟩ | ⟨rfl, rfl⟩ | ⟨rfl, rfl⟩ | ⟨rfl, rfl⟩ | ⟨rfl, rfl⟩ | ⟨rfl, rfl⟩ |
      ⟨rfl, rfl⟩ <;> simp only [List.cons_append, List.nil_append, codeUnits?] <;>
      cases codeUnits? tail <;> rfl
  | @long high low hhigh hlow =>
    have hdigits : fourDigits? '0' '0' high.digitChar low.digitChar = some (high * 16 + low) := by
      have hzero : Numeral.digit? 16 '0' = some 0 := rfl
      have hhigh' := Numeral.digit?_digitChar hhigh (Nat.le_refl 16)
      have hlow' := Numeral.digit?_digitChar hlow (Nat.le_refl 16)
      simp [fourDigits?, Numeral.digits?, Numeral.digitsFrom?, hzero, hhigh', hlow']
    simp only [List.cons_append, List.nil_append, codeUnits?, hdigits]
    cases codeUnits? tail <;> rfl

/-- The inside of a quoted text. -/
def escaped (text : List Char) : List Char := text.flatMap fun c => (escapeChar c).toList

theorem closeQuote?_escaped (text body tail : List Char) :
    closeQuote? body (escaped text ++ '"' :: tail) =
      some (body.reverse ++ escaped text, tail) := by
  induction text generalizing body with
  | nil => simp [escaped, closeQuote?]
  | cons c text ih =>
    have hsplit : escaped (c :: text) = (escapeChar c).toList ++ escaped text := List.flatMap_cons
    rw [hsplit, List.append_assoc, closeQuote?_spells (spells_escapeChar c), ih]
    simp

theorem codeUnits?_escaped (text : List Char) :
    codeUnits? (escaped text) = some (text.map Char.toNat) := by
  induction text with
  | nil => rfl
  | cons c text ih =>
    have hsplit : escaped (c :: text) = (escapeChar c).toList ++ escaped text := List.flatMap_cons
    rw [hsplit, codeUnits?_spells (spells_escapeChar c), ih]
    rfl

/-- No character is half of a surrogate pair. -/
theorem not_surrogate (c : Char) :
    isHighSurrogate c.toNat = false ∧ isLowSurrogate c.toNat = false := by
  have hvalid := c.valid
  simp only [UInt32.isValidChar, Nat.isValidChar] at hvalid
  have hnat : c.toNat = c.val.toNat := rfl
  constructor
  · simp only [isHighSurrogate, Bool.and_eq_false_iff, decide_eq_false_iff_not]
    omega
  · simp only [isLowSurrogate, Bool.and_eq_false_iff, decide_eq_false_iff_not]
    omega

theorem characters?_toNat (text : List Char) :
    characters? (text.map Char.toNat) = some text := by
  induction text with
  | nil => rfl
  | cons c text ih =>
    obtain ⟨hhigh, hlow⟩ := not_surrogate c
    cases text with
    | nil => simp [characters?, hhigh, hlow, Char.ofNat_toNat]
    | cons d text =>
      rw [List.map_cons] at ih
      simp [characters?, hhigh, hlow, Char.ofNat_toNat, ih]

theorem ofQuoted?_escaped (text : List Char) :
    ofQuoted? (escaped text) = some (.string (some (String.ofList text))) := by
  rw [ofQuoted?, codeUnits?_escaped, Option.map_some, characters?_toNat]
  rfl

theorem toList_quote (text : String) :
    (quote (some text)).toList = '"' :: (escaped text.toList ++ ['"']) := by
  rw [quote, String.toList_append, String.toList_append, String.toList_join, List.flatMap_map]
  rfl

/-- A quoted text is one token. -/
theorem next?_quote (text : String) (tail : List Char) :
    next? '"' (escaped text.toList ++ '"' :: tail) = some (.string (some text), tail) := by
  rw [next?, if_pos rfl, closeQuote?_escaped]
  simp only [List.reverse_nil, List.nil_append, ofQuoted?_escaped, String.ofList_toList,
    Option.map_some]

end Token

end TunnelFirewall.PlainJson
