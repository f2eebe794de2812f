import TunnelFirewall.Text.Numeral

/-!
# Written numbers are read back

A number written with the digits of a radix up to sixteen is read as the same number, whatever the
case of its letters and however many zeros stand in front of it.
-/
namespace TunnelFirewall.Numeral

variable {radix : Nat}

theorem digit?_digitChar {d : Nat} (hlt : d < radix) (hradix : radix ≤ 16) :
    digit? radix d.digitChar = some d := by
  have hdigit : digit? radix d.digitChar = (some d).filter (· < radix) := by
    match d with
    | 0 | 1 | 2 | 3 | 4 | 5 | 6 | 7 | 8 | 9 | 10 | 11 | 12 | 13 | 14 | 15 => rfl
    | d + 16 => omega
  rw [hdigit, Option.filter_some, if_pos (by simpa using hlt)]

theorem exists_digit_of_digitsFrom? {value n : Nat} {c : Char} {row : List Char}
    (h : digitsFrom? radix value (c :: row) = some n) :
    ∃ d, digit? radix c = some d ∧ digitsFrom? radix (value * radix + d) row = some n := by
  rw [digitsFrom?] at h
  cases hc : digit? radix c with
  | none => simp [hc] at h
  | some d => exact ⟨d, rfl, by simpa only [hc] using h⟩

theorem digitsFrom?_append (value : Nat) (front back : List Char) :
    digitsFrom? radix value (front ++ back) =
      (digitsFrom? radix value front).bind fun value => digitsFrom? radix value back := by
  induction front generalizing value with
  | nil => rfl
  | cons c front ih =>
    rw [List.cons_append, digitsFrom?, digitsFrom?]
    cases digit? radix c with
    | none => rfl
    | some d => exact ih (value * radix + d)

theorem digitsFrom?_toDigits (hone : 1 < radix) (hradix : radix ≤ 16) (n : Nat) :
    digitsFrom? radix 0 (Nat.toDigits radix n) = some n := by
  induction n using Nat.base_induction radix hone with
  | single d hd =>
    rw [Nat.toDigits_of_lt_base hd, digitsFrom?, digit?_digitChar hd hradix]
    simp [digitsFrom?]
  | digit m d hd hm ih =>
    rw [← Nat.toDigits_append_toDigits hone hm hd, digitsFrom?_append, ih,
      Nat.toDigits_of_lt_base hd]
    simp [digitsFrom?, digit?_digitChar hd hradix, Nat.mul_comm]

theorem digits?_of_ne_nil {row : List Char} (h : row ≠ []) :
    digits? radix row = digitsFrom? radix 0 row := by
  cases row with
  | nil => exact absurd rfl h
  | cons c row => rfl

theorem digits?_toDigits (hone : 1 < radix) (hradix : radix ≤ 16) (n : Nat) :
    digits? radix (Nat.toDigits radix n) = some n := by
  rw [digits?_of_ne_nil Nat.toDigits_ne_nil, digitsFrom?_toDigits hone hradix]

/-- Only zero is written with a zero in front. -/
theorem head?_toDigits (hone : 1 < radix) {n : Nat}
    (h : (Nat.toDigits radix n).head? = some '0') : n = 0 := by
  induction n using Nat.base_induction radix hone with
  | single d hd =>
    rw [Nat.toDigits_of_lt_base hd] at h
    simpa using h
  | digit m d hd hm ih =>
    obtain ⟨c, row, hrow⟩ := List.exists_cons_of_ne_nil (Nat.toDigits_ne_nil (n := m) (b := radix))
    rw [← Nat.toDigits_append_toDigits hone hm hd, hrow] at h
    rw [hrow] at ih
    exact absurd (ih h) (Nat.ne_of_gt hm)

theorem digitsFrom?_eq_none_of_mem {c : Char} (hc : digit? radix c = none)
    {row : List Char} (h : c ∈ row) (value : Nat) : digitsFrom? radix value row = none := by
  induction row generalizing value with
  | nil => cases h
  | cons d row ih =>
    rw [digitsFrom?]
    rcases List.mem_cons.1 h with rfl | h
    · rw [hc]
    · cases digit? radix d with
      | none => rfl
      | some digit => exact ih h _

theorem digits?_eq_none_of_mem {c : Char} (hc : digit? radix c = none)
    {row : List Char} (h : c ∈ row) : digits? radix row = none := by
  rw [digits?_of_ne_nil (List.ne_nil_of_mem h), digitsFrom?_eq_none_of_mem hc h]

theorem not_mem_toDigits (hone : 1 < radix) (hradix : radix ≤ 16) {c : Char}
    (hc : digit? radix c = none) (n : Nat) : c ∉ Nat.toDigits radix n := by
  intro hmem
  have hread := digits?_toDigits hone hradix n
  rw [digits?_eq_none_of_mem hc hmem] at hread
  cases hread

/-- The text is the number, letters of either case, behind any number of zeros. -/
def Writes (radix n : Nat) (text : List Char) : Prop :=
  ∃ zeros, text.map Char.toLower = List.replicate zeros '0' ++ Nat.toDigits radix n

theorem toNat_toLower (c : Char) :
    c.toLower.toNat = if 65 ≤ c.toNat ∧ c.toNat ≤ 90 then c.toNat + 32 else c.toNat := by
  have hupper : (c.val ≥ 'A'.val ∧ c.val ≤ 'Z'.val) ↔ 65 ≤ c.toNat ∧ c.toNat ≤ 90 := by
    simp only [ge_iff_le, UInt32.le_iff_toNat_le]
    rfl
  unfold Char.toLower
  split
  · rename_i h
    have hrange : 65 ≤ c.val.toNat ∧ c.val.toNat ≤ 90 := hupper.1 h
    rw [if_pos (hupper.1 h)]
    show (c.val + 32).toNat = c.val.toNat + 32
    rw [UInt32.toNat_add, show (32 : UInt32).toNat = 32 from rfl]
    omega
  · rename_i h
    rw [if_neg (mt hupper.2 h)]

/-- What a digit is worth, by its code point. -/
theorem digit?_eq (radix : Nat) (c : Char) :
    digit? radix c =
      (if 48 ≤ c.toNat ∧ c.toNat ≤ 57 then some (c.toNat - 48)
        else if 97 ≤ c.toNat ∧ c.toNat ≤ 122 then some (c.toNat - 97 + 10)
        else if 65 ≤ c.toNat ∧ c.toNat ≤ 90 then some (c.toNat - 65 + 10)
        else none).filter (· < radix) := by
  have le_iff (a b : Char) : a ≤ b ↔ a.toNat ≤ b.toNat := by
    rw [Char.le_def, UInt32.le_iff_toNat_le]
    rfl
  unfold digit?
  simp only [le_iff, show '0'.toNat = 48 from rfl, show '9'.toNat = 57 from rfl,
    show 'a'.toNat = 97 from rfl, show 'z'.toNat = 122 from rfl, show 'A'.toNat = 65 from rfl,
    show 'Z'.toNat = 90 from rfl]

/-- Letters of either case are the same digit. -/
theorem digit?_toLower (radix : Nat) (c : Char) : digit? radix c.toLower = digit? radix c := by
  rw [digit?_eq, digit?_eq, toNat_toLower]
  congr 1
  grind

theorem lt_of_digit? {c : Char} {value : Nat} (h : digit? radix c = some value) :
    value < radix := by
  rw [digit?_eq] at h
  simpa using (Option.filter_eq_some_iff.1 h).2

theorem toNat_lt_of_digit? {c : Char} {value : Nat} (h : digit? radix c = some value) :
    c.toNat < 123 := by
  rw [digit?_eq] at h
  have hsome := (Option.filter_eq_some_iff.1 h).1
  grind

theorem digitsFrom?_map_toLower (value : Nat) (row : List Char) :
    digitsFrom? radix value (row.map Char.toLower) = digitsFrom? radix value row := by
  induction row generalizing value with
  | nil => rfl
  | cons c row ih =>
    rw [List.map_cons, digitsFrom?, digitsFrom?, digit?_toLower]
    cases digit? radix c with
    | none => rfl
    | some d => exact ih (value * radix + d)

theorem digitsFrom?_zeros (hone : 1 < radix) (hradix : radix ≤ 16) (zeros : Nat)
    (row : List Char) :
    digitsFrom? radix 0 (List.replicate zeros '0' ++ row) = digitsFrom? radix 0 row := by
  induction zeros with
  | zero => rfl
  | succ zeros ih =>
    have hzero : digit? radix '0' = some 0 := digit?_digitChar (Nat.lt_of_succ_lt hone) hradix
    rw [List.replicate_succ, List.cons_append, digitsFrom?, hzero, ← ih]
    simp

theorem map_toLower_toDigits (hone : 1 < radix) (hradix : radix ≤ 16) (n : Nat) :
    (Nat.toDigits radix n).map Char.toLower = Nat.toDigits radix n := by
  have hdigit : ∀ d < 16, d.digitChar.toLower = d.digitChar := by decide
  induction n using Nat.base_induction radix hone with
  | single d hd =>
    rw [Nat.toDigits_of_lt_base hd, List.map_singleton, hdigit d (Nat.lt_of_lt_of_le hd hradix)]
  | digit m d hd hm ih =>
    rw [← Nat.toDigits_append_toDigits hone hm hd, List.map_append, ih, Nat.toDigits_of_lt_base hd,
      List.map_singleton, hdigit d (Nat.lt_of_lt_of_le hd hradix)]

/-- A number is written by its own digits. -/
theorem writes_toDigits (hone : 1 < radix) (hradix : radix ≤ 16) (n : Nat) :
    Writes radix n (Nat.toDigits radix n) :=
  ⟨0, map_toLower_toDigits hone hradix n⟩

/-- A number can be written in every width that has room for its digits. -/
theorem exists_writes_of_length_le (hone : 1 < radix) (hradix : radix ≤ 16) {n width : Nat}
    (hroom : (Nat.toDigits radix n).length ≤ width) :
    ∃ text, text.length = width ∧ Writes radix n text := by
  refine ⟨List.replicate (width - (Nat.toDigits radix n).length) '0' ++ Nat.toDigits radix n,
    ?_, width - (Nat.toDigits radix n).length, ?_⟩
  · rw [List.length_append, List.length_replicate, Nat.sub_add_cancel hroom]
  · rw [List.map_append, map_toLower_toDigits hone hradix, List.map_replicate]
    rfl

variable {n : Nat} {text : List Char}

theorem Writes.ne_nil (h : Writes radix n text) : text ≠ [] := by
  rintro rfl
  obtain ⟨zeros, h⟩ := h
  exact Nat.toDigits_ne_nil (List.append_eq_nil_iff.1 h.symm).2

theorem Writes.digits?_eq (h : Writes radix n text) (hone : 1 < radix) (hradix : radix ≤ 16) :
    digits? radix text = some n := by
  have hne := h.ne_nil
  obtain ⟨zeros, h⟩ := h
  rw [digits?_of_ne_nil hne, ← digitsFrom?_map_toLower, h, digitsFrom?_zeros hone hradix,
    digitsFrom?_toDigits hone hradix]

theorem Writes.exists_digit (h : Writes radix n text) (hone : 1 < radix) (hradix : radix ≤ 16)
    {c : Char} (hc : c ∈ text) : ∃ d, digit? radix c = some d := by
  have hread := h.digits?_eq hone hradix
  cases hdigit : digit? radix c with
  | none =>
    rw [digits?_eq_none_of_mem hdigit hc] at hread
    cases hread
  | some d => exact ⟨d, rfl⟩

/-- A text writes one number at most. -/
theorem Writes.unique {m : Nat} (h : Writes radix n text) (hother : Writes radix m text)
    (hone : 1 < radix) (hradix : radix ≤ 16) : n = m := by
  have hread := h.digits?_eq hone hradix
  rw [hother.digits?_eq hone hradix] at hread
  exact (Option.some.inj hread).symm

theorem toNat_digitChar : ∀ d < 16, d.digitChar.toNat = if d < 10 then 48 + d else 87 + d := by
  decide

theorem toLower_eq_digitChar {c : Char} {d : Nat} (h : digit? radix c = some d)
    (hradix : radix ≤ 16) : c.toLower = d.digitChar := by
  have hd : d < 16 := Nat.lt_of_lt_of_le (lt_of_digit? h) hradix
  rw [digit?_eq] at h
  have hvalue := (Option.filter_eq_some_iff.1 h).1
  rw [← Char.toNat_inj, toNat_toLower, toNat_digitChar d hd]
  grind

theorem writes_singleton {c : Char} {d : Nat} (h : digit? radix c = some d) (hradix : radix ≤ 16) :
    Writes radix d [c] := by
  refine ⟨0, ?_⟩
  rw [List.map_singleton, toLower_eq_digitChar h hradix, Nat.toDigits_of_lt_base (lt_of_digit? h)]
  rfl

theorem Writes.concat {c : Char} {d : Nat} (h : Writes radix n text) (hc : digit? radix c = some d)
    (hone : 1 < radix) (hradix : radix ≤ 16) : Writes radix (n * radix + d) (text ++ [c]) := by
  obtain ⟨zeros, h⟩ := h
  have hd := lt_of_digit? hc
  rcases Nat.eq_zero_or_pos n with rfl | hpos
  · -- the digit of zero becomes one more zero in front
    refine ⟨zeros + 1, ?_⟩
    rw [List.map_append, h, List.map_singleton, toLower_eq_digitChar hc hradix, Nat.toDigits_zero,
      Nat.zero_mul, Nat.zero_add, Nat.toDigits_of_lt_base hd, List.replicate_succ']
  · refine ⟨zeros, ?_⟩
    rw [List.map_append, h, List.map_singleton, toLower_eq_digitChar hc hradix, Nat.mul_comm,
      ← Nat.toDigits_append_toDigits hone hpos hd, Nat.toDigits_of_lt_base hd, List.append_assoc]

/-- A reader that goes on behind a number that is written keeps to what is written. -/
theorem Writes.append {value : Nat} {row : List Char} (h : Writes radix value text)
    (hrow : digitsFrom? radix value row = some n) (hone : 1 < radix) (hradix : radix ≤ 16) :
    Writes radix n (text ++ row) := by
  induction row generalizing value text with
  | nil =>
    obtain rfl := Option.some.inj hrow
    rwa [List.append_nil]
  | cons c row ih =>
    obtain ⟨d, hc, hrow⟩ := exists_digit_of_digitsFrom? hrow
    have hrest := ih (h.concat hc hone hradix) hrow
    rwa [List.append_assoc] at hrest

/-- Digits are read as the number that they write. -/
theorem digits?_eq_some_iff (hone : 1 < radix) (hradix : radix ≤ 16) :
    digits? radix text = some n ↔ Writes radix n text := by
  constructor
  · intro h
    cases text with
    | nil => cases h
    | cons c row =>
      obtain ⟨d, hc, hrow⟩ := exists_digit_of_digitsFrom? h
      rw [Nat.zero_mul, Nat.zero_add] at hrow
      exact (writes_singleton hc hradix).append hrow hone hradix
  · intro h
    exact h.digits?_eq hone hradix

/-- The text is a numeral of the number: it writes the number, or does so behind a plus sign. -/
def IsNumeral (radix n : Nat) (text : List Char) : Prop :=
  Writes radix n text ∨ ∃ row, text = '+' :: row ∧ Writes radix n row

theorem value?_eq_some_iff (hone : 1 < radix) (hradix : radix ≤ 16) :
    value? radix text = some n ↔ IsNumeral radix n text := by
  unfold value?
  split
  case h_1 row =>
    have hsign : ¬Writes radix n ('+' :: row) := by
      intro h
      obtain ⟨d, hd⟩ := h.exists_digit hone hradix List.mem_cons_self
      cases hd
    simp [IsNumeral, hsign, digits?_eq_some_iff hone hradix]
  case h_2 hplain =>
    have hsign : ¬∃ row, text = '+' :: row ∧ Writes radix n row := by
      rintro ⟨row, hrow, -⟩
      exact hplain row hrow
    rw [IsNumeral, or_iff_left hsign, digits?_eq_some_iff hone hradix]

theorem lt_of_below? {limit value : Nat} {text : String}
    (h : below? limit radix text = some value) : value < limit := by
  rw [below?, Option.filter_eq_some_iff] at h
  simpa using h.2

/-- A reader with a limit reads the numerals of the numbers below it. -/
theorem below?_eq_some_iff (hone : 1 < radix) (hradix : radix ≤ 16) {limit : Nat}
    {text : String} :
    below? limit radix text = some n ↔ IsNumeral radix n text.toList ∧ n < limit := by
  rw [below?, Option.filter_eq_some_iff, value?_eq_some_iff hone hradix, decide_eq_true_iff]

/-- A written number is read by every reader whose limit it keeps. -/
theorem Writes.below?_eq (h : Writes radix n text) (hone : 1 < radix) (hradix : radix ≤ 16)
    {limit : Nat} (hlt : n < limit) : below? limit radix (String.ofList text) = some n := by
  rw [below?_eq_some_iff hone hradix, String.toList_ofList]
  exact ⟨.inl h, hlt⟩

end TunnelFirewall.Numeral
