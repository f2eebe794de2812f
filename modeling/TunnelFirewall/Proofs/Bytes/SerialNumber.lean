import TunnelFirewall.Bytes.SerialNumber

/-!
# Distances between serial numbers

How the order of two numbers follows from the distance that leads from the first forward to the
second. A number less than half of the number space ahead is later, and one more than half of it
ahead is earlier, with one exception: a number one step short of half the number space ahead is
recognised as later only across the wrap. Before the wrap each of the two is taken for the later
one, so the order is not antisymmetric there, and it changes when both numbers move on alike.
-/
namespace TunnelFirewall.SerialNumber

/-- The number of steps from one number forward to another, across the wrap if need be. -/
def distance (a b : UInt32) : Nat := (b - a).toNat

/-- Half of the number space. -/
def half : Nat := 2147483648

/-- The second number is one step short of half the number space ahead, with no wrap between. -/
def Misjudged (a b : UInt32) : Prop := distance a b + 1 = half ∧ a < b

instance (a b : UInt32) : Decidable (Misjudged a b) := inferInstanceAs (Decidable (_ ∧ _))

variable {a b : UInt32}

theorem distance_eq_zero_iff : distance a b = 0 ↔ a = b := by
  have hzero : b - a = 0 ↔ a = b := by
    rw [UInt32.sub_eq_iff_eq_add, UInt32.zero_add, eq_comm]
  rw [← hzero, ← UInt32.toNat_inj]
  rfl

/-- The way there and the way back make one full turn. -/
theorem distance_add_distance (h : a ≠ b) : distance a b + distance b a = 2 * half := by
  have hne : a.toNat ≠ b.toNat := mt UInt32.toNat_inj.1 h
  have ha := a.toNat_lt
  have hb := b.toNat_lt
  simp only [distance, UInt32.toNat_sub, half]
  omega

/-- Numbers that move on alike keep their distance. -/
theorem distance_add_add (a b k : UInt32) : distance (a + k) (b + k) = distance a b := by
  have hsame : (b + k) - (a + k) = b - a := by grind
  rw [distance, hsame, distance]

theorem order_self (a : UInt32) : order a a = .eq := if_pos rfl

/-- Before the wrap, one step too few counts as half the number space. -/
theorem order_of_lt (h : a < b) :
    order a b = if distance a b + 1 < half then .lt else .gt := by
  have hne : a ≠ b := UInt32.ne_of_lt h
  have hback : ¬b < a := UInt32.lt_asymm h
  have hnear : b - a < halfSpace ↔ distance a b + 1 < half := by
    rw [UInt32.lt_iff_toNat_lt, show halfSpace.toNat = half - 1 from rfl, distance]
    omega
  simp only [order, if_neg hne, h, hback, hnear, true_and, false_and, or_false]

/-- Across the wrap, half the number space itself counts as less. -/
theorem order_of_gt (h : b < a) : order a b = if distance a b ≤ half then .lt else .gt := by
  have hne : a ≠ b := (UInt32.ne_of_lt h).symm
  have hback : ¬a < b := UInt32.lt_asymm h
  have hturn := distance_add_distance hne
  have hfar : halfSpace < a - b ↔ distance a b ≤ half := by
    rw [UInt32.lt_iff_toNat_lt, show halfSpace.toNat = half - 1 from rfl,
      show (a - b).toNat = distance b a from rfl]
    have hpos : 0 < half := by decide
    omega
  simp only [order, if_neg hne, h, hback, hfar, true_and, false_and, false_or]

theorem order_eq_eq_iff : order a b = .eq ↔ distance a b = 0 := by
  rw [distance_eq_zero_iff, order]
  split
  · rename_i heq
    exact iff_of_true rfl heq
  · rename_i hne
    apply iff_of_false _ hne
    split <;> nofun

theorem ne_of_distance_pos (h : 0 < distance a b) : a ≠ b := by
  intro heq
  exact Nat.ne_of_gt h (distance_eq_zero_iff.2 heq)

/-- Of two numbers less than half the number space apart, the one ahead is the later one, unless
the pair is misjudged. -/
theorem order_of_lt_half (hpos : 0 < distance a b) (hlt : distance a b < half) :
    order a b = if Misjudged a b then .gt else .lt := by
  rcases UInt32.lt_or_lt_of_ne (ne_of_distance_pos hpos) with hplain | hwrap
  · have hnear : distance a b + 1 < half ↔ ¬distance a b + 1 = half := by omega
    simp only [order_of_lt hplain, Misjudged, hplain, and_true, hnear, ite_not]
  · have hback : ¬a < b := UInt32.lt_asymm hwrap
    have hok : ¬Misjudged a b := fun h => hback h.2
    rw [order_of_gt hwrap, if_pos (Nat.le_of_lt hlt), if_neg hok]

theorem order_of_half_lt (h : half < distance a b) : order a b = .gt := by
  have hpos : 0 < distance a b := Nat.lt_of_le_of_lt (Nat.zero_le half) h
  rcases UInt32.lt_or_lt_of_ne (ne_of_distance_pos hpos) with hplain | hwrap
  · have hfar : ¬distance a b + 1 < half := by omega
    rw [order_of_lt hplain, if_neg hfar]
  · rw [order_of_gt hwrap, if_neg (Nat.not_le_of_lt h)]

theorem Misjudged.lt_half (h : Misjudged a b) : distance a b < half := by
  have hdistance := h.1
  omega

theorem not_misjudged_self (a : UInt32) : ¬Misjudged a a := fun h =>
  UInt32.lt_irrefl a h.2

theorem not_misjudged_of_half_lt (h : half < distance a b) : ¬Misjudged a b := fun hmis =>
  Nat.lt_asymm h hmis.lt_half

/-- Away from half the number space, two numbers are equal or the way is short in one of the two
directions. -/
theorem eq_or_lt_half_or_half_lt (hne : distance a b ≠ half) :
    a = b ∨ (0 < distance a b ∧ distance a b < half) ∨ half < distance a b := by
  by_cases heq : a = b
  · exact .inl heq
  · have hpos : 0 < distance a b := Nat.pos_of_ne_zero (mt distance_eq_zero_iff.1 heq)
    rcases Nat.lt_or_gt_of_ne hne with hlt | hgt
    · exact .inr (.inl ⟨hpos, hlt⟩)
    · exact .inr (.inr hgt)

theorem order_swap_iff_of_lt_half (hpos : 0 < distance a b) (hlt : distance a b < half) :
    order b a = (order a b).swap ↔ ¬Misjudged a b ∧ ¬Misjudged b a := by
  have hturn := distance_add_distance (ne_of_distance_pos hpos)
  have hback : half < distance b a := by omega
  rw [order_of_half_lt hback, order_of_lt_half hpos hlt,
    and_iff_left (not_misjudged_of_half_lt hback)]
  split <;> simp [*]

theorem order_swap_iff (hne : distance a b ≠ half) :
    order b a = (order a b).swap ↔ ¬Misjudged a b ∧ ¬Misjudged b a := by
  rcases eq_or_lt_half_or_half_lt hne with rfl | ⟨hpos, hlt⟩ | hgt
  · simp [order_self, not_misjudged_self]
  · exact order_swap_iff_of_lt_half hpos hlt
  · have hbound : distance a b < 2 * half := (b - a).toNat_lt
    have hpos : 0 < distance a b := Nat.lt_of_le_of_lt (Nat.zero_le half) hgt
    have hturn := distance_add_distance (ne_of_distance_pos hpos)
    have hback : order a b = (order b a).swap ↔ ¬Misjudged b a ∧ ¬Misjudged a b :=
      order_swap_iff_of_lt_half (by omega) (by omega)
    rw [and_comm, ← hback, ← Ordering.swap_inj, Ordering.swap_swap, eq_comm]

theorem order_add_iff (hne : distance a b ≠ half) (k : UInt32) :
    order (a + k) (b + k) = order a b ↔ (Misjudged (a + k) (b + k) ↔ Misjudged a b) := by
  have hshift := distance_add_add a b k
  rcases eq_or_lt_half_or_half_lt hne with rfl | ⟨hpos, hlt⟩ | hgt
  · simp [order_self, not_misjudged_self]
  · rw [order_of_lt_half hpos hlt, order_of_lt_half (hshift ▸ hpos) (hshift ▸ hlt)]
    by_cases h : Misjudged a b <;> by_cases h' : Misjudged (a + k) (b + k) <;> simp [h, h']
  · have hgt' : half < distance (a + k) (b + k) := hshift ▸ hgt
    rw [order_of_half_lt hgt, order_of_half_lt hgt']
    exact iff_of_true rfl
      (iff_of_false (not_misjudged_of_half_lt hgt') (not_misjudged_of_half_lt hgt))

/-- Below half the number space the number ahead is the later one exactly if the pair is not
misjudged; above half it is always the earlier one. So away from half the number space the order is
turned by exchanging the numbers, and kept by moving both on, exactly as far as no pair is
misjudged. -/
theorem order_by_distance_iff (a b k : UInt32) :
    (order a b = .eq ↔ distance a b = 0) ∧
      (0 < distance a b → distance a b < half → (order a b = .lt ↔ ¬Misjudged a b)) ∧
      (half < distance a b → order a b = .gt) ∧
      (distance a b ≠ half →
        (order b a = (order a b).swap ↔ ¬Misjudged a b ∧ ¬Misjudged b a) ∧
          (order (a + k) (b + k) = order a b ↔
            (Misjudged (a + k) (b + k) ↔ Misjudged a b))) := by
  refine ⟨order_eq_eq_iff, ?_, order_of_half_lt, ?_⟩
  · intro hpos hlt
    rw [order_of_lt_half hpos hlt]
    simp
  · intro hne
    exact ⟨order_swap_iff hne, order_add_iff hne k⟩

/-- Half the number space less one step, from the last quarter into the first. -/
theorem order_by_distance_iff_wrap :
    0 < distance 0xE0000000 0x5FFFFFFF ∧ distance 0xE0000000 0x5FFFFFFF < half ∧
      ¬Misjudged 0xE0000000 0x5FFFFFFF ∧ order 0xE0000000 0x5FFFFFFF = .lt := by
  have hpos : 0 < distance 0xE0000000 0x5FFFFFFF := by decide
  have hlt : distance 0xE0000000 0x5FFFFFFF < half := by decide
  have hok : ¬Misjudged 0xE0000000 0x5FFFFFFF := by decide
  exact ⟨hpos, hlt, hok, ((order_by_distance_iff 0xE0000000 0x5FFFFFFF 0).2.1 hpos hlt).2 hok⟩

/-- One step short of half the number space ahead, a number need not be later: each of 0 and
2147483647 counts as later than the other, and not any more when both are moved across the wrap. -/
theorem exists_ahead_not_later :
    ∃ a b k : UInt32, 0 < distance a b ∧ distance a b < half ∧ order a b ≠ .lt ∧
      order b a ≠ (order a b).swap ∧ order (a + k) (b + k) ≠ order a b := by
  refine ⟨0, 0x7FFFFFFF, 0x80000001, ?_⟩
  decide

end TunnelFirewall.SerialNumber
