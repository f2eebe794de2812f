import TunnelFirewall.Address.Text
import TunnelFirewall.Proofs.Text.Fields
import TunnelFirewall.Proofs.Text.Numeral

/-!
# Written addresses are read back

The zeros that a double colon leaves out of an address are as many as the reader puts in, a mapped
address is read through the IPv4 address at its end, and no IPv6 address looks like an IPv4 one.
-/
namespace TunnelFirewall

open Text

namespace IPv4

theorem readOctet?_toDigits (octet : UInt8) :
    readOctet? (Nat.toDigits 10 octet.toNat) = some octet := by
  have hlength : (Nat.toDigits 10 octet.toNat).length ≤ 3 := by
    rw [Nat.length_toDigits_le_iff (by decide) (by decide)]
    exact Nat.lt_trans octet.toNat_lt (by decide)
  have hzero : (Nat.toDigits 10 octet.toNat).head? = some '0' →
      Nat.toDigits 10 octet.toNat = ['0'] := by
    intro hhead
    rw [Numeral.head?_toDigits (by decide) hhead]
    rfl
  rw [readOctet?, if_pos ⟨hlength, hzero⟩, Numeral.digits?_toDigits (by decide) (by decide),
    Option.filter_some, if_pos (by simpa using octet.toNat_lt), Option.map_some, UInt8.ofNat_toNat]

theorem readOctet?_eq_none_of_colon {row : List Char} (h : ':' ∈ row) : readOctet? row = none := by
  rw [readOctet?, Numeral.digits?_eq_none_of_mem rfl h]
  split <;> rfl

theorem fields_chars (a : IPv4) :
    fields '.' a.chars = a.octets.map fun octet => Nat.toDigits 10 octet.toNat := by
  apply fields_joinFields (by simp [octets])
  intro field hfield
  obtain ⟨octet, -, rfl⟩ := List.mem_map.1 hfield
  exact Numeral.not_mem_toDigits (by decide) (by decide) rfl octet.toNat

/-- An IPv4 address is read from its text. -/
theorem read?_chars (a : IPv4) : read? a.chars = some a := by
  rw [read?, fields_chars]
  simp [octets, readOctet?_toDigits, ofOctets?]

theorem read?_eq_none_of_colon {text : List Char} (h : ':' ∈ text) : read? text = none := by
  obtain ⟨field, hfield, hmem⟩ := exists_field_of_mem (by decide : ':' ≠ '.') h
  have hnone : (fields '.' text).mapM readOctet? = none := by
    obtain ⟨front, back, hsplit⟩ := List.append_of_mem hfield
    rw [hsplit, List.mapM_append]
    simp [readOctet?_eq_none_of_colon hmem]
  rw [read?, hnone]

theorem not_mem_chars (a : IPv4) : ':' ∉ a.chars := by
  intro hmem
  have hread := a.read?_chars
  rw [read?_eq_none_of_colon hmem] at hread
  cases hread

theorem octets_of_ofOctets? {octets : Bytes} {a : IPv4} (h : ofOctets? octets = some a) :
    octets = a.octets := by
  unfold ofOctets? at h
  split at h <;> cases h
  rfl

theorem length_chars (a : IPv4) : 4 < a.chars.length := by
  have hdigits (octet : UInt8) : 0 < (Nat.toDigits 10 octet.toNat).length :=
    Nat.length_toDigits_pos
  have := hdigits a.first
  have := hdigits a.second
  simp only [chars, octets, List.map_cons, List.map_nil, joinFields, List.length_append,
    List.length_cons]
  omega

end IPv4

namespace IPv6

theorem octetsOf_groupsOf (octets : Bytes) (heven : octets.length % 2 = 0) :
    octetsOf (groupsOf octets) = octets := by
  fun_induction groupsOf octets with
  | case1 high low rest ih =>
    have hword : octetsOf [Bytes.word high low] = [high, low] := by
      have hhigh : Bytes.word high low / 256 = high.toNat := by
        have := low.toNat_lt
        unfold Bytes.word
        omega
      have hlow : Bytes.word high low % 256 = low.toNat := by
        have := low.toNat_lt
        unfold Bytes.word
        omega
      simp [octetsOf, hhigh, hlow]
    have hrest : rest.length % 2 = 0 := by
      simp only [List.length_cons] at heven
      omega
    rw [octetsOf, List.flatMap_cons]
    rw [octetsOf, List.flatMap_singleton] at hword
    rw [hword]
    exact congrArg (high :: low :: ·) (ih hrest)
  | case2 octets hshort =>
    match octets, hshort, heven with
    | [], _, _ => rfl
    | high :: low :: rest, hshort, _ => exact absurd rfl (hshort high low rest)

theorem length_groupsOf (octets : Bytes) : (groupsOf octets).length = octets.length / 2 := by
  fun_induction groupsOf octets with
  | case1 high low rest ih =>
    rw [List.length_cons, ih]
    simp only [List.length_cons]
    omega
  | case2 octets hshort =>
    match octets, hshort with
    | [], _ => rfl
    | [_], _ => simp
    | high :: low :: rest, hshort => exact absurd rfl (hshort high low rest)

theorem lt_of_mem_groupsOf {octets : Bytes} {group : Nat} (h : group ∈ groupsOf octets) :
    group < 65536 := by
  fun_induction groupsOf octets with
  | case1 high low rest ih =>
    rcases List.mem_cons.1 h with rfl | h
    · exact Bytes.word_lt high low
    · exact ih h
  | case2 => cases h

theorem readGroup?_toDigits {group : Nat} (h : group < 65536) :
    readGroup? (Nat.toDigits 16 group) = some group := by
  have hlength : (Nat.toDigits 16 group).length ≤ 4 := by
    rw [Nat.length_toDigits_le_iff (by decide) (by decide)]
    exact h
  rw [readGroup?, if_pos hlength, Numeral.digits?_toDigits (by decide) (by decide)]

theorem readGroups?_map (quad : Bool) {row : List Nat} (h : ∀ group ∈ row, group < 65536) :
    readGroups? quad (row.map (Nat.toDigits 16)) = some row := by
  induction row with
  | nil => rfl
  | cons group row ih =>
    have hgroup := readGroup?_toDigits (h group List.mem_cons_self)
    cases row with
    | nil => simp [readGroups?, hgroup]
    | cons next row =>
      have hrest := ih fun other hother => h other (List.mem_cons_of_mem _ hother)
      rw [List.map_cons, readGroups?, hgroup, hrest]
      nofun

theorem fields_joinGroups {row : List Nat} (hne : row ≠ []) :
    fields ':' (joinGroups row) = row.map (Nat.toDigits 16) := by
  apply fields_joinFields (by simpa using hne)
  intro field hfield
  obtain ⟨group, -, rfl⟩ := List.mem_map.1 hfield
  exact Numeral.not_mem_toDigits (by decide) (by decide) rfl group

theorem joinGroups_ne_nil {row : List Nat} (hne : row ≠ []) : joinGroups row ≠ [] := by
  intro hnil
  have hfields := fields_joinGroups hne
  rw [hnil] at hfields
  obtain ⟨group, row, rfl⟩ := List.exists_cons_of_ne_nil hne
  have hhead : [] = Nat.toDigits 16 group := (List.cons.inj hfields).1
  exact Nat.toDigits_ne_nil hhead.symm

theorem readSide?_joinGroups (quad : Bool) {row : List Nat} (h : ∀ group ∈ row, group < 65536) :
    readSide? quad (joinGroups row) = some row := by
  by_cases hne : row = []
  · subst hne
    rfl
  · rw [readSide?, fields_joinGroups hne, readGroups?_map quad h]
    exact joinGroups_ne_nil hne

theorem cutDouble?_joinGroups_append (row : List Nat) (tail : List Char) :
    cutDouble? ':' (joinGroups row ++ tail) =
      (cutDouble? ':' tail).map fun (front, back) => (joinGroups row ++ front, back) := by
  apply cutDouble?_joinFields_append
  intro field hfield
  obtain ⟨group, -, rfl⟩ := List.mem_map.1 hfield
  exact ⟨Nat.toDigits_ne_nil, Numeral.not_mem_toDigits (by decide) (by decide) rfl group⟩

/-- The longest run of zeros is one. -/
theorem longestZeroRun_split (start : Nat) (row : List Nat) :
    ∃ front back, row = front ++ (List.replicate (longestZeroRun start row).1 0 ++ back) ∧
      (longestZeroRun start row).2 = start + front.length := by
  induction row generalizing start with
  | nil => exact ⟨[], [], rfl, rfl⟩
  | cons group row ih =>
    rw [longestZeroRun]
    split
    · refine ⟨[], (group :: row).dropWhile (· == 0), ?_, rfl⟩
      have hzeros : (group :: row).takeWhile (· == 0) =
          List.replicate ((group :: row).takeWhile (· == 0)).length 0 := by
        rw [List.eq_replicate_iff]
        have hall := List.all_eq_true.1 (List.all_takeWhile (p := (· == 0)) (l := group :: row))
        exact ⟨rfl, fun other hother => eq_of_beq (hall other hother)⟩
      rw [List.nil_append, ← hzeros, List.takeWhile_append_dropWhile]
    · obtain ⟨front, back, hrow, hplace⟩ := ih (start + 1)
      refine ⟨group :: front, back, by rw [List.cons_append, ← hrow], ?_⟩
      rw [hplace, List.length_cons]
      omega

variable (a : IPv6)

theorem length_groups : a.groups.length = 8 := by
  rw [groups, length_groupsOf, a.length_octets]

theorem octetsOf_groups : octetsOf a.groups = a.octets := by
  apply octetsOf_groupsOf
  rw [a.length_octets]

theorem lt_of_mem_groups {group : Nat} (h : group ∈ a.groups) : group < 65536 :=
  lt_of_mem_groupsOf h

theorem readAll?_of_cutDouble? {text before behind : List Char} {front back : List Nat}
    (hcut : cutDouble? ':' text = some (before, behind))
    (hfront : readSide? false before = some front) (hback : readSide? true behind = some back) :
    readAll? text = fillGroups? front back := by
  simp only [readAll?, hcut, hfront, hback]

/-- The text of a mapped address ends in the text of the IPv4 address, which is too long for a
group. -/
theorem readAll?_mapped (a : IPv4) :
    readAll? ([':', ':', 'f', 'f', 'f', 'f', ':'] ++ a.chars) =
      some ([0, 0, 0, 0, 0, 0xFFFF] ++ groupsOf a.octets) := by
  have hfields : fields ':' (['f', 'f', 'f', 'f', ':'] ++ a.chars) =
      [['f', 'f', 'f', 'f'], a.chars] := by
    show fields ':' (joinFields ':' [['f', 'f', 'f', 'f'], a.chars]) = _
    apply fields_joinFields (List.cons_ne_nil _ _)
    simp only [List.forall_mem_cons]
    exact ⟨by decide, a.not_mem_chars, nofun⟩
  have hgroup : readGroup? ['f', 'f', 'f', 'f'] = some 0xFFFF := by decide
  have hlong : readGroup? a.chars = none := by
    rw [readGroup?, if_neg (Nat.not_le.2 a.length_chars)]
  have hlast : readGroups? true [a.chars] = some (groupsOf a.octets) := by
    simp [readGroups?, hlong, a.read?_chars]
  have hback : readSide? true (['f', 'f', 'f', 'f', ':'] ++ a.chars) =
      some (0xFFFF :: groupsOf a.octets) := by
    show readGroups? true (fields ':' (['f', 'f', 'f', 'f', ':'] ++ a.chars)) = _
    rw [hfields, readGroups?, hgroup, hlast]
    nofun
  rw [readAll?_of_cutDouble? rfl rfl hback]
  rfl

/-- As many zeros are put in for the double colon as were left out. -/
theorem readAll?_compressed {front back : List Nat} {length : Nat} (hlength : 0 < length)
    (hgroups : a.groups = front ++ (List.replicate length 0 ++ back)) :
    readAll? (joinGroups front ++ [':', ':'] ++ joinGroups back) = some a.groups := by
  have hfront : ∀ group ∈ front, group < 65536 := fun group hmem =>
    a.lt_of_mem_groups (hgroups ▸ List.mem_append_left _ hmem)
  have hback : ∀ group ∈ back, group < 65536 := fun group hmem =>
    a.lt_of_mem_groups (hgroups ▸ List.mem_append_right _ (List.mem_append_right _ hmem))
  have hcut : cutDouble? ':' (joinGroups front ++ [':', ':'] ++ joinGroups back) =
      some (joinGroups front, joinGroups back) := by
    have hfirst : cutDouble? ':' ([':', ':'] ++ joinGroups back) = some ([], joinGroups back) := rfl
    rw [List.append_assoc, cutDouble?_joinGroups_append, hfirst, Option.map_some]
    simp only [List.append_nil]
  have height := a.length_groups
  rw [hgroups, List.length_append, List.length_append, List.length_replicate] at height
  have hzeros : 8 - front.length - back.length = length := by omega
  rw [readAll?_of_cutDouble? hcut (readSide?_joinGroups false hfront)
    (readSide?_joinGroups true hback), fillGroups?, if_pos (by omega), hzeros, hgroups,
    List.append_assoc]

theorem readAll?_joinGroups : readAll? (joinGroups a.groups) = some a.groups := by
  have hne : a.groups ≠ [] := by
    intro hnil
    have height := a.length_groups
    rw [hnil] at height
    cases height
  have hcut := cutDouble?_joinGroups_append a.groups []
  rw [List.append_nil] at hcut
  rw [readAll?, hcut]
  show readGroups? true (fields ':' (joinGroups a.groups)) = some a.groups
  rw [fields_joinGroups hne, readGroups?_map true fun _ => a.lt_of_mem_groups]

theorem groups_of_unmapped? {v4 : IPv4} (h : a.unmapped? = some v4) :
    a.groups = [0, 0, 0, 0, 0, 0xFFFF] ++ groupsOf v4.octets := by
  unfold unmapped? at h
  split at h
  · rename_i hfront
    rw [groups, ← List.take_append_drop 12 a.octets, hfront, IPv4.octets_of_ofOctets? h]
    rfl
  · cases h

theorem readAll?_chars : readAll? a.chars = some a.groups := by
  unfold chars
  split
  · rename_i v4 hmapped
    rw [readAll?_mapped, a.groups_of_unmapped? hmapped]
  · obtain ⟨front, back, hgroups, hplace⟩ := longestZeroRun_split 0 a.groups
    cases hrun : longestZeroRun 0 a.groups with
    | mk length start =>
      simp only [hrun, Nat.zero_add] at hgroups hplace
      subst hplace
      show readAll? (if 1 < length then _ else _) = some a.groups
      split
      · rename_i hlength
        have htake : a.groups.take front.length = front := by
          rw [hgroups, List.take_left]
        have hdrop : a.groups.drop (front.length + length) = back := by
          simp [hgroups, List.drop_append]
        rw [htake, hdrop]
        exact a.readAll?_compressed (Nat.lt_of_succ_lt hlength) hgroups
      · exact a.readAll?_joinGroups

/-- An IPv6 address is read from its text. -/
theorem read?_chars : read? a.chars = some a := by
  rw [read?, readAll?_chars, Option.bind_some, octetsOf_groups, ofOctets?_octets]

theorem colon_mem_chars : ':' ∈ a.chars := by
  unfold chars
  split
  · exact List.mem_cons_self
  · show ':' ∈ (if 1 < (longestZeroRun 0 a.groups).1 then _ else _)
    split
    · exact List.mem_append_left _ (List.mem_append_right _ List.mem_cons_self)
    · have height := a.length_groups
      match hrow : a.groups with
      | first :: second :: rest => exact mem_joinFields_cons_cons _ _ _
      | [] | [_] =>
        rw [hrow] at height
        simp at height

end IPv6

/-- An address is read from its text. -/
theorem Address.read?_text (a : Address) : read? a.text = some a := by
  rw [read?, text, String.toList_ofList]
  cases a with
  | v4 a => rw [chars, a.read?_chars]
  | v6 a =>
    rw [chars, IPv4.read?_eq_none_of_colon a.colon_mem_chars, a.read?_chars]
    rfl

end TunnelFirewall
