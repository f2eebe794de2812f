import TunnelFirewall.Proofs.Text.Utf8
import TunnelFirewall.Text.Line

/-!
# Lines of a text

The bytes at which lines end encode characters of their own and are part of no longer encoding. So
the lines of a stream that is a text are texts.
-/
namespace TunnelFirewall

namespace Utf8

theorem encode_ofList (text : List Char) :
    encode (String.ofList text) = text.flatMap String.utf8EncodeChar := by
  rw [encode_eq_flatMap, String.toList_ofList]

theorem encode_ofList_nil : encode (String.ofList []) = [] := by
  rw [encode_ofList, List.flatMap_nil]

theorem encode_ofList_append_singleton (text : List Char) (c : Char) :
    encode (String.ofList (text ++ [c])) =
      encode (String.ofList text) ++ String.utf8EncodeChar c := by
  rw [encode_ofList, encode_ofList, List.flatMap_append, List.flatMap_singleton]

/-- An ASCII byte encodes its character, and is part of no other encoding. -/
theorem eq_ofNat_of_mem_encodeChar {c : Char} {byte : UInt8} (h : byte ∈ String.utf8EncodeChar c)
    (ascii : byte < 0x80) : c = Char.ofNat byte.toNat := by
  have follow : ∀ n < 64, ¬UInt8.ofNat (n + 0x80) < 0x80 := by decide
  have two : ∀ n < 32, ¬UInt8.ofNat (n + 0xC0) < 0x80 := by decide
  have three : ∀ n < 16, ¬UInt8.ofNat (n + 0xE0) < 0x80 := by decide
  have four : ∀ n < 8, ¬UInt8.ofNat (n + 0xF0) < 0x80 := by decide
  have follow' (n : Nat) := follow (n % 64) (Nat.mod_lt _ (by decide))
  have two' (n : Nat) := two (n % 32) (Nat.mod_lt _ (by decide))
  have three' (n : Nat) := three (n % 16) (Nat.mod_lt _ (by decide))
  have four' (n : Nat) := four (n % 8) (Nat.mod_lt _ (by decide))
  by_cases short : c.val.toNat ≤ 127
  · simp only [String.utf8EncodeChar, short, if_true] at h
    have hbyte : byte.toNat = c.toNat := by
      rw [List.mem_singleton.1 h, UInt8.toNat_ofNat']
      exact Nat.mod_eq_of_lt (Nat.lt_of_le_of_lt short (by decide))
    rw [hbyte, Char.ofNat_toNat]
  · simp only [String.utf8EncodeChar, short, if_false] at h
    grind

theorem not_mem_encode {text : String} {byte : UInt8} (ascii : byte < 0x80)
    (h : Char.ofNat byte.toNat ∉ text.toList) : byte ∉ encode text := by
  intro hmem
  rw [encode_eq_flatMap] at hmem
  obtain ⟨c, hc, hbyte⟩ := List.mem_flatMap.1 hmem
  exact h (eq_ofNat_of_mem_encodeChar hbyte ascii ▸ hc)

theorem encode_append (front back : String) :
    encode (front ++ back) = encode front ++ encode back := by
  simp only [encode_eq_flatMap, String.toList_append, List.flatMap_append]

end Utf8

namespace Line

theorem splitAfter_append {front : Bytes} (h : 0x0A ∉ front) (line rest : Bytes) :
    splitAfter line (front ++ rest) = splitAfter (front.reverse ++ line) rest := by
  induction front generalizing line with
  | nil => rfl
  | cons byte front ih =>
    obtain ⟨hbyte, hfront⟩ := List.ne_and_not_mem_of_not_mem_cons h
    rw [List.cons_append, splitAfter, if_neg (Ne.symm hbyte), ih hfront, List.reverse_cons,
      List.append_assoc, List.singleton_append]

theorem close_reverse (line : Bytes) (last : UInt8) :
    close (line ++ [last]).reverse = if last = 0x0D then line else line ++ [last] := by
  rw [List.reverse_append, List.reverse_singleton, List.singleton_append]
  unfold close
  split
  case h_1 rest heq =>
    obtain ⟨rfl, rfl⟩ := List.cons.inj heq
    rw [if_pos rfl, List.reverse_reverse]
  case h_2 other =>
    have hlast : last ≠ 0x0D := fun h => other line.reverse (by rw [h])
    rw [if_neg hlast, List.reverse_cons, List.reverse_reverse]

theorem close_of_not_mem {line : Bytes} (h : 0x0D ∉ line) : close line.reverse = line := by
  rcases List.eq_nil_or_concat line with rfl | ⟨front, last, rfl⟩
  · rfl
  · rw [List.concat_eq_append] at h ⊢
    have hlast : last ≠ 0x0D := by
      rintro rfl
      simp at h
    rw [close_reverse, if_neg hlast]

/-- A line of a text stays a text when it loses its carriage return. -/
theorem exists_encode_close (line : List Char) :
    ∃ text, close (Utf8.encode (String.ofList line)).reverse = Utf8.encode text := by
  rcases List.eq_nil_or_concat line with rfl | ⟨front, c, rfl⟩
  · exact ⟨String.ofList [], by rw [Utf8.encode_ofList_nil]; rfl⟩
  obtain ⟨lead, last, hc⟩ : ∃ lead last, String.utf8EncodeChar c = lead ++ [last] := by
    simpa using (List.eq_nil_or_concat _).resolve_left String.utf8EncodeChar_ne_nil
  have hline := Utf8.encode_ofList_append_singleton front c
  rw [List.concat_eq_append, hline, hc, ← List.append_assoc, close_reverse]
  split
  case isTrue ret =>
    -- The byte is ASCII, so it is the whole of the last character.
    have hmem : (0x0D : UInt8) ∈ String.utf8EncodeChar c := by simp [hc, ret]
    have hlead : lead = [] := by
      have hret : String.utf8EncodeChar (Char.ofNat 0x0D) = [0x0D] := by decide
      rw [Utf8.eq_ofNat_of_mem_encodeChar hmem (by decide)] at hc
      have heq : [] ++ [0x0D] = lead ++ [last] := hret.symm.trans hc
      exact (List.append_inj' heq rfl).1.symm
    exact ⟨String.ofList front, by rw [hlead, List.append_nil]⟩
  case isFalse => exact ⟨String.ofList (front ++ [c]), by rw [hline, hc, List.append_assoc]⟩

theorem exists_encode_of_mem_splitAfter (line rest : List Char) : ∀ bytes ∈
    splitAfter (Utf8.encode (String.ofList line)).reverse (Utf8.encode (String.ofList rest)),
    ∃ text, bytes = Utf8.encode text := by
  induction rest generalizing line with
  | nil =>
    rw [Utf8.encode_ofList_nil]
    intro bytes hmem
    unfold splitAfter at hmem
    split at hmem
    · cases hmem
    · refine ⟨String.ofList line, ?_⟩
      rw [List.mem_singleton.1 hmem, List.reverse_reverse]
  | cons c rest ih =>
    rw [Utf8.encode_ofList (c :: rest), List.flatMap_cons, ← Utf8.encode_ofList rest]
    by_cases feed : 0x0A ∈ String.utf8EncodeChar c
    · rw [Utf8.eq_ofNat_of_mem_encodeChar feed (by decide)]
      intro bytes hmem
      rcases List.mem_cons.1 hmem with rfl | hmem
      · exact exists_encode_close line
      · refine ih [] bytes ?_
        rwa [Utf8.encode_ofList_nil]
    · rw [splitAfter_append feed, ← List.reverse_append, ← Utf8.encode_ofList_append_singleton]
      exact ih (line ++ [c])

/-- The lines of a text are texts. -/
theorem isSome_of_mem_texts {text : String} {line : Option String}
    (h : line ∈ texts (Utf8.encode text)) : line.isSome := by
  obtain ⟨bytes, hmem, rfl⟩ := List.mem_map.1 h
  rw [split, ← String.ofList_toList (s := text), ← List.reverse_nil,
    ← Utf8.encode_ofList_nil] at hmem
  obtain ⟨line, rfl⟩ := exists_encode_of_mem_splitAfter [] text.toList bytes hmem
  rw [Utf8.decode?_eq_some_iff.2 rfl]
  rfl

/-- Texts without line endings that are written line by line are read line by line. -/
theorem texts_join {lines : List String}
    (h : ∀ line ∈ lines, '\n' ∉ line.toList ∧ '\r' ∉ line.toList) :
    texts (Utf8.encode (String.join (lines.map (· ++ "\n")))) = lines.map some := by
  have hempty : Utf8.encode "" = [] := Utf8.encode_ofList_nil
  have hfeed : Utf8.encode "\n" = [0x0A] := by rw [Utf8.encode_eq_flatMap]; decide
  induction lines with
  | nil =>
    rw [List.map_nil, String.join_nil, hempty]
    rfl
  | cons line lines ih =>
    obtain ⟨⟨feed, ret⟩, hrest⟩ := List.forall_mem_cons.1 h
    have hread := ih hrest
    have hline : 0x0A ∉ Utf8.encode line := Utf8.not_mem_encode (by decide) feed
    have hclose := close_of_not_mem (Utf8.not_mem_encode (by decide) ret)
    rw [List.map_cons, String.join_cons, Utf8.encode_append, Utf8.encode_append, hfeed,
      List.append_assoc]
    unfold texts split at hread ⊢
    rw [splitAfter_append hline, List.append_nil, List.singleton_append, splitAfter, if_pos rfl,
      List.map_cons, hread, hclose, Utf8.decode?_eq_some_iff.2 rfl, List.map_cons]

end Line

end TunnelFirewall
