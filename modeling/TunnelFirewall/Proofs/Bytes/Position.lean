import Mathlib.Data.List.GetD
import TunnelFirewall.Bytes.Cursor

/-!
# Bytes at a position

The fields of a header stand at fixed positions. A cursor that has come to a position reads what
stands there, as long as the buffer goes on for so many bytes.
-/
namespace TunnelFirewall

namespace Bytes

/-- The byte at a position, zero behind the end. -/
def byteAt (bytes : Bytes) (position : Nat) : UInt8 := bytes.getD position 0

/-- The big-endian number in the two bytes from a position on. -/
def wordAt (bytes : Bytes) (position : Nat) : Nat :=
  word (bytes.byteAt position) (bytes.byteAt (position + 1))

/-- A number below 65536 as two bytes, most significant first. -/
def ofWord (n : Nat) : Bytes := [UInt8.ofNat (n / 256), UInt8.ofNat n]

/-- The bytes with a word stored at a position, most significant byte first. -/
def setWord (bytes : Bytes) (position : Nat) (value : UInt16) : Bytes :=
  bytes.take position ++ ofWord value.toNat ++ bytes.drop (position + 2)

theorem word_ofNat {n : Nat} (h : n < 65536) :
    word (UInt8.ofNat (n / 256)) (UInt8.ofNat n) = n := by
  simp only [word, UInt8.toNat_ofNat']
  omega

theorem ofWord_word (high low : UInt8) : ofWord (word high low) = [high, low] := by
  have hh := high.toNat_lt
  have hl := low.toNat_lt
  have hdiv : word high low / 256 = high.toNat := by unfold word; omega
  have hlow : UInt8.ofNat (word high low) = low := by
    apply UInt8.toNat_inj.1
    rw [UInt8.toNat_ofNat']
    unfold word
    omega
  rw [ofWord, hdiv, hlow, UInt8.ofNat_toNat]

variable {bytes : Bytes} {position : Nat}

theorem byteAt_of_lt (h : position < bytes.length) : bytes.byteAt position = bytes[position] :=
  List.getD_eq_getElem bytes 0 h

theorem byteAt_append (h : position < bytes.length) (rest : Bytes) :
    byteAt (bytes ++ rest) position = bytes.byteAt position :=
  List.getD_append bytes rest 0 position h

theorem byteAt_drop (offset : Nat) :
    byteAt (bytes.drop offset) position = bytes.byteAt (offset + position) := by
  rw [byteAt, byteAt, List.getD_eq_getElem?_getD, List.getD_eq_getElem?_getD, List.getElem?_drop]

theorem take_drop_succ (h : position < bytes.length) (n : Nat) :
    (bytes.drop position).take (n + 1) =
      bytes.byteAt position :: (bytes.drop (position + 1)).take n := by
  rw [List.drop_eq_getElem_cons h, List.take_succ_cons, byteAt_of_lt h]

/-- A word that lies in the bytes, between what stands before and behind it. -/
theorem take_append_word_append_drop (h : position + 2 ≤ bytes.length) :
    bytes = bytes.take position ++ bytes.byteAt position :: bytes.byteAt (position + 1) ::
      bytes.drop (position + 2) := by
  rw [byteAt_of_lt (by omega), byteAt_of_lt (by omega), ← List.drop_eq_getElem_cons,
    ← List.drop_eq_getElem_cons, List.take_append_drop]

theorem length_setWord (h : position + 2 ≤ bytes.length) (value : UInt16) :
    (bytes.setWord position value).length = bytes.length := by
  simp only [setWord, ofWord, List.length_append, List.length_take, List.length_drop,
    List.length_cons, List.length_nil]
  omega

theorem take_drop_append {n : Nat} (h : position + n ≤ bytes.length) (rest : Bytes) :
    ((bytes ++ rest).drop position).take n = (bytes.drop position).take n := by
  rw [List.drop_append_of_le_length (by omega), List.take_append_of_le_length]
  rw [List.length_drop]
  omega

end Bytes

namespace Cursor

variable {data : Bytes} {position n : Nat} {c next : Cursor}

theorem length_rest (c : Cursor) : c.rest.length = c.remaining := by
  rw [rest, List.length_drop, remaining]

theorem take_of_lt (h : c.remaining < n) : c.take n = (none, c) := if_pos h

theorem take_of_le_remaining (h : n ≤ c.remaining) :
    c.take n = (some (c.rest.take n), c.advance n) := if_neg (Nat.not_lt.2 h)

theorem skip?_of_lt (h : c.remaining < n) : c.skip? n = none := by
  rw [skip?, skip, take_of_lt h]
  rfl

theorem skip?_eq_some_iff : c.skip? n = some next ↔ n ≤ c.remaining ∧ next = c.advance n := by
  by_cases h : n ≤ c.remaining
  · simp only [skip?, skip, take_of_le_remaining h, Option.map_some, Option.some.injEq, h, true_and]
    exact eq_comm
  · simp [skip?, skip, take_of_lt (Nat.lt_of_not_le h), h]

theorem take_of_le (h : position + n ≤ data.length) :
    (⟨data, position⟩ : Cursor).take n =
      (some ((data.drop position).take n), ⟨data, position + n⟩) :=
  take_of_le_remaining (Nat.le_sub_of_add_le' h)

end Cursor

end TunnelFirewall
