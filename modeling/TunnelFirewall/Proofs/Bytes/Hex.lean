import TunnelFirewall.Bytes.Hex
import TunnelFirewall.Proofs.Text.Line
import TunnelFirewall.Proofs.Text.Numeral

/-!
# Bytes written as digits

A decoder is lawful if it reads one pair of digits after the other, the first one first, and reports
the first byte that is none. A text spells bytes if its pairs of digits, of either case, are their
halves; a lawful decoder reads it as these bytes. Every byte string is spelled by its upper-case
digits, and an even number of digits spells the bytes of the number that they write.
-/
namespace TunnelFirewall

/-- What a byte is worth as a hexadecimal digit. -/
def Hex.half? (byte : UInt8) : Option Nat := Numeral.digit? 16 (charOfByte byte)

namespace HexDecoder

/-- The fault of a row, with its place in a row that has `n` more bytes in front. -/
def Fault.behind (n : Nat) : Fault → Fault
  | .badDigit char index => .badDigit char (index + n)
  | .oddLength => .oddLength
  | .wrongSize => .wrongSize

/-- The reader of so many pairs looks at the first pair, its first half before the other, and then
reads on behind it. -/
structure ReadsPairs (read : Nat → Bytes → Except Fault Bytes) : Prop where
  nil : read 0 [] = .ok []
  high {high low : UInt8} {rest : Bytes} {size : Nat} (bad : Hex.half? high = none)
      (length : rest.length = 2 * size) :
    read (size + 1) (high :: low :: rest) = .error (.badDigit (Hex.charOfByte high) 0)
  low {high low : UInt8} {rest : Bytes} {size upper : Nat} (good : Hex.half? high = some upper)
      (bad : Hex.half? low = none) (length : rest.length = 2 * size) :
    read (size + 1) (high :: low :: rest) = .error (.badDigit (Hex.charOfByte low) 1)
  pair {high low : UInt8} {rest : Bytes} {size upper lower : Nat}
      (first : Hex.half? high = some upper) (second : Hex.half? low = some lower)
      (length : rest.length = 2 * size) :
    read (size + 1) (high :: low :: rest) =
      ((read size rest).map (UInt8.ofNat (upper * 16 + lower) :: ·)).mapError (.behind 2)

/-- Both readers of a decoder go from pair to pair. -/
structure Lawful [HexDecoder] : Prop where
  decode : ReadsPairs fun _ => HexDecoder.decode
  fill : ReadsPairs HexDecoder.fill

end HexDecoder

namespace Hex

/-- The digits of a byte string, two for each byte. -/
def digits (bytes : Bytes) : List Char :=
  bytes.flatMap fun byte => [upperDigit (byte.toNat / 16), upperDigit (byte.toNat % 16)]

/-- The pairs of digits in the text are the halves of the bytes. -/
inductive Spells : List Char → Bytes → Prop
  | nil : Spells [] []
  | cons {c d : Char} {text : List Char} {byte : UInt8} {bytes : Bytes}
      (high : Numeral.digit? 16 c = some (byte.toNat / 16))
      (low : Numeral.digit? 16 d = some (byte.toNat % 16))
      (rest : Spells text bytes) : Spells (c :: d :: text) (byte :: bytes)

theorem digits_cons (byte : UInt8) (bytes : Bytes) :
    digits (byte :: bytes) =
      upperDigit (byte.toNat / 16) :: upperDigit (byte.toNat % 16) :: digits bytes := rfl

theorem div_lt_sixteen (byte : UInt8) : byte.toNat / 16 < 16 := by
  have := byte.toNat_lt
  omega

theorem mod_lt_sixteen (byte : UInt8) : byte.toNat % 16 < 16 :=
  Nat.mod_lt _ (by decide)

theorem numeral_digit?_upperDigit : ∀ n < 16, Numeral.digit? 16 (upperDigit n) = some n := by
  decide

/-- A digit is encoded as one byte, which is worth the same. -/
theorem exists_byte_of_digit? {c : Char} {value : Nat} (h : Numeral.digit? 16 c = some value) :
    ∃ byte, String.utf8EncodeChar c = [byte] ∧ half? byte = some value := by
  have hascii : c.toNat < 128 := Nat.lt_trans (Numeral.toNat_lt_of_digit? h) (by decide)
  have hbyte : (UInt8.ofNat c.toNat).toNat = c.toNat := by
    rw [UInt8.toNat_ofNat']
    omega
  refine ⟨UInt8.ofNat c.toNat, ?_, ?_⟩
  · have hshort : c.val.toNat ≤ 127 := Nat.le_of_lt_succ hascii
    simp only [String.utf8EncodeChar, hshort, if_true]
    rfl
  · rw [half?, charOfByte, hbyte, Char.ofNat_toNat, h]

theorem ofNat_halves (byte : UInt8) :
    UInt8.ofNat (byte.toNat / 16 * 16 + byte.toNat % 16) = byte := by
  rw [Nat.div_add_mod', UInt8.ofNat_toNat]

theorem spells_digits (bytes : Bytes) : Spells (digits bytes) bytes := by
  induction bytes with
  | nil => exact .nil
  | cons byte bytes ih =>
    rw [digits_cons]
    exact .cons (numeral_digit?_upperDigit _ (div_lt_sixteen byte))
      (numeral_digit?_upperDigit _ (mod_lt_sixteen byte)) ih

namespace Spells

variable {text tail : List Char} {bytes rest : Bytes}

theorem length_text (h : Spells text bytes) : text.length = 2 * bytes.length := by
  induction h with
  | nil => rfl
  | cons high low rest ih =>
    simp only [List.length_cons, ih]
    omega

theorem append (h : Spells text bytes) (htail : Spells tail rest) :
    Spells (text ++ tail) (bytes ++ rest) := by
  induction h with
  | nil => exact htail
  | cons high low _ ih => exact .cons high low ih

/-- Everything in such a text is a digit. -/
theorem exists_digit (h : Spells text bytes) {c : Char} (hc : c ∈ text) :
    ∃ value, Numeral.digit? 16 c = some value := by
  induction h with
  | nil => cases hc
  | cons high low _ ih =>
    rcases List.mem_cons.1 hc with rfl | hc
    · exact ⟨_, high⟩
    rcases List.mem_cons.1 hc with rfl | hc
    · exact ⟨_, low⟩
    · exact ih hc

/-- A text spells no more than one byte string. -/
theorem unique {other : Bytes} (h : Spells text bytes) (hother : Spells text other) :
    bytes = other := by
  induction h generalizing other with
  | nil =>
    cases hother with
    | nil => rfl
  | @cons _ _ _ byte _ high low _ ih =>
    cases hother with
    | @cons _ _ _ byte' _ high' low' rest' =>
      have hhigh := Option.some.inj (high.symm.trans high')
      have hlow := Option.some.inj (low.symm.trans low')
      have hbyte : byte = byte' := by
        rw [← ofNat_halves byte, hhigh, hlow, ofNat_halves]
      rw [hbyte, ih rest']

/-- Every digit is one byte of the encoded text. -/
theorem length_encode (h : Spells text bytes) :
    (Utf8.encode (String.ofList text)).length = 2 * bytes.length := by
  rw [Utf8.encode_ofList]
  induction h with
  | nil => rfl
  | cons high low _ ih =>
    obtain ⟨first, hfirst, -⟩ := exists_byte_of_digit? high
    obtain ⟨second, hsecond, -⟩ := exists_byte_of_digit? low
    rw [List.flatMap_cons, List.flatMap_cons, hfirst, hsecond, List.length_append,
      List.length_append, ih]
    simp only [List.length_cons, List.length_nil]
    omega

/-- A text that spells bytes is read as them, pair by pair. -/
theorem read_eq {read : Nat → Bytes → Except HexDecoder.Fault Bytes}
    (hread : HexDecoder.ReadsPairs read) (h : Spells text bytes) :
    read bytes.length (Utf8.encode (String.ofList text)) = .ok bytes := by
  induction h with
  | nil => rw [Utf8.encode_ofList_nil, List.length_nil, hread.nil]
  | @cons _ _ _ byte _ high low rest ih =>
    obtain ⟨first, hfirst, hhigh⟩ := exists_byte_of_digit? high
    obtain ⟨second, hsecond, hlow⟩ := exists_byte_of_digit? low
    have hlength := rest.length_encode
    rw [Utf8.encode_ofList] at hlength ih
    rw [Utf8.encode_ofList, List.flatMap_cons, List.flatMap_cons, hfirst, hsecond,
      List.singleton_append, List.singleton_append, List.length_cons, hread.pair hhigh hlow hlength,
      ih, ofNat_halves]
    rfl

section

variable [HexDecoder]

theorem decode_eq (hdecoder : HexDecoder.Lawful) (h : Spells text bytes) :
    decode (String.ofList text) = .ok bytes := by
  have heven : (Utf8.encode (String.ofList text)).length % 2 = 0 := by
    rw [h.length_encode, Nat.mul_mod_right]
  simp only [decode, heven, ne_eq, not_true_eq_false, if_false, h.read_eq hdecoder.decode]
  rfl

theorem decodeExact_eq (hdecoder : HexDecoder.Lawful) (h : Spells text bytes) :
    decodeExact bytes.length (String.ofList text) = .ok bytes := by
  simp only [decodeExact, h.length_encode, ne_eq, not_true_eq_false, if_false,
    h.read_eq hdecoder.fill]
  rfl

end

end Spells

theorem decode_digits [HexDecoder] (hdecoder : HexDecoder.Lawful) (bytes : Bytes) :
    decode (String.ofList (digits bytes)) = .ok bytes :=
  (spells_digits bytes).decode_eq hdecoder

/-- An even number of digits spells bytes, and these are the number that the digits write. -/
theorem exists_spells {value n : Nat} : ∀ {text : List Char}, text.length % 2 = 0 →
    Numeral.digitsFrom? 16 value text = some n →
    ∃ bytes : Bytes, Spells text bytes ∧
      bytes.foldl (fun value byte => value * 256 + byte.toNat) value = n
  | [], _, h => ⟨[], .nil, Option.some.inj h⟩
  | [_], hodd, _ => absurd hodd (by simp)
  | c :: d :: text, heven, h => by
    obtain ⟨high, hc, h⟩ := Numeral.exists_digit_of_digitsFrom? h
    obtain ⟨low, hd, h⟩ := Numeral.exists_digit_of_digitsFrom? h
    have hhigh := Numeral.lt_of_digit? hc
    have hlow := Numeral.lt_of_digit? hd
    have heven : text.length % 2 = 0 := by
      simp only [List.length_cons] at heven
      omega
    obtain ⟨bytes, hspells, hnumber⟩ := exists_spells heven h
    have hbyte : (UInt8.ofNat (high * 16 + low)).toNat = high * 16 + low := by
      rw [UInt8.toNat_ofNat']
      omega
    have hhalves : (high * 16 + low) / 16 = high ∧ (high * 16 + low) % 16 = low := by omega
    refine ⟨UInt8.ofNat (high * 16 + low) :: bytes, .cons ?_ ?_ hspells, ?_⟩
    · rw [hbyte, hhalves.1, hc]
    · rw [hbyte, hhalves.2, hd]
    · rw [List.foldl_cons, hbyte, ← hnumber]
      congr 1
      omega

theorem exists_of_mem_digits {bytes : Bytes} {c : Char} (h : c ∈ digits bytes) :
    ∃ n < 16, c = upperDigit n := by
  obtain ⟨byte, -, hc⟩ := List.mem_flatMap.1 h
  rcases List.mem_cons.1 hc with rfl | hc
  · exact ⟨_, div_lt_sixteen byte, rfl⟩
  · exact ⟨_, mod_lt_sixteen byte, List.mem_singleton.1 hc⟩

end Hex

end TunnelFirewall
