import TunnelFirewall.Text.Utf8

/-!
# Encoded texts

Strict decoding inverts encoding, and the structural check lets every encoded text through, so it
refuses nothing that decoding would have accepted.
-/
namespace TunnelFirewall

/-- What holds of every number below 256 holds of every byte. -/
theorem Bytes.forall_byte {property : UInt8 → Prop} (h : ∀ n < 256, property (UInt8.ofNat n))
    (byte : UInt8) : property byte := by
  have hbyte := h byte.toNat byte.toNat_lt
  rwa [UInt8.ofNat_toNat] at hbyte

namespace Utf8

/-- Reading a byte array from position `i` on puts its other bytes behind those read before. -/
theorem loop_eq_append_drop (bytes : ByteArray) (i : Nat) (read : List UInt8) :
    ByteArray.toList.loop bytes i read = read.reverse ++ bytes.data.toList.drop i := by
  fun_induction ByteArray.toList.loop bytes i read with
  | case1 i read more ih =>
    have hsplit : bytes.data.toList.drop i = bytes.get! i :: bytes.data.toList.drop (i + 1) := by
      rw [List.drop_eq_getElem_cons (i := i) more]
      exact congrArg (· :: _) (getElem!_pos bytes.data i more).symm
    rw [ih, hsplit, List.reverse_cons, List.append_assoc, List.singleton_append]
  | case2 i read done =>
    have hdrop : bytes.data.toList.drop i = [] := List.drop_eq_nil_of_le (Nat.le_of_not_lt done)
    rw [hdrop, List.append_nil]

theorem encode_eq_data (text : String) : encode text = text.toByteArray.data.toList := by
  simp [encode, ByteArray.toList, loop_eq_append_drop]

theorem encode_eq_flatMap (text : String) :
    encode text = text.toList.flatMap String.utf8EncodeChar := by
  have h : text.toByteArray = (text.toList.flatMap String.utf8EncodeChar).toByteArray := by
    have := congrArg String.toByteArray (String.ofList_toList (s := text))
    exact this.symm
  rw [encode_eq_data, h, List.toList_data_toByteArray]

/-- Decoding gives a text back from its encoding and from nothing else. -/
theorem decode?_eq_some_iff {bytes : Bytes} {text : String} :
    decode? bytes = some text ↔ bytes = encode text := by
  unfold decode? String.fromUTF8?
  rw [encode_eq_data]
  constructor
  · intro h
    split at h
    · cases h
      rfl
    · cases h
  · rintro rfl
    have hvalid : ByteArray.IsValidUTF8 ⟨text.toByteArray.data.toList.toArray⟩ := text.isValidUTF8
    rw [dif_pos hvalid]
    rfl

theorem isContinuation_low : ∀ n < 64, isContinuation (UInt8.ofNat (n + 0x80)) := by decide

theorem continuationCount?_ascii : ∀ n < 128, continuationCount? (UInt8.ofNat n) = some 0 := by
  decide

theorem continuationCount?_two :
    ∀ n < 32, continuationCount? (UInt8.ofNat (n + 0xC0)) = some 1 := by decide

theorem continuationCount?_three :
    ∀ n < 16, continuationCount? (UInt8.ofNat (n + 0xE0)) = some 2 := by
  decide

theorem continuationCount?_four :
    ∀ n < 8, continuationCount? (UInt8.ofNat (n + 0xF0)) = some 3 := by
  decide

/-- An encoded character is a lead byte with the continuation bytes that it announces. -/
theorem isStructural_encodeChar_append (c : Char) (rest : Bytes) :
    isStructural (String.utf8EncodeChar c ++ rest) = isStructural rest := by
  have low (n : Nat) : isContinuation (UInt8.ofNat (n % 64 + 0x80)) :=
    isContinuation_low _ (Nat.mod_lt _ (by decide))
  unfold String.utf8EncodeChar isStructural
  dsimp only
  split
  · have hlead := continuationCount?_ascii c.val.toNat (by omega)
    simp only [List.singleton_append, isStructuralAfter, hlead]
  split
  · have hlead := continuationCount?_two (c.val.toNat / 64 % 32) (Nat.mod_lt _ (by decide))
    simp only [List.cons_append, List.nil_append, isStructuralAfter, hlead, low, Bool.true_and]
  split
  · have hlead := continuationCount?_three (c.val.toNat / 4096 % 16) (Nat.mod_lt _ (by decide))
    simp only [List.cons_append, List.nil_append, isStructuralAfter, hlead, low, Bool.true_and]
  · have hlead := continuationCount?_four (c.val.toNat / 262144 % 8) (Nat.mod_lt _ (by decide))
    simp only [List.cons_append, List.nil_append, isStructuralAfter, hlead, low, Bool.true_and]

/-- Every encoded text passes the structural check. -/
theorem isStructural_encode (text : String) : isStructural (encode text) := by
  rw [encode_eq_flatMap]
  induction text.toList with
  | nil => rfl
  | cons c rest ih => rw [List.flatMap_cons, isStructural_encodeChar_append, ih]

end Utf8

end TunnelFirewall
