/-!
# Cutting byte strings

A packet, a TLS record or a table is a list of bytes. This module cuts such a list after a
counted number of bytes, reads big-endian numbers, and takes off length-prefixed vectors. A
cut that runs past the end fails and gives nothing.
-/
namespace TunnelFirewall

abbrev Bytes := List UInt8

namespace Bytes

/-- The number that a byte string spells, most significant byte first. -/
def bigEndian (bytes : Bytes) : Nat :=
  bytes.foldl (fun value byte => value * 256 + byte.toNat) 0

/-- Two bytes as one number, most significant first. -/
def word (high low : UInt8) : Nat :=
  high.toNat * 256 + low.toNat

theorem word_lt (high low : UInt8) : word high low < 65536 := by
  have := high.toNat_lt
  have := low.toNat_lt
  unfold word
  omega

/-- The first `n` bytes and what follows them, if there are that many. -/
def split? (n : Nat) (bytes : Bytes) : Option (Bytes × Bytes) :=
  if n ≤ bytes.length then some (bytes.take n, bytes.drop n) else none

theorem split?_eq_some_iff {n : Nat} {bytes front back : Bytes} :
    split? n bytes = some (front, back) ↔ bytes = front ++ back ∧ front.length = n := by
  unfold split?
  constructor
  · intro h
    split at h
    · rename_i hn
      simp only [Option.some.injEq, Prod.mk.injEq] at h
      obtain ⟨rfl, rfl⟩ := h
      exact ⟨(List.take_append_drop n bytes).symm, by simp [hn]⟩
    · simp at h
  · rintro ⟨rfl, rfl⟩
    simp

theorem split?_eq_none_iff {n : Nat} {bytes : Bytes} :
    split? n bytes = none ↔ bytes.length < n := by
  unfold split?
  split <;> simp <;> omega

/-- A vector behind a one-byte length, and what follows it. -/
def vector8? : Bytes → Option (Bytes × Bytes)
  | [] => none
  | length :: rest => split? length.toNat rest

/-- A vector behind a two-byte length, and what follows it. -/
def vector16? : Bytes → Option (Bytes × Bytes)
  | high :: low :: rest => split? (word high low) rest
  | _ => none

end Bytes

end TunnelFirewall
