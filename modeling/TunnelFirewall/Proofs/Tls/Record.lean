import TunnelFirewall.Proofs.Tls.Hello

/-!
# The bounds of a handshake record

A look at a handshake record depends on the content that its length announces, and on nothing
behind it. As long as a byte of the content is missing, the look finds the record truncated.
-/
namespace TunnelFirewall

namespace Bytes

variable {high low : UInt8} {content : Bytes}

theorem vector16?_append (hlength : content.length = word high low) (rest : Bytes) :
    vector16? (high :: low :: (content ++ rest)) = some (content, rest) := by
  rw [vector16?, ← hlength]
  exact split?_eq_some_iff.2 ⟨rfl, rfl⟩

/-- A vector that breaks off in its length or in its content cannot be read. -/
theorem vector16?_eq_none_of_append {front missing : Bytes}
    (hlength : content.length = word high low) (hmissing : missing ≠ [])
    (h : front ++ missing = high :: low :: content) : vector16? front = none := by
  match front with
  | [] => rfl
  | [_] => rfl
  | first :: second :: rest =>
    simp only [List.cons_append, List.cons.injEq] at h
    obtain ⟨rfl, rfl, hcontent⟩ := h
    have hpos : 0 < missing.length := List.length_pos_iff.2 hmissing
    have htotal : rest.length + missing.length = content.length := by
      rw [← hcontent, List.length_append]
    rw [vector16?, split?_eq_none_iff]
    omega

end Bytes

namespace Tls

variable {record part : Bytes} {major : UInt8}

/-- A handshake record of a version that has server names, exactly as long as it says. -/
def IsHandshakeRecord (record : Bytes) : Prop :=
  ∃ (major minor high low : UInt8) (content : Bytes),
    record = 22 :: major :: minor :: high :: low :: content ∧ 3 ≤ major ∧
      content.length = Bytes.word high low

/-- A handshake record is judged by what follows its type and version, whatever is cached. -/
theorem inspect_handshake (hmajor : 3 ≤ major) (rest : Bytes) (cached : Option String) :
    inspect (22 :: major :: rest) cached = ofRecord (rest.drop 1) := by
  have hold : isOldHello (22 :: major :: rest) = false := by
    cases rest with
    | nil => rfl
    | cons minor rest => rfl
  have htype : ¬((22 : UInt8) < 20 ∨ 24 < (22 : UInt8)) := by decide
  have hhandshake : (22 : UInt8) = handshakeType := rfl
  simp only [inspect, hold, Bool.false_eq_true, if_false, if_neg htype,
    if_neg (UInt8.not_lt.2 hmajor), if_pos hhandshake]

theorem inspect_append_of_isHandshakeRecord (h : IsHandshakeRecord record) (suffix : Bytes)
    (cached other : Option String) :
    inspect (record ++ suffix) cached = inspect record other := by
  obtain ⟨major, minor, high, low, content, rfl, hmajor, hlength⟩ := h
  have hpadded : Bytes.vector16? (high :: low :: (content ++ suffix)) = some (content, suffix) :=
    Bytes.vector16?_append hlength suffix
  have halone : Bytes.vector16? (high :: low :: content) = some (content, []) := by
    simpa using Bytes.vector16?_append hlength []
  simp only [List.cons_append]
  rw [inspect_handshake hmajor, inspect_handshake hmajor, List.drop_one, List.tail_cons,
    List.drop_one, List.tail_cons, ofRecord, ofRecord, hpadded, halone]

theorem inspect_of_part (h : IsHandshakeRecord record) (hpart : part <+: record) (hne : part ≠ [])
    (hstrict : part ≠ record) (cached : Option String) :
    inspect part cached = .rejected .truncated := by
  obtain ⟨major, minor, high, low, content, rfl, hmajor, hlength⟩ := h
  obtain ⟨missing, hmissing⟩ := hpart
  have hmore : missing ≠ [] := by
    rintro rfl
    exact hstrict (by simpa using hmissing)
  match part with
  | [] => exact absurd rfl hne
  | [type] =>
    obtain ⟨rfl, -⟩ := List.cons.inj hmissing
    rfl
  | type :: first :: rest =>
    simp only [List.cons_append, List.cons.injEq] at hmissing
    obtain ⟨rfl, rfl, hrest⟩ := hmissing
    have hnone : Bytes.vector16? (rest.drop 1) = none := by
      cases rest with
      | nil => rfl
      | cons second rest =>
        obtain ⟨-, hcontent⟩ := List.cons.inj hrest
        exact Bytes.vector16?_eq_none_of_append hlength hmore hcontent
    rw [inspect_handshake hmajor, ofRecord, hnone]

/-- What stands behind a handshake record and the name that is cached change nothing about what a
look finds, and a look at no more than a part of the record, cut off anywhere, finds it
truncated. -/
theorem inspect_within_record (record : Bytes) (h : IsHandshakeRecord record) :
    (∀ (suffix : Bytes) (cached other : Option String),
      inspect (record ++ suffix) cached = inspect record other) ∧
    ∀ part : Bytes, part <+: record → part ≠ [] → part ≠ record → ∀ cached : Option String,
      inspect part cached = .rejected .truncated := by
  refine ⟨inspect_append_of_isHandshakeRecord h, ?_⟩
  intro part hpart hne hstrict cached
  exact inspect_of_part h hpart hne hstrict cached

/-- A record whose hello names the server `a`. -/
def shortRecord : Bytes :=
  [22, 3, 1, 0, 54, 1] ++ List.replicate 37 0 ++ [0, 0, 0, 0, 0, 10, 0, 0, 0, 6, 0, 4, 0, 0, 1, 97]

/-- The name is found in front of another record, and is not found while its last byte is
missing. -/
theorem inspect_within_record_short :
    IsHandshakeRecord shortRecord ∧
      inspect (shortRecord ++ shortRecord) (some "b") = .hostname "a" ∧
      shortRecord.take 58 <+: shortRecord ∧ shortRecord.take 58 ≠ [] ∧
      shortRecord.take 58 ≠ shortRecord ∧
      inspect (shortRecord.take 58) none = .rejected .truncated := by
  have h : IsHandshakeRecord shortRecord :=
    ⟨3, 1, 0, 54, shortRecord.drop 5, rfl, by decide, rfl⟩
  have hname : inspect shortRecord none = .hostname "a" := by decide +kernel
  have hpart : shortRecord.take 58 <+: shortRecord := List.take_prefix 58 shortRecord
  have hne : shortRecord.take 58 ≠ [] := by decide
  have hstrict : shortRecord.take 58 ≠ shortRecord := by decide
  refine ⟨h, ?_, hpart, hne, hstrict, ?_⟩
  · exact ((inspect_within_record shortRecord h).1 shortRecord (some "b") none).trans hname
  · exact (inspect_within_record shortRecord h).2 _ hpart hne hstrict none

end Tls

end TunnelFirewall
