import TunnelFirewall.Proofs.Bytes.Position
import TunnelFirewall.Proofs.Text.Utf8
import TunnelFirewall.Tls.ClientHello

/-!
# Client hellos with a server name

What a record consists of that names a server: the parts that the reader passes over, the parts
it reads, and the bytes it never looks at. The bytes of such a record are written out part by
part, every block behind its length.
-/
namespace TunnelFirewall

namespace Bytes

/-- A vector behind its length in one byte. -/
def behind8 (vector : Bytes) : Bytes := UInt8.ofNat vector.length :: vector

/-- A vector behind its length in two bytes. -/
def behind16 (vector : Bytes) : Bytes := ofWord vector.length ++ vector

theorem split?_append (front back : Bytes) :
    split? front.length (front ++ back) = some (front, back) :=
  split?_eq_some_iff.2 ⟨rfl, rfl⟩

theorem vector8?_eq_some_iff {bytes vector back : Bytes} :
    vector8? bytes = some (vector, back) ↔
      bytes = behind8 vector ++ back ∧ vector.length < 256 := by
  cases bytes with
  | nil => simp [vector8?, behind8]
  | cons length rest =>
    rw [vector8?, split?_eq_some_iff]
    constructor
    · rintro ⟨rfl, hlength⟩
      rw [behind8, hlength, UInt8.ofNat_toNat]
      exact ⟨rfl, length.toNat_lt⟩
    · rintro ⟨hbytes, hlt⟩
      simp only [behind8, List.cons_append, List.cons.injEq] at hbytes
      obtain ⟨rfl, rfl⟩ := hbytes
      refine ⟨rfl, ?_⟩
      rw [UInt8.toNat_ofNat', Nat.mod_eq_of_lt hlt]

/-- Two length bytes spell a length exactly if they are that length, written. -/
theorem cons_cons_eq_ofWord_append_iff {high low : UInt8} {n : Nat} {rest back : Bytes} :
    high :: low :: rest = ofWord n ++ back ∧ n < 65536 ↔ word high low = n ∧ rest = back := by
  constructor
  · rintro ⟨hbytes, hlt⟩
    simp only [ofWord, List.cons_append, List.nil_append, List.cons.injEq] at hbytes
    obtain ⟨rfl, rfl, rfl⟩ := hbytes
    exact ⟨word_ofNat hlt, rfl⟩
  · rintro ⟨rfl, rfl⟩
    rw [ofWord_word]
    exact ⟨rfl, word_lt high low⟩

theorem vector16?_eq_some_iff {bytes vector back : Bytes} :
    vector16? bytes = some (vector, back) ↔
      bytes = behind16 vector ++ back ∧ vector.length < 65536 := by
  match bytes with
  | [] => simp [vector16?, behind16, ofWord]
  | [_] => simp [vector16?, behind16, ofWord]
  | high :: low :: rest =>
    rw [vector16?, split?_eq_some_iff, behind16, List.append_assoc,
      cons_cons_eq_ofWord_append_iff, and_comm, eq_comm (a := vector.length)]

end Bytes

namespace Tls

/-- An extension of a client hello. -/
structure HelloExtension where
  type : Nat
  body : Bytes

/-- An extension as it is written. -/
def HelloExtension.bytes (e : HelloExtension) : Bytes := Bytes.ofWord e.type ++ e.body.behind16

/-- An entry in a list of names. -/
structure NameEntry where
  type : UInt8
  body : Bytes

/-- An entry as it is written. -/
def NameEntry.bytes (e : NameEntry) : Bytes := e.type :: e.body.behind16

/-- The parts of a TCP payload whose client hello names a server. -/
structure NamedHello where
  major : UInt8
  minor : UInt8
  /-- Length of the message, version and random. -/
  fixed : Bytes
  sessionId : Bytes
  cipherSuites : Bytes
  compression : Bytes
  /-- The extensions in front of the one with the name. -/
  extensions : List HelloExtension
  /-- The entries in front of the name. -/
  entries : List NameEntry
  name : String
  afterName : Bytes
  afterNames : Bytes
  afterExtension : Bytes
  afterExtensions : Bytes
  afterRecord : Bytes

namespace NamedHello

/-- The list of names. -/
def names (h : NamedHello) : Bytes :=
  h.entries.flatMap NameEntry.bytes ++ 0 :: ((Utf8.encode h.name).behind16 ++ h.afterName)

/-- The body of the server name extension. -/
def serverName (h : NamedHello) : Bytes := h.names.behind16 ++ h.afterNames

/-- The extensions block. -/
def block (h : NamedHello) : Bytes :=
  h.extensions.flatMap HelloExtension.bytes ++
    (Bytes.ofWord 0 ++ h.serverName.behind16 ++ h.afterExtension)

/-- The content of the record. -/
def content (h : NamedHello) : Bytes :=
  1 :: (h.fixed ++ (h.sessionId.behind8 ++ (h.cipherSuites.behind16 ++
    (h.compression.behind8 ++ (h.block.behind16 ++ h.afterExtensions)))))

/-- The whole payload. -/
def bytes (h : NamedHello) : Bytes :=
  handshakeType :: h.major :: h.minor :: (h.content.behind16 ++ h.afterRecord)

/-- Every part fits behind the length in front of it, no part that is passed over looks like the
one that is read, and the name is neither empty nor too long. -/
structure WellFormed (h : NamedHello) : Prop where
  major : 3 ≤ h.major
  fixed : h.fixed.length = 37
  sessionId : h.sessionId.length < 256
  cipherSuites : h.cipherSuites.length < 65536
  compression : h.compression.length < 256
  extensions : ∀ e ∈ h.extensions, e.type ≠ 0 ∧ e.type < 65536 ∧ e.body.length < 65536
  entries : ∀ e ∈ h.entries, e.type ≠ 0 ∧ e.body.length < 65536
  name_pos : 0 < (Utf8.encode h.name).length
  name_le : (Utf8.encode h.name).length ≤ maxHostnameLength
  names : h.names.length < 65536
  serverName : h.serverName.length < 65536
  block : h.block.length < 65536
  content : h.content.length < 65536

end NamedHello

end Tls

end TunnelFirewall
