import TunnelFirewall.Proofs.Tls.Grammar
import TunnelFirewall.Proofs.Tls.Record

/-!
# Lengths that are too large

Five lengths enclose the name of a client hello that ends with it. If one of them is larger than the
block behind it, a look finds no name but the error that goes with this length: a length is held
against what is left of the block around it before anything behind it is read.
-/
namespace TunnelFirewall

namespace Bytes

/-- A vector behind a length that need not be its own. -/
def declare (length : Nat) (vector : Bytes) : Bytes := ofWord length ++ vector

theorem length_declare (length : Nat) (vector : Bytes) :
    (vector.declare length).length = vector.length + 2 := by
  simp [declare, ofWord]

theorem length_behind16 (vector : Bytes) : vector.behind16.length = vector.length + 2 :=
  length_declare vector.length vector

theorem declare_eq_behind16 {length : Nat} {vector : Bytes} (h : length = vector.length) :
    vector.declare length = vector.behind16 ++ [] := by
  rw [h, List.append_nil]
  rfl

end Bytes

namespace Tls

/-- The lengths that enclose the name, from the outermost to the innermost. -/
inductive EnclosingLength
  | record
  | extensions
  | serverName
  | names
  | name
deriving DecidableEq

namespace NamedHello

/-- The length of the block that a field announces. -/
def length (h : NamedHello) : EnclosingLength → Nat
  | .record => h.content.length
  | .extensions => h.block.length
  | .serverName => h.serverName.length
  | .names => h.names.length
  | .name => (Utf8.encode h.name).length

/-! The blocks of a hello with any numbers in place of the five lengths. -/

def namesWith (h : NamedHello) (length : EnclosingLength → Nat) : Bytes :=
  h.entries.flatMap NameEntry.bytes ++
    0 :: ((Utf8.encode h.name).declare (length .name) ++ h.afterName)

def serverNameWith (h : NamedHello) (length : EnclosingLength → Nat) : Bytes :=
  (h.namesWith length).declare (length .names) ++ h.afterNames

def blockWith (h : NamedHello) (length : EnclosingLength → Nat) : Bytes :=
  h.extensions.flatMap HelloExtension.bytes ++
    (Bytes.ofWord 0 ++ (h.serverNameWith length).declare (length .serverName) ++ h.afterExtension)

def contentWith (h : NamedHello) (length : EnclosingLength → Nat) : Bytes :=
  1 :: (h.fixed ++ (h.sessionId.behind8 ++ (h.cipherSuites.behind16 ++
    (h.compression.behind8 ++
      ((h.blockWith length).declare (length .extensions) ++ h.afterExtensions)))))

def bytesWith (h : NamedHello) (length : EnclosingLength → Nat) : Bytes :=
  handshakeType :: h.major :: h.minor ::
    ((h.contentWith length).declare (length .record) ++ h.afterRecord)

/-- The lengths of the blocks, but another number for one of them. -/
def lengthReplaced (h : NamedHello) (field : EnclosingLength) (value : Nat) :
    EnclosingLength → Nat :=
  fun other => if other = field then value else h.length other

/-- The hello with one of the five lengths replaced. -/
def bytesReplaced (h : NamedHello) (field : EnclosingLength) (value : Nat) : Bytes :=
  h.bytesWith (h.lengthReplaced field value)

/-- Nothing stands behind the name, at any level. -/
structure EndsWithName (h : NamedHello) : Prop where
  name : h.afterName = []
  names : h.afterNames = []
  extension : h.afterExtension = []
  extensions : h.afterExtensions = []
  record : h.afterRecord = []

end NamedHello

/-- What a look finds if a length is larger than the block behind it. -/
def EnclosingLength.overrun (value : Nat) : EnclosingLength → RejectReason
  | .record => .truncated
  | .extensions => .extensionsOverrun
  | .serverName | .names => .extensionOverrun
  | .name => if maxHostnameLength < value then .hostnameTooLong else .truncated

section Refusals

variable {length : Nat} {vector : Bytes}

theorem split?_word_eq_none (hlong : vector.length < length) (hlt : length < 65536) :
    Bytes.split? (Bytes.word (UInt8.ofNat (length / 256)) (UInt8.ofNat length)) vector = none := by
  rw [Bytes.word_ofNat hlt]
  exact Bytes.split?_eq_none_iff.2 hlong

theorem ofRecord_declare (hlong : vector.length < length) (hlt : length < 65536) :
    ofRecord (vector.declare length) = .rejected .truncated := by
  simp only [Bytes.declare, Bytes.ofWord, List.cons_append, List.nil_append, ofRecord,
    Bytes.vector16?, split?_word_eq_none hlong hlt]

theorem ofHelloTail_declare (hlong : vector.length < length) (hlt : length < 65536) :
    ofHelloTail (vector.declare length) = .rejected .extensionsOverrun := by
  have hne : Bytes.word (UInt8.ofNat (length / 256)) (UInt8.ofNat length) ≠ 0 := by
    rw [Bytes.word_ofNat hlt]
    omega
  simp only [Bytes.declare, Bytes.ofWord, List.cons_append, List.nil_append, ofHelloTail,
    if_neg hne, split?_word_eq_none hlong hlt]

theorem ofExtensions_declare (hlong : vector.length < length) (hlt : length < 65536) :
    ofExtensions (Bytes.ofWord 0 ++ vector.declare length) = .rejected .extensionOverrun := by
  simp only [Bytes.declare, Bytes.ofWord, List.cons_append, List.nil_append]
  rw [ofExtensions]
  simp only [Bytes.word_ofNat hlt, if_neg (Nat.not_le.2 hlong)]

theorem ofServerName_declare (hlong : vector.length < length) (hlt : length < 65536) :
    ofServerName (vector.declare length) = .rejected .extensionOverrun := by
  simp only [Bytes.declare, Bytes.ofWord, List.cons_append, List.nil_append, ofServerName,
    split?_word_eq_none hlong hlt]

theorem ofNames_declare (hlong : vector.length < length) (hlt : length < 65536) :
    ofNames (0 :: vector.declare length) =
      .rejected (if maxHostnameLength < length then .hostnameTooLong else .truncated) := by
  simp only [Bytes.declare, Bytes.ofWord, List.cons_append, List.nil_append]
  rw [ofNames]
  simp only [Bytes.word_ofNat hlt, ne_eq, not_true_eq_false, if_false,
    if_neg (Nat.not_le.2 hlong)]
  split <;> rfl

end Refusals

namespace NamedHello

variable {h : NamedHello} {length : EnclosingLength → Nat}

/-! A number takes the place of a length byte for byte, so the blocks keep their lengths. -/

theorem length_namesWith : (h.namesWith length).length = h.names.length := by
  simp only [namesWith, names, List.length_append, List.length_cons, Bytes.length_declare,
    Bytes.length_behind16]

theorem length_serverNameWith : (h.serverNameWith length).length = h.serverName.length := by
  simp only [serverNameWith, serverName, List.length_append, Bytes.length_declare,
    Bytes.length_behind16, length_namesWith]

theorem length_blockWith : (h.blockWith length).length = h.block.length := by
  simp only [blockWith, block, List.length_append, Bytes.length_declare, Bytes.length_behind16,
    length_serverNameWith]

theorem length_contentWith : (h.contentWith length).length = h.content.length := by
  simp only [contentWith, content, List.length_append, List.length_cons, Bytes.length_declare,
    Bytes.length_behind16, length_blockWith]

/-! A look gets through a block whose length is its own, whatever the lengths inside. -/

theorem WellFormed.inspect_bytesWith (wf : h.WellFormed) (last : h.EndsWithName)
    (hrecord : length .record = h.content.length) (cached : Option String) :
    inspect (h.bytesWith length) cached =
      ofHelloTail ((h.blockWith length).declare (length .extensions)) := by
  have hvector : Bytes.vector16? ((h.contentWith length).declare (length .record)) =
      some (h.contentWith length, []) := by
    have hlt : (h.contentWith length).length < 65536 := length_contentWith ▸ wf.content
    rw [Bytes.declare_eq_behind16 (hrecord.trans length_contentWith.symm)]
    exact Bytes.vector16?_eq_some_iff.2 ⟨rfl, hlt⟩
  have hfields := skipHelloFields?_eq_some_iff.2 ⟨h.fixed, h.sessionId, h.cipherSuites,
    h.compression, wf.fixed, wf.sessionId, wf.cipherSuites, wf.compression,
    Eq.refl (h.fixed ++ (h.sessionId.behind8 ++ (h.cipherSuites.behind16 ++
      (h.compression.behind8 ++ (h.blockWith length).declare (length .extensions)))))⟩
  rw [bytesWith, handshakeType, inspect_handshake wf.major, List.drop_one, List.tail_cons,
    last.record, List.append_nil, ofRecord, hvector]
  simp only [contentWith, last.extensions, List.append_nil, ofHandshake, ne_eq, not_true_eq_false,
    if_false, hfields]

theorem WellFormed.ofHelloTail_blockWith (wf : h.WellFormed) (last : h.EndsWithName)
    (hextensions : length .extensions = h.block.length) :
    ofHelloTail ((h.blockWith length).declare (length .extensions)) =
      ofExtensions (Bytes.ofWord 0 ++
        (h.serverNameWith length).declare (length .serverName)) := by
  have hne : h.blockWith length ≠ [] := by simp [blockWith, Bytes.ofWord]
  have hlt : (h.blockWith length).length < 65536 := length_blockWith ▸ wf.block
  rw [Bytes.declare_eq_behind16 (hextensions.trans length_blockWith.symm),
    ofHelloTail_behind16_append hne hlt, blockWith, ofExtensions_extensions_append wf.extensions,
    last.extension, List.append_nil]

theorem WellFormed.ofExtensions_serverNameWith (wf : h.WellFormed) (last : h.EndsWithName)
    (hserverName : length .serverName = h.serverName.length) :
    ofExtensions (Bytes.ofWord 0 ++ (h.serverNameWith length).declare (length .serverName)) =
      ofServerName ((h.namesWith length).declare (length .names)) := by
  have hlt : (h.serverNameWith length).length < 65536 := length_serverNameWith ▸ wf.serverName
  rw [Bytes.declare_eq_behind16 (hserverName.trans length_serverNameWith.symm),
    ← List.append_assoc, ofExtensions_serverName_append hlt, serverNameWith, last.names,
    List.append_nil]

theorem WellFormed.ofServerName_namesWith (wf : h.WellFormed) (last : h.EndsWithName)
    (hnames : length .names = h.names.length) :
    ofServerName ((h.namesWith length).declare (length .names)) =
      ofNames (0 :: (Utf8.encode h.name).declare (length .name)) := by
  have hlt : (h.namesWith length).length < 65536 := length_namesWith ▸ wf.names
  rw [Bytes.declare_eq_behind16 (hnames.trans length_namesWith.symm),
    ofServerName_behind16_append hlt, namesWith, ofNames_entries_append wf.entries, last.name,
    List.append_nil]

/-- If every other length is right, a look gets to the one that is too large and no further. -/
theorem WellFormed.inspect_overrun (wf : h.WellFormed) (last : h.EndsWithName)
    {field : EnclosingLength} (hlong : h.length field < length field)
    (hlt : length field < 65536) (hother : ∀ other, other ≠ field → length other = h.length other)
    (cached : Option String) :
    inspect (h.bytesWith length) cached = .rejected (field.overrun (length field)) := by
  cases field with
  | record =>
    have hcontent : (h.contentWith length).length < length .record := length_contentWith ▸ hlong
    rw [bytesWith, handshakeType, inspect_handshake wf.major, List.drop_one, List.tail_cons,
      last.record, List.append_nil]
    exact ofRecord_declare hcontent hlt
  | extensions =>
    have hblock : (h.blockWith length).length < length .extensions := length_blockWith ▸ hlong
    rw [wf.inspect_bytesWith last (hother .record nofun)]
    exact ofHelloTail_declare hblock hlt
  | serverName =>
    have hbody : (h.serverNameWith length).length < length .serverName :=
      length_serverNameWith ▸ hlong
    rw [wf.inspect_bytesWith last (hother .record nofun),
      wf.ofHelloTail_blockWith last (hother .extensions nofun)]
    exact ofExtensions_declare hbody hlt
  | names =>
    have hnames : (h.namesWith length).length < length .names := length_namesWith ▸ hlong
    rw [wf.inspect_bytesWith last (hother .record nofun),
      wf.ofHelloTail_blockWith last (hother .extensions nofun),
      wf.ofExtensions_serverNameWith last (hother .serverName nofun)]
    exact ofServerName_declare hnames hlt
  | name =>
    rw [wf.inspect_bytesWith last (hother .record nofun),
      wf.ofHelloTail_blockWith last (hother .extensions nofun),
      wf.ofExtensions_serverNameWith last (hother .serverName nofun),
      wf.ofServerName_namesWith last (hother .names nofun)]
    exact ofNames_declare hlong hlt

theorem WellFormed.inspect_bytes (wf : h.WellFormed) (last : h.EndsWithName)
    (cached : Option String) : inspect h.bytes cached = .hostname h.name := by
  have hname : h.length .name = (Utf8.encode h.name).length := rfl
  calc inspect h.bytes cached
    _ = inspect (h.bytesWith h.length) cached := rfl
    _ = ofNames (0 :: (Utf8.encode h.name).declare (h.length .name)) := by
      rw [wf.inspect_bytesWith last rfl, wf.ofHelloTail_blockWith last rfl,
        wf.ofExtensions_serverNameWith last rfl, wf.ofServerName_namesWith last rfl]
    _ = ofName (Utf8.encode h.name) := by
      rw [Bytes.declare_eq_behind16 hname, ofNames_hostname_append wf.name_le]
    _ = .hostname h.name := ofName_eq_hostname_iff.2 ⟨rfl, wf.name_pos⟩

/-- In a hello that ends with its name, a look finds the name. With one length larger than the block
behind it, the look finds no name but the error that goes with this length. -/
theorem inspect_bytesReplaced (h : NamedHello) (wf : h.WellFormed) (last : h.EndsWithName)
    (cached : Option String) :
    inspect h.bytes cached = .hostname h.name ∧
      ∀ (field : EnclosingLength) (value : Nat), h.length field < value → value < 65536 →
        inspect (h.bytesReplaced field value) cached = .rejected (field.overrun value) := by
  refine ⟨wf.inspect_bytes last cached, ?_⟩
  intro field value hlong hlt
  have hfield : h.lengthReplaced field value field = value := if_pos rfl
  have hother : ∀ other, other ≠ field → h.lengthReplaced field value other = h.length other :=
    fun other hne => if_neg hne
  rw [← hfield] at hlong hlt
  have hread := wf.inspect_overrun last hlong hlt hother cached
  rwa [hfield] at hread

/-- A hello that names the server `a` and holds nothing else. -/
def short : NamedHello :=
  ⟨3, 1, List.replicate 37 0, [], [], [], [], [], "a", [], [], [], [], []⟩

/-- A name of 256 bytes would be too long to be one, and the list around it has no room for
another byte. -/
theorem inspect_bytesReplaced_short :
    inspect short.bytes none = .hostname "a" ∧
      inspect (short.bytesReplaced .name 256) none = .rejected .hostnameTooLong ∧
      inspect (short.bytesReplaced .name 255) none = .rejected .truncated ∧
      inspect (short.bytesReplaced .names 5) none = .rejected .extensionOverrun := by
  have wf : short.WellFormed :=
    ⟨by decide, rfl, by decide, by decide, by decide, nofun, nofun, by decide +kernel,
      by decide +kernel, by decide +kernel, by decide +kernel, by decide +kernel,
      by decide +kernel⟩
  have last : short.EndsWithName := ⟨rfl, rfl, rfl, rfl, rfl⟩
  obtain ⟨hname, hreplaced⟩ := inspect_bytesReplaced short wf last none
  exact ⟨hname, hreplaced .name 256 (by decide +kernel) (by decide),
    hreplaced .name 255 (by decide +kernel) (by decide),
    hreplaced .names 5 (by decide +kernel) (by decide)⟩

end NamedHello

end Tls

end TunnelFirewall
