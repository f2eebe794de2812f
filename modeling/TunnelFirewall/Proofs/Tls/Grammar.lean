import TunnelFirewall.Proofs.Tls.Hello

/-!
# The grammar of client hellos with a server name

A look at a payload finds a server name exactly if the payload is a handshake record whose client
hello has that name as the first of type zero in its first extension of type zero. Each level of
the record has its own equivalence, and the levels compose.
-/
namespace TunnelFirewall.Tls

variable {name : String} {bytes names block : Bytes}

theorem ofName_eq_hostname_iff :
    ofName bytes = .hostname name ↔ bytes = Utf8.encode name ∧ 0 < bytes.length := by
  unfold ofName
  constructor
  · intro h
    split at h
    · cases h
    rename_i hne
    split at h
    · cases h
    split at h
    · rename_i text htext
      cases h
      exact ⟨Utf8.decode?_eq_some_iff.1 htext, List.length_pos_iff.2 hne⟩
    · cases h
  · rintro ⟨rfl, hpos⟩
    have hdecode : Utf8.decode? (Utf8.encode name) = some name := Utf8.decode?_eq_some_iff.2 rfl
    simp [List.length_pos_iff.1 hpos, Utf8.isStructural_encode, hdecode]

/-- An entry of another type is passed over. -/
theorem ofNames_entry_append {e : NameEntry} (htype : e.type ≠ 0)
    (hbody : e.body.length < 65536) (rest : Bytes) :
    ofNames (e.bytes ++ rest) = ofNames rest := by
  simp only [NameEntry.bytes, Bytes.behind16, Bytes.ofWord, List.cons_append, List.nil_append]
  rw [ofNames]
  simp [htype, Bytes.word_ofNat hbody]

theorem ofNames_entries_append {entries : List NameEntry}
    (hentries : ∀ e ∈ entries, e.type ≠ 0 ∧ e.body.length < 65536) (rest : Bytes) :
    ofNames (entries.flatMap NameEntry.bytes ++ rest) = ofNames rest := by
  induction entries with
  | nil => rw [List.flatMap_nil, List.nil_append]
  | cons e entries ih =>
    obtain ⟨⟨htype, hbody⟩, hentries⟩ := List.forall_mem_cons.1 hentries
    rw [List.flatMap_cons, List.append_assoc, ofNames_entry_append htype hbody, ih hentries]

/-- The first entry of type zero decides. -/
theorem ofNames_hostname_append {text : Bytes} (htext : text.length ≤ maxHostnameLength)
    (rest : Bytes) : ofNames (0 :: (text.behind16 ++ rest)) = ofName text := by
  have hlt : text.length < 65536 := by unfold maxHostnameLength at htext; omega
  simp only [Bytes.behind16, Bytes.ofWord, List.cons_append, List.nil_append]
  rw [ofNames]
  simp [Bytes.word_ofNat hlt, Nat.not_lt.2 htext]

theorem ofNames_eq_hostname_iff :
    ofNames names = .hostname name ↔ ∃ (entries : List NameEntry) (after : Bytes),
      (∀ e ∈ entries, e.type ≠ 0 ∧ e.body.length < 65536) ∧
      0 < (Utf8.encode name).length ∧ (Utf8.encode name).length ≤ maxHostnameLength ∧
      names = entries.flatMap NameEntry.bytes ++
        0 :: ((Utf8.encode name).behind16 ++ after) := by
  constructor
  · intro h
    fun_induction ofNames names with
    | case1 => cases h
    | case2 type high low rest length htype hle ih =>
      obtain ⟨entries, after, hentries, hpos, hmax, hrest⟩ := ih h
      have hlength : (rest.take length).length = length := by simp [hle]
      refine ⟨⟨type, rest.take length⟩ :: entries, after, ?_, hpos, hmax, ?_⟩
      · refine List.forall_mem_cons.2 ⟨⟨htype, ?_⟩, hentries⟩
        rw [hlength]
        exact Bytes.word_lt high low
      · rw [List.flatMap_cons, NameEntry.bytes, Bytes.behind16, hlength, Bytes.ofWord_word,
          List.append_assoc, ← hrest]
        simp
    | case3 => cases h
    | case4 => cases h
    | case5 type high low rest length htype hmax hle =>
      have hzero : type = 0 := by simpa using htype
      have hlength : (rest.take length).length = length := by simp [hle]
      obtain ⟨htext, hpos⟩ := ofName_eq_hostname_iff.1 h
      rw [← htext, hlength]
      rw [hlength] at hpos
      refine ⟨[], rest.drop length, by simp, hpos, Nat.le_of_not_lt hmax, ?_⟩
      rw [Bytes.behind16, hlength, Bytes.ofWord_word, hzero]
      simp
    | case6 => cases h
    | case7 => cases h
  · rintro ⟨entries, after, hentries, hpos, hmax, rfl⟩
    rw [ofNames_entries_append hentries, ofNames_hostname_append hmax]
    exact ofName_eq_hostname_iff.2 ⟨rfl, hpos⟩

theorem ofServerName_behind16_append (hnames : names.length < 65536) (rest : Bytes) :
    ofServerName (names.behind16 ++ rest) = ofNames names := by
  simp only [Bytes.behind16, Bytes.ofWord, List.cons_append, List.nil_append, ofServerName,
    Bytes.word_ofNat hnames, Bytes.split?_append]

theorem ofServerName_eq_hostname_iff :
    ofServerName bytes = .hostname name ↔ ∃ names after, ofNames names = .hostname name ∧
      names.length < 65536 ∧ bytes = names.behind16 ++ after := by
  constructor
  · intro h
    unfold ofServerName at h
    split at h
    · rename_i high low rest
      split at h
      · rename_i names after hsplit
        have hvector : Bytes.vector16? (high :: low :: rest) = some (names, after) := hsplit
        obtain ⟨hbytes, hlt⟩ := Bytes.vector16?_eq_some_iff.1 hvector
        exact ⟨names, after, h, hlt, hbytes⟩
      · cases h
    · cases h
  · rintro ⟨names, after, hnames, hlt, rfl⟩
    rw [ofServerName_behind16_append hlt, hnames]

/-- An extension of another type is passed over. -/
theorem ofExtensions_extension_append {e : HelloExtension} (hzero : e.type ≠ 0)
    (htype : e.type < 65536) (hbody : e.body.length < 65536) (rest : Bytes) :
    ofExtensions (e.bytes ++ rest) = ofExtensions rest := by
  simp only [HelloExtension.bytes, Bytes.behind16, Bytes.ofWord, List.cons_append,
    List.nil_append]
  rw [ofExtensions]
  simp [Bytes.word_ofNat hbody, Bytes.word_ofNat htype, hzero]

theorem ofExtensions_extensions_append {extensions : List HelloExtension}
    (hextensions : ∀ e ∈ extensions, e.type ≠ 0 ∧ e.type < 65536 ∧ e.body.length < 65536)
    (rest : Bytes) :
    ofExtensions (extensions.flatMap HelloExtension.bytes ++ rest) = ofExtensions rest := by
  induction extensions with
  | nil => rw [List.flatMap_nil, List.nil_append]
  | cons e extensions ih =>
    obtain ⟨⟨hzero, htype, hbody⟩, hextensions⟩ := List.forall_mem_cons.1 hextensions
    rw [List.flatMap_cons, List.append_assoc, ofExtensions_extension_append hzero htype hbody,
      ih hextensions]

/-- The first extension of type zero decides. -/
theorem ofExtensions_serverName_append (hbody : bytes.length < 65536) (rest : Bytes) :
    ofExtensions (Bytes.ofWord 0 ++ bytes.behind16 ++ rest) = ofServerName bytes := by
  simp only [Bytes.behind16, Bytes.ofWord, List.cons_append, List.nil_append]
  have hzero : Bytes.word 0 0 = 0 := rfl
  rw [ofExtensions]
  simp [Bytes.word_ofNat hbody, hzero]

theorem ofExtensions_eq_hostname_iff :
    ofExtensions block = .hostname name ↔
      ∃ (extensions : List HelloExtension) (body after : Bytes),
        (∀ e ∈ extensions, e.type ≠ 0 ∧ e.type < 65536 ∧ e.body.length < 65536) ∧
        ofServerName body = .hostname name ∧ body.length < 65536 ∧
        block = extensions.flatMap HelloExtension.bytes ++
          (Bytes.ofWord 0 ++ body.behind16 ++ after) := by
  constructor
  · intro h
    fun_induction ofExtensions block with
    | case1 => cases h
    | case2 typeHigh typeLow high low rest length hle htype =>
      have hlength : (rest.take length).length = length := by simp [hle]
      refine ⟨[], rest.take length, rest.drop length, by simp, h, ?_, ?_⟩
      · rw [hlength]
        exact Bytes.word_lt high low
      · rw [← htype, Bytes.behind16, hlength, Bytes.ofWord_word, Bytes.ofWord_word]
        simp
    | case3 typeHigh typeLow high low rest length hle htype ih =>
      obtain ⟨extensions, body, after, hextensions, hbody, hlt, hrest⟩ := ih h
      have hlength : (rest.take length).length = length := by simp [hle]
      refine ⟨⟨Bytes.word typeHigh typeLow, rest.take length⟩ :: extensions, body, after, ?_, hbody,
        hlt, ?_⟩
      · refine List.forall_mem_cons.2 ⟨⟨htype, Bytes.word_lt _ _, ?_⟩, hextensions⟩
        rw [hlength]
        exact Bytes.word_lt high low
      · rw [List.flatMap_cons, HelloExtension.bytes, Bytes.behind16, hlength, Bytes.ofWord_word,
          Bytes.ofWord_word, List.append_assoc, ← hrest]
        simp
    | case4 => cases h
    | case5 => cases h
  · rintro ⟨extensions, body, after, hextensions, hbody, hlt, rfl⟩
    rw [ofExtensions_extensions_append hextensions, ofExtensions_serverName_append hlt, hbody]

theorem ofHelloTail_behind16_append (hne : block ≠ []) (hlt : block.length < 65536)
    (rest : Bytes) : ofHelloTail (block.behind16 ++ rest) = ofExtensions block := by
  have hpos : block.length ≠ 0 := mt List.length_eq_zero_iff.1 hne
  simp only [Bytes.behind16, Bytes.ofWord, List.cons_append, List.nil_append, ofHelloTail,
    Bytes.word_ofNat hlt, Bytes.split?_append, if_neg hpos]

theorem ofHelloTail_eq_hostname_iff :
    ofHelloTail bytes = .hostname name ↔ ∃ block after, ofExtensions block = .hostname name ∧
      block.length < 65536 ∧ bytes = block.behind16 ++ after := by
  constructor
  · intro h
    unfold ofHelloTail at h
    split at h
    · cases h
    · rename_i high low rest
      dsimp only at h
      split at h
      · cases h
      split at h
      · rename_i block after hsplit
        have hvector : Bytes.vector16? (high :: low :: rest) = some (block, after) := hsplit
        obtain ⟨hbytes, hlt⟩ := Bytes.vector16?_eq_some_iff.1 hvector
        exact ⟨block, after, h, hlt, hbytes⟩
      · cases h
    · cases h
  · rintro ⟨block, after, hblock, hlt, rfl⟩
    have hne : block ≠ [] := by
      rintro rfl
      rw [ofExtensions] at hblock
      cases hblock
    rw [ofHelloTail_behind16_append hne hlt, hblock]

theorem skipHelloFields?_eq_some_iff {hello tail : Bytes} :
    skipHelloFields? hello = some tail ↔ ∃ fixed sessionId cipherSuites compression : Bytes,
      fixed.length = 37 ∧ sessionId.length < 256 ∧ cipherSuites.length < 65536 ∧
      compression.length < 256 ∧
      hello = fixed ++ (sessionId.behind8 ++ (cipherSuites.behind16 ++
        (compression.behind8 ++ tail))) := by
  simp only [skipHelloFields?, Option.bind_eq_bind, Option.bind_eq_some_iff, Prod.exists,
    Bytes.split?_eq_some_iff, Bytes.vector8?_eq_some_iff, Bytes.vector16?_eq_some_iff,
    Option.pure_def, Option.some.injEq]
  constructor
  · rintro ⟨fixed, _, ⟨rfl, hfixed⟩, sessionId, _, ⟨rfl, hsession⟩, cipherSuites, _,
      ⟨rfl, hcipher⟩, compression, _, ⟨rfl, hcompression⟩, rfl⟩
    exact ⟨fixed, sessionId, cipherSuites, compression, hfixed, hsession, hcipher, hcompression,
      rfl⟩
  · rintro ⟨fixed, sessionId, cipherSuites, compression, hfixed, hsession, hcipher, hcompression,
      rfl⟩
    exact ⟨fixed, _, ⟨rfl, hfixed⟩, sessionId, _, ⟨rfl, hsession⟩, cipherSuites, _,
      ⟨rfl, hcipher⟩, compression, _, ⟨rfl, hcompression⟩, rfl⟩

theorem ofHandshake_eq_hostname_iff :
    ofHandshake bytes = .hostname name ↔ ∃ hello tail, bytes = 1 :: hello ∧
      skipHelloFields? hello = some tail ∧ ofHelloTail tail = .hostname name := by
  constructor
  · intro h
    unfold ofHandshake at h
    split at h
    · cases h
    · rename_i type hello
      split at h
      · cases h
      rename_i htype
      split at h
      · rename_i tail htail
        have hone : type = 1 := by simpa using htype
        exact ⟨hello, tail, by rw [hone], htail, h⟩
      · cases h
  · rintro ⟨hello, tail, rfl, htail, h⟩
    simp [ofHandshake, htail, h]

theorem ofRecord_eq_hostname_iff :
    ofRecord bytes = .hostname name ↔ ∃ content after, ofHandshake content = .hostname name ∧
      content.length < 65536 ∧ bytes = content.behind16 ++ after := by
  unfold ofRecord
  constructor
  · intro h
    split at h
    · rename_i content after hvector
      obtain ⟨hbytes, hlt⟩ := Bytes.vector16?_eq_some_iff.1 hvector
      exact ⟨content, after, h, hlt, hbytes⟩
    · cases h
  · rintro ⟨content, after, hcontent, hlt, rfl⟩
    rw [Bytes.vector16?_eq_some_iff.2 ⟨rfl, hlt⟩]
    exact hcontent

theorem inspect_eq_hostname_iff_record {payload : Bytes} {cached : Option String} :
    inspect payload cached = .hostname name ↔ ∃ major minor rest,
      payload = handshakeType :: major :: minor :: rest ∧ 3 ≤ major ∧
      ofRecord rest = .hostname name := by
  constructor
  · intro h
    match payload with
    | [] => cases h
    | [type] =>
      simp only [inspect] at h
      split at h
      · cases h
      split at h
      · cases h
      · cases h
    | type :: major :: rest =>
      simp only [inspect] at h
      split at h
      · cases h
      split at h
      · cases h
      split at h
      · cases h
      rename_i hmajor
      split at h
      · rename_i htype
        cases rest with
        | nil => cases h
        | cons minor rest => exact ⟨major, minor, rest, by rw [htype], UInt8.not_lt.1 hmajor, h⟩
      split at h
      · cases h
      · cases h
  · rintro ⟨major, minor, rest, rfl, hmajor, hrecord⟩
    have hold : isOldHello (handshakeType :: major :: minor :: rest) = false := rfl
    have htype : ¬ (handshakeType < 20 ∨ 24 < handshakeType) := by decide
    simp only [inspect, hold, Bool.false_eq_true, if_false, if_neg htype,
      if_neg (UInt8.not_lt.2 hmajor), if_true, List.drop_one, List.tail_cons, hrecord]

/-- A look at a payload finds a server name, whatever name is cached, exactly if the payload is
the writing of a well-formed hello with that name. -/
theorem inspect_eq_hostname_iff_namedHello (payload : Bytes) (cached : Option String)
    (name : String) :
    inspect payload cached = .hostname name ↔
      ∃ hello : NamedHello, hello.WellFormed ∧ hello.name = name ∧ hello.bytes = payload := by
  rw [inspect_eq_hostname_iff_record]
  constructor
  · rintro ⟨major, minor, record, rfl, hmajor, hrecord⟩
    obtain ⟨content, afterRecord, hcontent, hcontentLt, rfl⟩ := ofRecord_eq_hostname_iff.1 hrecord
    obtain ⟨fields, tail, rfl, hfields, htail⟩ := ofHandshake_eq_hostname_iff.1 hcontent
    obtain ⟨fixed, sessionId, cipherSuites, compression, hfixed, hsession, hcipher, hcompression,
      rfl⟩ := skipHelloFields?_eq_some_iff.1 hfields
    obtain ⟨block, afterExtensions, hblock, hblockLt, rfl⟩ := ofHelloTail_eq_hostname_iff.1 htail
    obtain ⟨extensions, body, afterExtension, hextensions, hbody, hbodyLt, rfl⟩ :=
      ofExtensions_eq_hostname_iff.1 hblock
    obtain ⟨names, afterNames, hnames, hnamesLt, rfl⟩ := ofServerName_eq_hostname_iff.1 hbody
    obtain ⟨entries, afterName, hentries, hpos, hle, rfl⟩ := ofNames_eq_hostname_iff.1 hnames
    refine ⟨⟨major, minor, fixed, sessionId, cipherSuites, compression, extensions, entries, name,
      afterName, afterNames, afterExtension, afterExtensions, afterRecord⟩, ?_, rfl, rfl⟩
    exact ⟨hmajor, hfixed, hsession, hcipher, hcompression, hextensions, hentries, hpos, hle,
      hnamesLt, hbodyLt, hblockLt, hcontentLt⟩
  · rintro ⟨hello, wf, rfl, rfl⟩
    have hnames : ofNames hello.names = .hostname hello.name :=
      ofNames_eq_hostname_iff.2 ⟨_, _, wf.entries, wf.name_pos, wf.name_le, rfl⟩
    have hbody : ofServerName hello.serverName = .hostname hello.name :=
      ofServerName_eq_hostname_iff.2 ⟨_, _, hnames, wf.names, rfl⟩
    have hblock : ofExtensions hello.block = .hostname hello.name :=
      ofExtensions_eq_hostname_iff.2 ⟨_, _, _, wf.extensions, hbody, wf.serverName, rfl⟩
    have htail : ofHelloTail (hello.block.behind16 ++ hello.afterExtensions) =
        .hostname hello.name :=
      ofHelloTail_eq_hostname_iff.2 ⟨_, _, hblock, wf.block, rfl⟩
    have hcontent : ofHandshake hello.content = .hostname hello.name :=
      ofHandshake_eq_hostname_iff.2 ⟨_, _, rfl, skipHelloFields?_eq_some_iff.2
        ⟨_, _, _, _, wf.fixed, wf.sessionId, wf.cipherSuites, wf.compression, rfl⟩, htail⟩
    exact ⟨_, _, _, rfl, wf.major, ofRecord_eq_hostname_iff.2 ⟨_, _, hcontent, wf.content, rfl⟩⟩

/-- The extensions block of a hello in which another extension stands behind the server name. -/
def nameFirstBlock : Bytes := [0, 0, 0, 6, 0, 4, 0, 0, 1, 97, 0, 16, 0, 0]

/-- The record with this block, all other parts empty or zero. -/
def nameFirstRecord : Bytes :=
  [22, 3, 1, 0, 58, 1] ++ List.replicate 37 0 ++ [0, 0, 0, 0, 0, 14] ++ nameFirstBlock

/-- Nothing has to end with the server name: a name is found although an extension follows it,
which no hello that ends its extensions with the server name can have written. -/
theorem hostname_without_last_serverName :
    inspect nameFirstRecord none = .hostname "a" ∧
      ¬ ∃ hello : NamedHello, hello.WellFormed ∧ hello.name = "a" ∧
        hello.afterName = [] ∧ hello.afterExtension = [] ∧ hello.bytes = nameFirstRecord := by
  refine ⟨by decide +kernel, ?_⟩
  rintro ⟨hello, wf, -, -, hlast, hbytes⟩
  -- The lengths leave no choice: record, fields and block are those of the definition above.
  have hrecord : Bytes.vector16? (nameFirstRecord.drop 3) =
      some (hello.content, hello.afterRecord) :=
    Bytes.vector16?_eq_some_iff.2 ⟨congrArg (List.drop 3) hbytes.symm, wf.content⟩
  have hrecord' : Bytes.vector16? (nameFirstRecord.drop 3) = some (nameFirstRecord.drop 5, []) := by
    decide +kernel
  obtain ⟨hcontent, -⟩ := Prod.mk.inj (Option.some.inj (hrecord.symm.trans hrecord'))
  have hfields : skipHelloFields? (nameFirstRecord.drop 6) =
      some (hello.block.behind16 ++ hello.afterExtensions) :=
    skipHelloFields?_eq_some_iff.2 ⟨_, _, _, _, wf.fixed, wf.sessionId, wf.cipherSuites,
      wf.compression, congrArg List.tail hcontent.symm⟩
  have hfields' : skipHelloFields? (nameFirstRecord.drop 6) =
      some (nameFirstBlock.behind16 ++ []) := by decide +kernel
  have hvector : Bytes.vector16? (nameFirstBlock.behind16 ++ []) =
      some (hello.block, hello.afterExtensions) :=
    Bytes.vector16?_eq_some_iff.2 ⟨Option.some.inj (hfields'.symm.trans hfields), wf.block⟩
  have hvector' :=
    Bytes.vector16?_eq_some_iff.2 ⟨Eq.refl (nameFirstBlock.behind16 ++ []), by decide⟩
  obtain ⟨hblock, -⟩ := Prod.mk.inj (Option.some.inj (hvector.symm.trans hvector'))
  unfold NamedHello.block at hblock
  rw [hlast, List.append_nil] at hblock
  cases hext : hello.extensions with
  | nil =>
    rw [hext, List.flatMap_nil, List.nil_append] at hblock
    have hbody : Bytes.vector16? (nameFirstBlock.drop 2) = some (hello.serverName, []) :=
      Bytes.vector16?_eq_some_iff.2
        ⟨by rw [← hblock, List.append_nil]; rfl, wf.serverName⟩
    have hbody' : Bytes.vector16? (nameFirstBlock.drop 2) =
        some ([0, 4, 0, 0, 1, 97], [0, 16, 0, 0]) := by decide +kernel
    obtain ⟨-, hafter⟩ := Prod.mk.inj (Option.some.inj (hbody.symm.trans hbody'))
    exact List.cons_ne_nil _ _ hafter.symm
  | cons e extensions =>
    obtain ⟨hzero, htype, -⟩ := wf.extensions e (by simp [hext])
    rw [hext, List.flatMap_cons, HelloExtension.bytes, List.append_assoc,
      List.append_assoc] at hblock
    exact hzero (Bytes.cons_cons_eq_ofWord_append_iff.1 ⟨hblock.symm, htype⟩).1.symm

end TunnelFirewall.Tls
