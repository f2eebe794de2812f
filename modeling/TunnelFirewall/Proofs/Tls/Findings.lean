import TunnelFirewall.Proofs.Tls.Grammar

/-!
# Findings and the cached name

Which server name a payload tells does not depend on the name that is cached, and no payload tells
an empty name. A payload that is ready to be decided about is application data, and with a cached
name all application data is.
-/
namespace TunnelFirewall.Tls

variable {payload bytes : Bytes} {cached : Option String} {name : String}

/-- Every look at the payload finds this server name, whatever is cached. -/
def Names (payload : Bytes) (name : String) : Prop :=
  ∀ cached, inspect payload cached = .hostname name

/-- No look at the payload finds a server name, whatever is cached. -/
def Nameless (payload : Bytes) : Prop :=
  ∀ cached name, inspect payload cached ≠ .hostname name

/-- The payload starts with an application-data record of a version that has server names. -/
def IsApplicationData (payload : Bytes) : Prop :=
  ∃ major rest, payload = 23 :: major :: rest ∧ 3 ≤ major

theorem names_of_inspect (h : inspect payload cached = .hostname name) : Names payload name := by
  intro other
  rw [inspect_eq_hostname_iff_record] at h ⊢
  exact h

theorem nameless_of_inspect (h : ∀ name, inspect payload cached ≠ .hostname name) :
    Nameless payload := by
  intro other name found
  exact h name (names_of_inspect found cached)

theorem Names.ne_empty (h : Names payload name) : name ≠ "" := by
  obtain ⟨_, _, _, _, _, hrecord⟩ := inspect_eq_hostname_iff_record.1 (h none)
  obtain ⟨_, _, hcontent, _⟩ := ofRecord_eq_hostname_iff.1 hrecord
  obtain ⟨_, _, _, _, htail⟩ := ofHandshake_eq_hostname_iff.1 hcontent
  obtain ⟨_, _, hblock, _⟩ := ofHelloTail_eq_hostname_iff.1 htail
  obtain ⟨_, _, _, _, hbody, _⟩ := ofExtensions_eq_hostname_iff.1 hblock
  obtain ⟨_, _, hnames, _⟩ := ofServerName_eq_hostname_iff.1 hbody
  obtain ⟨_, _, _, hpos, _⟩ := ofNames_eq_hostname_iff.1 hnames
  rintro rfl
  rw [Utf8.encode_eq_flatMap] at hpos
  exact Nat.lt_irrefl 0 hpos

/-- Names stand in handshake records, which are no application data. -/
theorem Names.not_isApplicationData (h : Names payload name) : ¬IsApplicationData payload := by
  rintro ⟨_, _, rfl, _⟩
  obtain ⟨_, _, _, heq, _⟩ := inspect_eq_hostname_iff_record.1 (h none)
  exact absurd (List.head_eq_of_cons_eq heq) (by decide)

theorem ofName_ne_readyToDecide : ofName bytes ≠ .readyToDecide := by
  unfold ofName
  split
  · nofun
  split
  · nofun
  split <;> nofun

theorem ofNames_ne_readyToDecide : ofNames bytes ≠ .readyToDecide := by
  fun_induction ofNames bytes with
  | case2 type high low rest length htype hle ih => exact ih
  | case5 => exact ofName_ne_readyToDecide
  | case1 | case3 | case4 | case6 | case7 => simp

theorem ofServerName_ne_readyToDecide : ofServerName bytes ≠ .readyToDecide := by
  unfold ofServerName
  split
  · split
    · exact ofNames_ne_readyToDecide
    · nofun
  · nofun

theorem ofExtensions_ne_readyToDecide : ofExtensions bytes ≠ .readyToDecide := by
  fun_induction ofExtensions bytes with
  | case2 => exact ofServerName_ne_readyToDecide
  | case3 typeHigh typeLow high low rest length hle htype ih => exact ih
  | case1 | case4 | case5 => simp

theorem ofHelloTail_ne_readyToDecide : ofHelloTail bytes ≠ .readyToDecide := by
  unfold ofHelloTail
  split
  · nofun
  · dsimp only
    split
    · nofun
    split
    · exact ofExtensions_ne_readyToDecide
    · nofun
  · nofun

theorem ofRecord_ne_readyToDecide : ofRecord bytes ≠ .readyToDecide := by
  unfold ofRecord
  split
  · unfold ofHandshake
    split
    · nofun
    split
    · nofun
    split
    · exact ofHelloTail_ne_readyToDecide
    · nofun
  · nofun

theorem inspect_eq_readyToDecide_iff :
    inspect payload cached = .readyToDecide ↔
      IsApplicationData payload ∧ ∃ name ∈ cached, name ≠ "" := by
  constructor
  · intro h
    match payload with
    | [] => cases h
    | [type] =>
      simp only [inspect] at h
      split at h
      · cases h
      split at h
      · cases h
      · cases h
    | type :: major :: rest =>
      simp only [inspect] at h
      split at h
      · cases h
      split at h
      · cases h
      split at h
      · cases h
      rename_i hmajor
      split at h
      · exact absurd h ofRecord_ne_readyToDecide
      split at h
      · rename_i ready
        exact ⟨⟨major, rest, by rw [ready.1]; rfl, UInt8.not_lt.1 hmajor⟩, ready.2⟩
      · cases h
  · rintro ⟨⟨major, rest, rfl, hmajor⟩, known⟩
    have hold : isOldHello (23 :: major :: rest) = false := by
      cases rest <;> rfl
    have htype : ¬((23 : UInt8) < 20 ∨ 24 < (23 : UInt8)) := by decide
    have hother : (23 : UInt8) ≠ handshakeType := by decide
    simp only [inspect, hold, Bool.false_eq_true, if_false, if_neg htype,
      if_neg (UInt8.not_lt.2 hmajor), if_neg hother]
    exact if_pos ⟨rfl, known⟩

end TunnelFirewall.Tls
