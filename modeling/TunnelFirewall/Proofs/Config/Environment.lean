import TunnelFirewall.Config.Load
import TunnelFirewall.Outer.Json
import TunnelFirewall.Proofs.Text.Numeral

/-!
# Overrides from the environment

Three variables replace three settings and leave the others alone. A session cap that is no number
is refused before anything else; otherwise the outcome is validated as a whole, so that an override
can break a configuration and can repair one. A file has to hold a valid configuration even so.
-/
namespace TunnelFirewall

namespace Config

/-- A configuration that meets every constraint. -/
structure Valid (config : Config) : Prop where
  maxSessions : 0 < config.engine.maxSessions
  mtu : 20 ≤ config.engine.mtu
  ttl : 0 < config.cache.ttl
  root : config.cache.root ≠ ""
  interval : 0 < config.probe.pollInterval ∧
    config.probe.pollInterval ≤ config.probe.overallTimeout
  sizes : 0 < config.probe.minSize ∧ config.probe.minSize ≤ config.probe.maxSize
  format : config.log.format = "json" ∨ config.log.format = "pretty"

/-- The text is a number that a session cap can be. -/
def IsCap (text : String) (cap : UInt64) : Prop := Numeral.IsNumeral 10 cap.toNat text.toList

/-- The second configuration is the first one with the settings replaced that the environment
names. -/
structure Overridden (environment : Environment) (config other : Config) : Prop where
  maxSessions : (environment maxSessionsVariable = none ∧
      other.engine.maxSessions = config.engine.maxSessions) ∨
    ∃ text, environment maxSessionsVariable = some text ∧ IsCap text other.engine.maxSessions
  level : other.log.level = (environment logLevelVariable).getD config.log.level
  root : other.cache.root = (environment tableRootVariable).getD config.cache.root
  /-- With these three put back, it is the first one again. -/
  frame : { other with
    engine.maxSessions := config.engine.maxSessions
    log.level := config.log.level
    cache.root := config.cache.root } = config

/-- The settings that the environment names have the values that it gives. -/
structure Repeats (environment : Environment) (config : Config) : Prop where
  maxSessions : ∀ text, environment maxSessionsVariable = some text →
    Numeral.below? UInt64.size 10 text = some config.engine.maxSessions.toNat
  level : ∀ value, environment logLevelVariable = some value → value = config.log.level
  root : ∀ value, environment tableRootVariable = some value → value = config.cache.root

variable {environment : Environment} {config other : Config} {present cap : UInt64} {e : Error}

theorem violation?_eq_none_iff : config.violation? = none ↔ config.Valid := by
  have hpos (n : UInt64) : (¬n = 0) ↔ 0 < n := UInt64.pos_iff_ne_zero.symm
  simp only [violation?, constraints, Option.map_eq_none_iff, List.find?_eq_none,
    List.forall_mem_cons, Bool.or_eq_true, Bool.and_eq_true, beq_iff_eq, bne_iff_ne,
    decide_eq_true_eq, not_or, Decidable.not_and_iff_not_or_not, Decidable.not_not, UInt64.not_lt,
    hpos]
  constructor
  · rintro ⟨hsessions, hmtu, httl, hroot, hinterval, hsizes, hformat, -⟩
    exact ⟨hsessions, hmtu, httl, hroot, hinterval, hsizes, hformat⟩
  · rintro ⟨hsessions, hmtu, httl, hroot, hinterval, hsizes, hformat⟩
    exact ⟨hsessions, hmtu, httl, hroot, hinterval, hsizes, hformat, nofun⟩

theorem validate_eq_ok_iff :
    config.validate = .ok other ↔ config = other ∧ config.violation? = none := by
  unfold validate
  cases config.violation? with
  | none => simp
  | some violation => simp

theorem validate_eq_error_iff :
    config.validate = .error e ↔ ¬config.Valid ∧
      ∃ violation, config.violation? = some violation ∧ e = .validation violation.message := by
  rw [← violation?_eq_none_iff, validate]
  cases config.violation? with
  | none => simp
  | some violation => simp [eq_comm]

theorem isCap_iff {text : String} :
    IsCap text cap ↔ Numeral.below? UInt64.size 10 text = some cap.toNat := by
  rw [IsCap, Numeral.below?_eq_some_iff (by decide) (by decide), and_iff_left cap.toNat_lt]

theorem sessionCap_eq_ok_iff :
    sessionCap environment present = .ok cap ↔
      (environment maxSessionsVariable = none ∧ cap = present) ∨
        ∃ text, environment maxSessionsVariable = some text ∧ IsCap text cap := by
  unfold sessionCap
  cases environment maxSessionsVariable with
  | none => simp [eq_comm]
  | some text =>
    cases read : Numeral.below? UInt64.size 10 text with
    | none => simp [isCap_iff, read]
    | some value =>
      have hlt := Numeral.lt_of_below? read
      have hvalue : UInt64.ofNat value = cap ↔ value = cap.toNat := by
        rw [← UInt64.toNat_inj, UInt64.toNat_ofNat_of_lt' hlt]
      simp [isCap_iff, read, hvalue]

theorem sessionCap_eq_error_iff (present : UInt64) :
    sessionCap environment present = .error e ↔
      ∃ text, environment maxSessionsVariable = some text ∧ (¬∃ cap, IsCap text cap) ∧
        e = .environment maxSessionsVariable ("Invalid number: " ++ text) := by
  unfold sessionCap
  cases environment maxSessionsVariable with
  | none => simp
  | some text =>
    cases read : Numeral.below? UInt64.size 10 text with
    | none => simp [isCap_iff, read, eq_comm]
    | some value =>
      have hlt := Numeral.lt_of_below? read
      have hcap : IsCap text (UInt64.ofNat value) := by
        rw [isCap_iff, read, UInt64.toNat_ofNat_of_lt' hlt]
      apply iff_of_false
      · simp [read]
      · rintro ⟨_, htext, hnone, -⟩
        obtain rfl := Option.some.inj htext
        exact hnone ⟨_, hcap⟩

/-- What becomes of a configuration under an environment that asks for a session cap. -/
def replaced (environment : Environment) (cap : UInt64) (config : Config) : Config :=
  { config with
    engine.maxSessions := cap
    log.level := (environment logLevelVariable).getD config.log.level
    cache.root := (environment tableRootVariable).getD config.cache.root }

theorem override_of_sessionCap (h : sessionCap environment config.engine.maxSessions = .ok cap) :
    config.override environment = (config.replaced environment cap).validate := by
  rw [override, h]
  rfl

theorem overridden_iff :
    Overridden environment config other ↔
      ∃ cap, sessionCap environment config.engine.maxSessions = .ok cap ∧
        other = config.replaced environment cap := by
  constructor
  · rintro ⟨hsessions, hlevel, hroot, hframe⟩
    refine ⟨other.engine.maxSessions, sessionCap_eq_ok_iff.2 hsessions, ?_⟩
    calc other = replaced environment other.engine.maxSessions { other with
            engine.maxSessions := config.engine.maxSessions
            log.level := config.log.level
            cache.root := config.cache.root } := by
          simp only [replaced, ← hlevel, ← hroot]
      _ = config.replaced environment other.engine.maxSessions := by rw [hframe]
  · rintro ⟨cap, hcap, rfl⟩
    exact ⟨sessionCap_eq_ok_iff.1 hcap, rfl, rfl, rfl⟩

theorem override_eq_ok_iff :
    config.override environment = .ok other ↔
      Overridden environment config other ∧ other.Valid := by
  rw [overridden_iff, ← violation?_eq_none_iff]
  cases hcap : sessionCap environment config.engine.maxSessions with
  | error e => simp [override, hcap]
  | ok cap =>
    rw [override_of_sessionCap hcap, validate_eq_ok_iff]
    constructor
    · rintro ⟨rfl, hvalid⟩
      exact ⟨⟨cap, rfl, rfl⟩, hvalid⟩
    · rintro ⟨⟨_, hsame, rfl⟩, hvalid⟩
      obtain rfl := Except.ok.inj hsame
      exact ⟨rfl, hvalid⟩

theorem override_eq_error_iff :
    config.override environment = .error e ↔
      (∃ text, environment maxSessionsVariable = some text ∧ (¬∃ cap, IsCap text cap) ∧
        e = .environment maxSessionsVariable ("Invalid number: " ++ text)) ∨
      ∃ other, Overridden environment config other ∧ ¬other.Valid ∧
        ∃ violation, other.violation? = some violation ∧ e = .validation violation.message := by
  rw [← sessionCap_eq_error_iff config.engine.maxSessions]
  simp only [overridden_iff]
  cases hcap : sessionCap environment config.engine.maxSessions with
  | error e' => simp [override, hcap]
  | ok cap =>
    rw [override_of_sessionCap hcap, validate_eq_error_iff]
    simp

theorem getD_eq_self_iff {α : Type} {given : Option α} {present : α} :
    given.getD present = present ↔ ∀ value, given = some value → value = present := by
  cases given with
  | none => simp
  | some value => simp

/-- Overrides change nothing exactly if the environment repeats the configuration. -/
theorem overridden_self_iff :
    Overridden environment config config ↔ Repeats environment config := by
  constructor
  · rintro ⟨hsessions, hlevel, hroot, -⟩
    refine ⟨?_, getD_eq_self_iff.1 hlevel.symm, getD_eq_self_iff.1 hroot.symm⟩
    intro text htext
    rcases hsessions with ⟨hnone, -⟩ | ⟨other, hother, hcap⟩
    · rw [htext] at hnone
      cases hnone
    · rw [htext] at hother
      obtain rfl := Option.some.inj hother
      exact isCap_iff.1 hcap
  · intro h
    refine ⟨?_, (getD_eq_self_iff.2 h.level).symm, (getD_eq_self_iff.2 h.root).symm, rfl⟩
    cases hgiven : environment maxSessionsVariable with
    | none => exact .inl ⟨rfl, rfl⟩
    | some text => exact .inr ⟨text, rfl, isCap_iff.2 (h.maxSessions text hgiven)⟩

/-- A configuration that can be used stays as it is exactly if the environment repeats it. -/
theorem override_eq_self_iff (valid : config.violation? = none) :
    config.override environment = .ok config ↔ Repeats environment config := by
  rw [override_eq_ok_iff, overridden_self_iff, ← violation?_eq_none_iff, and_iff_left valid]

/-- What the overrides make of a configuration they leave as it is. -/
theorem Overridden.again (h : Overridden environment config other) :
    Overridden environment other other := by
  obtain ⟨hsessions, hlevel, hroot, -⟩ := h
  refine ⟨?_, ?_, ?_, rfl⟩
  · exact hsessions.imp (fun hnone => ⟨hnone.1, rfl⟩) id
  · rw [hlevel]
    cases environment logLevelVariable <;> rfl
  · rw [hroot]
    cases environment tableRootVariable <;> rfl

section

variable [JsonCodec]

theorem valid_of_load {text : String} (h : load text = .ok config) : config.Valid := by
  unfold load loadValue at h
  split at h
  · split at h
    · obtain ⟨rfl, hvalid⟩ := validate_eq_ok_iff.1 h
      exact violation?_eq_none_iff.1 hvalid
    · cases h
  · cases h

/-- What a file gives has met every constraint by itself. -/
theorem valid_of_loadFile {path : String} {file : FileState}
    (h : loadFile path file = .ok config) : config.Valid := by
  unfold loadFile at h
  split at h
  · split at h
    · exact valid_of_load h
    · cases h
  · cases h

theorem loadFileWith_eq_iff {path : String} {file : FileState} {result : Except Error Config} :
    loadFileWith environment path file = result ↔
      (∃ e, loadFile path file = .error e ∧ result = .error e) ∨
      ∃ config, loadFile path file = .ok config ∧ config.Valid ∧
        result = config.override environment := by
  unfold loadFileWith
  cases hload : loadFile path file with
  | error e => simp [eq_comm]
  | ok config => simp [valid_of_loadFile hload, eq_comm]

/-- Overrides fail with a complaint about the environment exactly if its session cap is no number
that fits. Otherwise they replace what the environment names and nothing else, and the outcome is
accepted exactly if it meets every constraint; once accepted, it is not changed by doing the same
again. A file is overridden only if its configuration was valid without. -/
theorem override_validated (environment : Environment) (config : Config) :
    (∀ other, config.override environment = .ok other ↔
      Overridden environment config other ∧ other.Valid) ∧
    (∀ e, config.override environment = .error e ↔
      (∃ text, environment maxSessionsVariable = some text ∧ (¬∃ cap, IsCap text cap) ∧
        e = .environment maxSessionsVariable ("Invalid number: " ++ text)) ∨
      ∃ other, Overridden environment config other ∧ ¬other.Valid ∧
        ∃ violation, other.violation? = some violation ∧ e = .validation violation.message) ∧
    (∀ other, config.override environment = .ok other →
      other.override environment = .ok other) ∧
    ∀ path file result, loadFileWith environment path file = result ↔
      (∃ e, loadFile path file = .error e ∧ result = .error e) ∨
      ∃ config, loadFile path file = .ok config ∧ config.Valid ∧
        result = config.override environment := by
  refine ⟨fun other => override_eq_ok_iff, fun e => override_eq_error_iff, ?_,
    fun path file result => loadFileWith_eq_iff⟩
  intro other hother
  rw [override_eq_ok_iff] at hother ⊢
  exact ⟨hother.1.again, hother.2⟩

end

section Example

/-- An environment that allows seven sessions. -/
def sevenSessions : Environment :=
  fun name => if name = maxSessionsVariable then some "+007" else none

/-- A configuration that is no good without the override. -/
theorem override_validated_repair :
    ({ engine.maxSessions := 0 } : Config).override sevenSessions =
        .ok { engine.maxSessions := 7 } ∧
      ({ engine.maxSessions := 7 } : Config).override sevenSessions =
        .ok { engine.maxSessions := 7 } := by
  have hrepaired : ({ engine.maxSessions := 0 } : Config).override sevenSessions =
      .ok { engine.maxSessions := 7 } := by decide +kernel
  exact ⟨hrepaired, (override_validated sevenSessions _).2.2.1 _ hrepaired⟩

end Example

end Config

end TunnelFirewall
