import TunnelFirewall.Diagnostic.Plan
import TunnelFirewall.Proofs.Config.Environment
import TunnelFirewall.Proofs.Config.Omission

/-!
# Overrides without a file

The environment overrides settings of the configuration that a file holds. Where there is no file
the default configuration is used as it is, and what the environment says is neither obeyed nor
refused: it makes no difference only if it repeats the defaults.
-/
namespace TunnelFirewall.Diagnostic

section

variable [JsonCodec]

/-- The configuration that the overrides are about: that of the file, or the default one if there
is no file. -/
def base (path : String) (file : FileState) : Except Config.Error Config :=
  if file.isPresent then Config.loadFile path file else .ok {}

/-- The content of a file that holds the empty object. -/
def emptyObject : Bytes := [0x7B, 0x7D]

theorem loadFile_emptyObject (hcodec : JsonCodec.Lawful) (path : String) :
    Config.loadFile path (.regular emptyObject) = .ok {} := by
  have htext : (FileState.regular emptyObject).readText = .ok "\x7b\x7d" := by
    have hdecode : Utf8.decode? emptyObject = some "\x7b\x7d" := by decide +kernel
    simp only [FileState.readText, hdecode]
  have hvalid : ({} : Config).validate = .ok {} :=
    Config.validate_eq_ok_iff.2 ⟨rfl, by decide⟩
  simp only [Config.loadFile, FileState.isPresent, if_true, htext, Config.load,
    hcodec.parse_emptyObject, Config.loadValue, Config.ofJson?_emptyObject hcodec, hvalid]

/-- The overrides reach the configuration in use exactly if there is a file or they repeat the
defaults; and no file is as good as a file with the empty object exactly if they do. -/
theorem configuration_override_iff (environment : Config.Environment) (path : String) :
    (∀ file, configuration environment path file =
        (base path file).bind (Config.override environment) ↔
      file.isPresent ∨ Config.Repeats environment {}) ∧
    (JsonCodec.Lawful → (configuration environment path .absent =
        configuration environment path (.regular emptyObject) ↔
      Config.Repeats environment {})) := by
  have hvalid : ({} : Config).violation? = none := by decide
  have hdefault : .ok {} = Config.override environment {} ↔ Config.Repeats environment {} := by
    rw [eq_comm, Config.override_eq_self_iff hvalid]
  constructor
  · intro file
    by_cases present : file.isPresent
    · simp only [configuration, base, present, if_true, true_or, iff_true]
      unfold Config.loadFileWith
      cases Config.loadFile path file with
      | error e => rfl
      | ok config => rfl
    · simp only [configuration, base, present, if_false, false_or, Bool.false_eq_true]
      exact hdefault
  · intro hcodec
    have hfile : configuration environment path (.regular emptyObject) =
        Config.override environment {} := by
      simp [configuration, FileState.isPresent, Config.loadFileWith, loadFile_emptyObject hcodec]
    rw [hfile]
    exact hdefault

end

section Example

/-- An environment that allows a single session. -/
def oneSession : Config.Environment :=
  fun name => if name = Config.maxSessionsVariable then some "1" else none

theorem configuration_override_iff_oneSession :
    @JsonCodec.Lawful PlainJson.codec ∧
      configuration oneSession "config.json" .absent ≠
        configuration oneSession "config.json" (.regular emptyObject) := by
  refine ⟨PlainJson.codec_lawful, fun hsame => ?_⟩
  have hrepeats := ((configuration_override_iff oneSession "config.json").2
    PlainJson.codec_lawful).1 hsame
  exact absurd (hrepeats.maxSessions "1" rfl) (by decide)

theorem exists_override_ignored :
    configuration oneSession "config.json" .absent = .ok {} ∧
      (base "config.json" .absent).bind (Config.override oneSession) =
        .ok { engine.maxSessions := 1 } ∧
      configuration oneSession "config.json" .absent ≠
        (base "config.json" .absent).bind (Config.override oneSession) := by
  have hbase : (base "config.json" .absent).bind (Config.override oneSession) =
      .ok { engine.maxSessions := 1 } := by decide +kernel
  refine ⟨rfl, hbase, ?_⟩
  rw [hbase]
  intro hsame
  exact absurd (Except.ok.inj hsame) (by decide)

end Example

end TunnelFirewall.Diagnostic
