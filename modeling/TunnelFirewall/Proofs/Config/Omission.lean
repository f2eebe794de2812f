import TunnelFirewall.Config.Load
import TunnelFirewall.Proofs.Json.Alteration
import TunnelFirewall.Proofs.Outer.Json.Codec

/-!
# Configurations with parts left out

A written configuration need not be complete to be read: a group or a field that is left out takes
its default, a member of an unknown name is passed over, and the order of the members says nothing.
The defaults of the fields, which the reader takes one by one, are the fields of the defaults of
the groups.
-/
namespace TunnelFirewall

open Json JsonCodec

section

variable [JsonCodec]

namespace EngineSettings

/-- The settings, those that are gone at their defaults. -/
def without (gone : String → Bool) (s : EngineSettings) : EngineSettings :=
  let default : EngineSettings := {}
  { maxSessions := if gone "max_sessions" then default.maxSessions else s.maxSessions
    verifyIPv4Checksum :=
      if gone "verify_ipv4_checksum" then default.verifyIPv4Checksum else s.verifyIPv4Checksum
    mtu := if gone "mtu" then default.mtu else s.mtu }

theorem ofJson?_of_alters {s : EngineSettings} {gone : String → Bool} {json : Json}
    (hcodec : Lawful) (h : Alters gone s.toJson json) : ofJson? json = some (s.without gone) := by
  obtain ⟨record, hrecord, -, hfields⟩ := record?_of_alters hcodec (by simp) h
  change record? ["max_sessions", "verify_ipv4_checksum", "mtu"] json = some record at hrecord
  simp only [List.forall_mem_cons] at hfields
  obtain ⟨hsessions, hverify, hmtu, -⟩ := hfields
  have hsessions := Record.getD?_of_field hsessions (hcodec.asUInt64_count _) defaultMaxSessions
  have hverify := Record.getD?_of_field hverify (hcodec.asBool_bool _) defaultTrue
  have hmtu := Record.getD?_of_field hmtu (hcodec.asUInt64_count _) defaultMtu
  rw [ofJson?, hrecord, Option.bind_eq_bind, Option.bind_some, hsessions, hverify, hmtu]
  rfl

end EngineSettings

namespace CacheSettings

/-- The settings, those that are gone at their defaults. -/
def without (gone : String → Bool) (s : CacheSettings) : CacheSettings :=
  let default : CacheSettings := {}
  { ttl := if gone "ttl_ms" then default.ttl else s.ttl
    root := if gone "proc_net_root" then default.root else s.root }

theorem ofJson?_of_alters {s : CacheSettings} {gone : String → Bool} {json : Json}
    (hcodec : Lawful) (h : Alters gone s.toJson json) : ofJson? json = some (s.without gone) := by
  obtain ⟨record, hrecord, -, hfields⟩ := record?_of_alters hcodec (by simp) h
  change record? ["ttl_ms", "proc_net_root"] json = some record at hrecord
  simp only [List.forall_mem_cons] at hfields
  obtain ⟨httl, hroot, -⟩ := hfields
  have httl := Record.getD?_of_field httl (hcodec.asUInt64_count _) defaultTtl
  have hroot := Record.getD?_of_field hroot (hcodec.asText_text _) defaultRoot
  rw [ofJson?, hrecord, Option.bind_eq_bind, Option.bind_some, httl, hroot]
  rfl

end CacheSettings

namespace ProbeSettings

/-- The settings, those that are gone at their defaults. -/
def without (gone : String → Bool) (s : ProbeSettings) : ProbeSettings :=
  let default : ProbeSettings := {}
  { overallTimeout :=
      if gone "overall_timeout_ms" then default.overallTimeout else s.overallTimeout
    pollInterval := if gone "poll_interval_ms" then default.pollInterval else s.pollInterval
    minSize := if gone "min_probe_size" then default.minSize else s.minSize
    maxSize := if gone "max_probe_size" then default.maxSize else s.maxSize
    ipv6 := if gone "ipv6" then default.ipv6 else s.ipv6 }

theorem ofJson?_of_alters {s : ProbeSettings} {gone : String → Bool} {json : Json}
    (hcodec : Lawful) (h : Alters gone s.toJson json) : ofJson? json = some (s.without gone) := by
  obtain ⟨record, hrecord, -, hfields⟩ := record?_of_alters hcodec (by simp) h
  change record? ["overall_timeout_ms", "poll_interval_ms", "min_probe_size",
    "max_probe_size", "ipv6"] json = some record at hrecord
  simp only [List.forall_mem_cons] at hfields
  obtain ⟨htimeout, hinterval, hmin, hmax, hipv6, -⟩ := hfields
  have htimeout := Record.getD?_of_field htimeout (hcodec.asUInt64_count _) defaultOverallTimeout
  have hinterval := Record.getD?_of_field hinterval (hcodec.asUInt64_count _) defaultPollInterval
  have hmin := Record.getD?_of_field hmin (hcodec.asUInt64_count _) defaultMinSize
  have hmax := Record.getD?_of_field hmax (hcodec.asUInt64_count _) defaultMaxSize
  have hipv6 := Record.getD?_of_field hipv6 (hcodec.asBool_bool _) false
  rw [ofJson?, hrecord, Option.bind_eq_bind, Option.bind_some, htimeout, hinterval, hmin, hmax,
    hipv6]
  rfl

end ProbeSettings

namespace LogSettings

/-- The settings, those that are gone at their defaults. -/
def without (gone : String → Bool) (s : LogSettings) : LogSettings :=
  let default : LogSettings := {}
  { level := if gone "level" then default.level else s.level
    format := if gone "format" then default.format else s.format
    target := if gone "target" then default.target else s.target }

theorem ofJson?_of_alters {s : LogSettings} {gone : String → Bool} {json : Json}
    (hcodec : Lawful) (h : Alters gone s.toJson json) : ofJson? json = some (s.without gone) := by
  obtain ⟨record, hrecord, -, hfields⟩ := record?_of_alters hcodec (by simp) h
  change record? ["level", "format", "target"] json = some record at hrecord
  simp only [List.forall_mem_cons] at hfields
  obtain ⟨hlevel, hformat, htarget, -⟩ := hfields
  have hlevel := Record.getD?_of_field hlevel (hcodec.asText_text _) defaultLevel
  have hformat := Record.getD?_of_field hformat (hcodec.asText_text _) defaultFormat
  have htarget := Record.getD?_of_field htarget (hcodec.asBool_bool _) defaultTrue
  rw [ofJson?, hrecord, Option.bind_eq_bind, Option.bind_some, hlevel, hformat, htarget]
  rfl

end LogSettings

namespace Config

/-- What is left out of a configuration: groups by their names, and fields by the names of the
group and the field. -/
structure Omission where
  group : String → Bool
  field : String → String → Bool

/-- The configuration with exactly the omitted parts at their defaults. -/
def without (omission : Omission) (config : Config) : Config where
  engine :=
    if omission.group "engine" then {} else config.engine.without (omission.field "engine")
  cache :=
    if omission.group "uid_cache" then {} else config.cache.without (omission.field "uid_cache")
  probe := if omission.group "probe" then {} else config.probe.without (omission.field "probe")
  log := if omission.group "log" then {} else config.log.without (omission.field "log")

/-- The configuration as it is written, but without the omitted groups and fields, with any
members of unknown names, at the top and in the groups, and in any order. -/
def Shows (omission : Omission) (config : Config) (json : Json) : Prop :=
  ∃ engine cache probe log,
    Alters (omission.field "engine") config.engine.toJson engine ∧
      Alters (omission.field "uid_cache") config.cache.toJson cache ∧
      Alters (omission.field "probe") config.probe.toJson probe ∧
      Alters (omission.field "log") config.log.toJson log ∧
      Alters omission.group
        (.ofMembers [("engine", engine), ("uid_cache", cache), ("probe", probe), ("log", log)]) json

theorem ofJson?_of_shows {omission : Omission} {config : Config} {json : Json} (hcodec : Lawful)
    (h : Shows omission config json) : ofJson? json = some (config.without omission) := by
  obtain ⟨engine, cache, probe, log, hengine, hcache, hprobe, hlog, htop⟩ := h
  obtain ⟨record, hrecord, -, hfields⟩ := record?_of_alters hcodec (by simp) htop
  change record? ["engine", "uid_cache", "probe", "log"] json = some record at hrecord
  simp only [List.forall_mem_cons] at hfields
  obtain ⟨hengine', hcache', hprobe', hlog', -⟩ := hfields
  have hengine := EngineSettings.ofJson?_of_alters hcodec hengine
  have hcache := CacheSettings.ofJson?_of_alters hcodec hcache
  have hprobe := ProbeSettings.ofJson?_of_alters hcodec hprobe
  have hlog := LogSettings.ofJson?_of_alters hcodec hlog
  have hengine := Record.getD?_of_field hengine' hengine {}
  have hcache := Record.getD?_of_field hcache' hcache {}
  have hprobe := Record.getD?_of_field hprobe' hprobe {}
  have hlog := Record.getD?_of_field hlog' hlog {}
  rw [ofJson?, hrecord, Option.bind_eq_bind, Option.bind_some, hengine, hcache, hprobe, hlog]
  rfl

/-- Nothing is left out. -/
def Omission.none : Omission := ⟨fun _ => false, fun _ _ => false⟩

omit [JsonCodec] in
theorem without_none (config : Config) : config.without .none = config := rfl

omit [JsonCodec] in
theorem shows_toJson (config : Config) : Shows .none config config.toJson :=
  ⟨config.engine.toJson, config.cache.toJson, config.probe.toJson, config.log.toJson,
    alters_self _, alters_self _, alters_self _, alters_self _, alters_self _⟩

/-- Where everything is left out, nothing but defaults is read. -/
theorem ofJson?_emptyObject (hcodec : Lawful) : ofJson? (.object []) = some {} := by
  have hshows : Shows ⟨fun _ => true, fun _ _ => true⟩ {} (.object []) :=
    ⟨.object [], .object [], .object [], .object [],
      ⟨rfl, .refl _⟩, ⟨rfl, .refl _⟩, ⟨rfl, .refl _⟩, ⟨rfl, .refl _⟩, ⟨rfl, .refl _⟩⟩
  exact ofJson?_of_shows hcodec hshows

theorem load_of_shows {omission : Omission} {config : Config} {json : Json} {text : String}
    (hcodec : Lawful) (h : Shows omission config json) (hparse : parse? text = some json) :
    load text = (config.without omission).validate := by
  rw [load, hparse]
  show loadValue json = _
  rw [loadValue, ofJson?_of_shows hcodec h]

theorem isValue_toJson (config : Config) : IsValue config.toJson := by
  have hengine : IsValue config.engine.toJson := by
    apply isValue_ofMembers (by simp)
    simp only [List.forall_mem_cons]
    exact ⟨.count _, .bool _, .count _, nofun⟩
  have hcache : IsValue config.cache.toJson := by
    apply isValue_ofMembers (by simp)
    simp only [List.forall_mem_cons]
    exact ⟨.count _, .text _, nofun⟩
  have hprobe : IsValue config.probe.toJson := by
    apply isValue_ofMembers (by simp)
    simp only [List.forall_mem_cons]
    exact ⟨.count _, .count _, .count _, .count _, .bool _, nofun⟩
  have hlog : IsValue config.log.toJson := by
    apply isValue_ofMembers (by simp)
    simp only [List.forall_mem_cons]
    exact ⟨.text _, .text _, .bool _, nofun⟩
  apply isValue_ofMembers (by simp)
  simp only [List.forall_mem_cons]
  exact ⟨hengine, hcache, hprobe, hlog, nofun⟩

/-- A written configuration is loaded again, and what is loaded when parts of it were omitted is the
configuration with these parts at their defaults; each time, if the constraints are met. -/
theorem load_written (hcodec : Lawful) (config : Config) :
    (∀ layout, load (print layout config.toJson) = config.validate) ∧
      (∀ text, parse? text = some config.toJson → load text = config.validate) ∧
      ∀ omission json, Shows omission config json →
        (json.IsValue → ∀ layout,
          load (print layout json) = (config.without omission).validate) ∧
        ∀ text, parse? text = some json → load text = (config.without omission).validate := by
  have hwhole (text : String) (hparse : parse? text = some config.toJson) :
      load text = config.validate := by
    have hload := load_of_shows hcodec (shows_toJson config) hparse
    rwa [without_none] at hload
  refine ⟨?_, hwhole, ?_⟩
  · intro layout
    apply hwhole
    exact hcodec.parse_print layout (isValue_toJson config)
  · intro omission json hshows
    refine ⟨?_, fun text => load_of_shows hcodec hshows⟩
    intro hvalue layout
    exact load_of_shows hcodec hshows (hcodec.parse_print layout hvalue)

end Config

end

namespace Config

section Example

/-- Everything is left out but the number of sessions. -/
def onlySessions : Omission := ⟨(· != "engine"), fun _ name => name != "max_sessions"⟩

/-- The number of sessions, beside a member that no reader knows. -/
def sessionsText : String := "\x7b\"engine\": \x7b\"colour\": null, \"max_sessions\": 8\x7d\x7d"

theorem load_written_sessions :
    @JsonCodec.Lawful PlainJson.codec ∧ load sessionsText = .ok { engine.maxSessions := 8 } := by
  let config : Config := { engine.maxSessions := 8, probe.ipv6 := true }
  let engine : Json := .ofMembers [("colour", .null), ("max_sessions", .count 8)]
  have hshows : Shows onlySessions config (.ofMembers [("engine", engine)]) :=
    ⟨engine, .object [], .object [], .object [],
      ⟨rfl, .refl _⟩, ⟨rfl, .refl _⟩, ⟨rfl, .refl _⟩, ⟨rfl, .refl _⟩, ⟨rfl, .refl _⟩⟩
  have htokens : PlainJson.Token.split? sessionsText.toList = some
      [.openObject, .string (some "engine"), .colon, .openObject, .string (some "colour"), .colon,
        .null, .comma, .string (some "max_sessions"), .colon, .count 8, .closeObject,
        .closeObject] := by decide +kernel
  have hparse : JsonCodec.parse? sessionsText = some (.ofMembers [("engine", engine)]) := by
    show PlainJson.parse? sessionsText = _
    rw [PlainJson.parse?, htokens]
    rfl
  exact ⟨PlainJson.codec_lawful,
    ((load_written PlainJson.codec_lawful config).2.2 _ _ hshows).2 _ hparse⟩

end Example

end Config

end TunnelFirewall
