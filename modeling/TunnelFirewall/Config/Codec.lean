import TunnelFirewall.Config.Basic
import TunnelFirewall.Json.Codec

/-!
# Configurations as JSON

Each group of settings is a record whose fields take their defaults when they are missing, and
a configuration is a record of such groups. Writing gives every field, in order.
-/
namespace TunnelFirewall

open Json JsonCodec

variable [JsonCodec]

namespace EngineSettings

def toJson (s : EngineSettings) : Json :=
  Json.ofMembers [("max_sessions", .count s.maxSessions.toNat),
    ("verify_ipv4_checksum", .bool s.verifyIPv4Checksum), ("mtu", .count s.mtu.toNat)]

/-- Reads settings, with defaults for missing fields. -/
def ofJson? (json : Json) : Option EngineSettings := do
  let record ← record? ["max_sessions", "verify_ipv4_checksum", "mtu"] json
  return {
    maxSessions := ← record.getD? asUInt64? "max_sessions" defaultMaxSessions
    verifyIPv4Checksum := ← record.getD? asBool? "verify_ipv4_checksum" defaultTrue
    mtu := ← record.getD? asUInt64? "mtu" defaultMtu }

end EngineSettings

namespace CacheSettings

def toJson (s : CacheSettings) : Json :=
  Json.ofMembers [("ttl_ms", .count s.ttl.toNat), ("proc_net_root", .text s.root)]

/-- Reads settings, with defaults for missing fields. -/
def ofJson? (json : Json) : Option CacheSettings := do
  let record ← record? ["ttl_ms", "proc_net_root"] json
  return {
    ttl := ← record.getD? asUInt64? "ttl_ms" defaultTtl
    root := ← record.getD? asText? "proc_net_root" defaultRoot }

end CacheSettings

namespace ProbeSettings

def toJson (s : ProbeSettings) : Json :=
  Json.ofMembers [("overall_timeout_ms", .count s.overallTimeout.toNat),
    ("poll_interval_ms", .count s.pollInterval.toNat),
    ("min_probe_size", .count s.minSize.toNat), ("max_probe_size", .count s.maxSize.toNat),
    ("ipv6", .bool s.ipv6)]

/-- Reads settings, with defaults for missing fields. -/
def ofJson? (json : Json) : Option ProbeSettings := do
  let record ← record?
    ["overall_timeout_ms", "poll_interval_ms", "min_probe_size", "max_probe_size", "ipv6"] json
  return {
    overallTimeout := ← record.getD? asUInt64? "overall_timeout_ms" defaultOverallTimeout
    pollInterval := ← record.getD? asUInt64? "poll_interval_ms" defaultPollInterval
    minSize := ← record.getD? asUInt64? "min_probe_size" defaultMinSize
    maxSize := ← record.getD? asUInt64? "max_probe_size" defaultMaxSize
    ipv6 := ← record.getD? asBool? "ipv6" false }

end ProbeSettings

namespace LogSettings

def toJson (s : LogSettings) : Json :=
  Json.ofMembers [("level", .text s.level), ("format", .text s.format), ("target", .bool s.target)]

/-- Reads settings, with defaults for missing fields. -/
def ofJson? (json : Json) : Option LogSettings := do
  let record ← record? ["level", "format", "target"] json
  return {
    level := ← record.getD? asText? "level" defaultLevel
    format := ← record.getD? asText? "format" defaultFormat
    target := ← record.getD? asBool? "target" defaultTrue }

end LogSettings

namespace Config

def toJson (config : Config) : Json :=
  Json.ofMembers [("engine", config.engine.toJson), ("uid_cache", config.cache.toJson),
    ("probe", config.probe.toJson), ("log", config.log.toJson)]

/-- Reads a configuration, with defaults for missing groups and fields. -/
def ofJson? (json : Json) : Option Config := do
  let record ← record? ["engine", "uid_cache", "probe", "log"] json
  return {
    engine := ← record.getD? EngineSettings.ofJson? "engine" {}
    cache := ← record.getD? CacheSettings.ofJson? "uid_cache" {}
    probe := ← record.getD? ProbeSettings.ofJson? "probe" {}
    log := ← record.getD? LogSettings.ofJson? "log" {} }

end Config

end TunnelFirewall
