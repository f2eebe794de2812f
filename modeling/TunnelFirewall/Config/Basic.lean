import TunnelFirewall.Failure
import TunnelFirewall.Text.Quoted

/-!
# Configuration

The settings of the firewall, their defaults, and the constraints that a configuration has to
meet before it is used. Of several violated constraints the first in the order of the settings
is reported.
-/
namespace TunnelFirewall

/-- Settings and counters have 64 bits, and the larger of two of them is the larger number. -/
theorem toNat_max (a b : UInt64) : (max a b).toNat = max a.toNat b.toNat := by
  show (if a ≤ b then b else a).toNat = _
  by_cases h : a ≤ b
  · rw [if_pos h, Nat.max_eq_right (UInt64.le_iff_toNat_le.1 h)]
  · have hle := UInt64.le_of_lt (UInt64.not_le.1 h)
    rw [if_neg h, Nat.max_eq_left (UInt64.le_iff_toNat_le.1 hle)]

/-! Values of single settings that are not given. -/

def defaultTrue : Bool := true
def defaultMaxSessions : UInt64 := 1024
def defaultMtu : UInt64 := 10000
def defaultTtl : UInt64 := 30000
def defaultRoot : String := "/proc/net"
def defaultOverallTimeout : UInt64 := 60000
def defaultPollInterval : UInt64 := 300
def defaultMinSize : UInt64 := 17
def defaultMaxSize : UInt64 := 213
def defaultLevel : String := "info"
def defaultFormat : String := "pretty"

/-- Settings of packet dispatch. -/
structure EngineSettings where
  /-- Open sessions at which new flows are refused. -/
  maxSessions : UInt64 := defaultMaxSessions
  verifyIPv4Checksum : Bool := true
  /-- The largest packet that is read. -/
  mtu : UInt64 := defaultMtu
deriving DecidableEq

/-- Settings of the owner cache. -/
structure CacheSettings where
  /-- The lifetime of an entry in milliseconds. -/
  ttl : UInt64 := defaultTtl
  root : String := defaultRoot
deriving DecidableEq

/-- Settings of the probe for tunnel readiness. -/
structure ProbeSettings where
  /-- Give up after so many milliseconds. -/
  overallTimeout : UInt64 := defaultOverallTimeout
  /-- The length of one wait in milliseconds. -/
  pollInterval : UInt64 := defaultPollInterval
  minSize : UInt64 := defaultMinSize
  maxSize : UInt64 := defaultMaxSize
  ipv6 : Bool := false
deriving DecidableEq

structure LogSettings where
  level : String := defaultLevel
  format : String := defaultFormat
  /-- Name the part of the program that speaks. -/
  target : Bool := true
deriving DecidableEq

structure Config where
  engine : EngineSettings := {}
  cache : CacheSettings := {}
  probe : ProbeSettings := {}
  log : LogSettings := {}
deriving DecidableEq

namespace Config

/-- A constraint that a configuration violates. -/
inductive Violation
  | noSessions
  | smallMtu (mtu : UInt64)
  | noLifetime
  | noRoot
  | pollInterval (overall interval : UInt64)
  | probeSizes (min max : UInt64)
  | logFormat (format : String)
deriving DecidableEq

def Violation.message : Violation → String
  | .noSessions => "max_sessions must be greater than 0"
  | .smallMtu mtu => s!"mtu {mtu} is smaller than an IPv4 header"
  | .noLifetime => "uid_cache.ttl_ms must be greater than 0"
  | .noRoot => "uid_cache.proc_net_root cannot be empty"
  | .pollInterval overall interval =>
    s!"probe.poll_interval_ms must be in 1..={overall}, got {interval}"
  | .probeSizes min max => s!"invalid probe size range {min}..={max}"
  | .logFormat format =>
    "log.format must be \"json\" or \"pretty\", got " ++ Text.quoted format

/-- The constraints in order, each with whether it is violated. -/
def constraints (config : Config) : List (Bool × Violation) :=
  [ (config.engine.maxSessions == 0, .noSessions),
    (config.engine.mtu < 20, .smallMtu config.engine.mtu),
    (config.cache.ttl == 0, .noLifetime),
    (config.cache.root == "", .noRoot),
    (config.probe.pollInterval == 0 || config.probe.overallTimeout < config.probe.pollInterval,
      .pollInterval config.probe.overallTimeout config.probe.pollInterval),
    (config.probe.minSize == 0 || config.probe.maxSize < config.probe.minSize,
      .probeSizes config.probe.minSize config.probe.maxSize),
    (config.log.format != "json" && config.log.format != "pretty",
      .logFormat config.log.format) ]

def violation? (config : Config) : Option Violation :=
  (config.constraints.find? Prod.fst).map Prod.snd

def logsJson (config : Config) : Bool := config.log.format == "json"

/-- Why there is no configuration to use. -/
inductive Error
  | fileNotFound (path : String)
  | parse (detail : String)
  | validation (reason : String)
  | environment (name reason : String)
  | io (failure : IoFailure)
deriving DecidableEq

namespace Error

def message : Error → String
  | .fileNotFound path => "Configuration file not found: " ++ path
  | .parse detail => "Failed to parse configuration: " ++ detail
  | .validation reason => "Configuration validation failed: " ++ reason
  | .environment name reason => "Environment variable error: " ++ name ++ ": " ++ reason
  | .io failure => "I/O error reading configuration: " ++ failure.message

/-- Trying again is no use: every configuration error needs a change of the configuration. -/
def isRecoverable (_ : Error) : Bool := false

end Error

/-- The configuration itself, if it meets every constraint. -/
def validate (config : Config) : Except Error Config :=
  match config.violation? with
  | some violation => .error (.validation violation.message)
  | none => .ok config

end Config

end TunnelFirewall
