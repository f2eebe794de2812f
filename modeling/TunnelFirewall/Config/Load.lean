import TunnelFirewall.Config.Codec
import TunnelFirewall.Text.Numeral

/-!
# Loading configurations

A configuration comes from a JSON text, or from a file that holds one, and must meet every
constraint. Environment variables may then override three of its settings, after which it must
meet the constraints again.
-/
namespace TunnelFirewall.Config

variable [JsonCodec]

/-- What is said of a text or value that is no configuration. -/
def notConfiguration : Error := .parse "the text is not a configuration"

/-- Reads a configuration from a JSON value. -/
def loadValue (value : Json) : Except Error Config :=
  match ofJson? value with
  | some config => config.validate
  | none => .error notConfiguration

/-- Reads a configuration from a JSON text. -/
def load (text : String) : Except Error Config :=
  match JsonCodec.parse? text with
  | some value => loadValue value
  | none => .error notConfiguration

/-- Reads a configuration from what stands at a path. -/
def loadFile (path : String) (file : FileState) : Except Error Config :=
  if file.isPresent then
    match file.readText with
    | .ok text => load text
    | .error failure => .error (.io failure)
  else .error (.fileNotFound path)

/-- The values of environment variables. -/
abbrev Environment := String → Option String

/-- The variable that overrides the log level. -/
def logLevelVariable : String := "TUNGUARD_LOG_LEVEL"

/-- The variable that overrides the session cap. -/
def maxSessionsVariable : String := "TUNGUARD_MAX_SESSIONS"

/-- The variable that overrides the directory of the connection tables. -/
def tableRootVariable : String := "TUNGUARD_PROC_NET_ROOT"

/-- The session cap that an environment asks for: the present one if it says nothing. -/
def sessionCap (environment : Environment) (present : UInt64) : Except Error UInt64 :=
  match environment maxSessionsVariable with
  | none => .ok present
  | some text =>
    match Numeral.below? UInt64.size 10 text with
    | some value => .ok (UInt64.ofNat value)
    | none => .error (.environment maxSessionsVariable ("Invalid number: " ++ text))

/-- Applies the overrides of an environment. -/
def override (environment : Environment) (config : Config) : Except Error Config :=
  match sessionCap environment config.engine.maxSessions with
  | .error e => .error e
  | .ok maxSessions =>
    { config with
      engine.maxSessions := maxSessions
      log.level := (environment logLevelVariable).getD config.log.level
      cache.root := (environment tableRootVariable).getD config.cache.root : Config }.validate

/-- Reads a configuration from what stands at a path and applies the overrides. -/
def loadFileWith (environment : Environment) (path : String) (file : FileState) :
    Except Error Config :=
  match loadFile path file with
  | .ok config => config.override environment
  | .error e => .error e

/-- The content of a file with the default configuration. -/
def defaultText : String := JsonCodec.print .indented ({} : Config).toJson

end TunnelFirewall.Config
