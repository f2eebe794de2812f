import TunnelFirewall.Text.Quoted

/-!
# The command line

The arguments of the diagnostic program are read from left to right. A request for help or for
the version, and an argument that is not known, end the reading at once. An option that lacks
its value is passed over.
-/
namespace TunnelFirewall.Diagnostic

/-- What the diagnostic program is to do. -/
structure Options where
  configPath : String := "/etc/tunguard/config.json"
  /-- Write a default configuration and stop. -/
  generate : Bool := false
  /-- Check the configuration and stop. -/
  checkOnly : Bool := false
  /-- Domains whose sessions are blocked, as they were given. -/
  blocked : List String := []
deriving DecidableEq

/-- What the arguments come to. -/
inductive Request
  | help
  | version
  | unknown (argument : String)
  | run (options : Options)
deriving DecidableEq

/-- Reads arguments on top of the options read so far. -/
def readArguments (options : Options) : List String → Request
  | [] => .run options
  | argument :: rest =>
    if argument = "-c" ∨ argument = "--config" then
      match rest with
      | path :: rest => readArguments { options with configPath := path } rest
      | [] => .run options
    else if argument = "-g" ∨ argument = "--generate-config" then
      readArguments { options with generate := true } rest
    else if argument = "--check" then readArguments { options with checkOnly := true } rest
    else if argument = "--block" then
      match rest with
      | domain :: rest =>
        readArguments { options with blocked := options.blocked ++ [domain] } rest
      | [] => .run options
    else if argument = "-h" ∨ argument = "--help" then .help
    else if argument = "-v" ∨ argument = "--version" then .version
    else .unknown argument

/-- What the arguments of the program ask for. -/
def Request.ofArguments (arguments : List String) : Request := readArguments {} arguments

/-- The name and version of the program. -/
def versionText : String := "tunguard v0.1.0"

def helpLines : List String :=
  [ versionText,
    "",
    "On-device tun firewall core, driven from hex packets on stdin.",
    "",
    "USAGE:",
    "    tunguard [OPTIONS] < packets.hex",
    "",
    "OPTIONS:",
    "    -c, --config <PATH>     Configuration file path [default: /etc/tunguard/config.json]",
    "    -g, --generate-config   Generate default configuration and exit",
    "    --check                 Check configuration and exit",
    "    --block <DOMAIN>        Block TLS sessions to DOMAIN and its subdomains (repeatable)",
    "    -h, --help              Print help information",
    "    -v, --version           Print version information",
    "",
    "ENVIRONMENT:",
    "    TUNGUARD_LOG_LEVEL      Override log level (trace, debug, info, warn, error)",
    "    TUNGUARD_MAX_SESSIONS   Override the session cap",
    "    TUNGUARD_PROC_NET_ROOT  Override the connection table directory",
    "" ]

/-- The complaint about an argument that is not known. -/
def unknownArgument (argument : String) : String := "Unknown argument: " ++ argument

/-- The notice that a configuration was written. -/
def generatedNotice (path : String) : String :=
  "Generated default configuration at " ++ Text.quoted path

/-- The notice that a configuration can be used. -/
def validNotice : String := "Configuration is valid"

/-- The complaint about a configuration that cannot be used. -/
def loadComplaint (path : String) : String :=
  "Failed to load configuration from " ++ Text.quoted path

/-- The line that ends the program with an error. -/
def errorLine (message : String) : String := "Error: " ++ message

end TunnelFirewall.Diagnostic
