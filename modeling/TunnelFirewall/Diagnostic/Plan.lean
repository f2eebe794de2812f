import TunnelFirewall.Config.Load
import TunnelFirewall.Diagnostic.Arguments
import TunnelFirewall.Diagnostic.Run
import TunnelFirewall.Error

/-!
# What a request comes to

A request is over at once, or asks for a default configuration to be written, or sets the
program to work on its input. Whichever it is, the program ends with lines of output and perhaps
a complaint, and its exit code tells whether there was one.
-/
namespace TunnelFirewall.Diagnostic

/-- The end of the program: its last lines of output and its complaint, if it has one. -/
structure Exit where
  output : List String := []
  complaint : Option String := none
deriving DecidableEq

namespace Exit

/-- One for an end with a complaint, zero for any other. -/
def code (exit : Exit) : UInt32 := if exit.complaint.isSome then 1 else 0

/-- The end after an error. -/
def failed (message : String) : Exit := { complaint := some (errorLine message) }

/-- The end once the default configuration has been written to a path, or could not be. -/
def ofWriting (path : String) : Except IoFailure Unit → Exit
  | .ok () => { output := [generatedNotice path] }
  | .error failure => failed (Config.Error.io failure).message

/-- The end once the input is used up, or could not be read on. -/
def ofReading : Option IoFailure → Exit
  | none => {}
  | some failure => failed (Error.io failure).message

end Exit

/-- What the program is to do next. -/
inductive Plan
  | leave (exit : Exit)
  /-- Write the default configuration to a path. -/
  | generate (path : String)
  /-- Take the lines of the input. -/
  | work (state : State)

variable [JsonCodec]

/-- The configuration of a run: that of the file at the path, with the overrides of the
environment, or the default configuration if there is no file. -/
def configuration (environment : Config.Environment) (path : String) (file : FileState) :
    Except Config.Error Config :=
  if file.isPresent then Config.loadFileWith environment path file else .ok {}

/-- What the options come to, given what stands at the path of the configuration. -/
def Options.plan (environment : Config.Environment) (file : FileState) (options : Options) : Plan :=
  if options.generate then .generate options.configPath
  else
    match configuration environment options.configPath file with
    | .error _ => .leave (.failed (loadComplaint options.configPath))
    | .ok config =>
      if options.checkOnly then .leave { output := [validNotice] }
      else .work (State.start config options.blocked)

namespace Request

/-- The path at which a request looks for its configuration. -/
def configPath? : Request → Option String
  | .run options => some options.configPath
  | _ => none

/-- What a request comes to, given what stands at the path of its configuration. -/
def plan (environment : Config.Environment) (file : FileState) : Request → Plan
  | .help => .leave { output := helpLines }
  | .version => .leave { output := [versionText] }
  | .unknown argument =>
    .leave { output := helpLines, complaint := some (unknownArgument argument) }
  | .run options => options.plan environment file

end Request

end TunnelFirewall.Diagnostic
