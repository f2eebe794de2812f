import TunnelFirewall.Diagnostic.Plan
import TunnelFirewall.Outer.Hex
import TunnelFirewall.Outer.Json
import TunnelFirewall.Text.Line

/-!
# The diagnostic program

Reads packets in hexadecimal from standard input, one a line, and prints what the engine makes of
each. All that is decided is decided elsewhere; this module reads files, variables and lines, and
prints.
-/
namespace TunnelFirewall.Diagnostic

/-- The failure that a system error stands for. -/
def failureOf (error : IO.Error) : IoFailure :=
  let worded (kind : IoFailure.Kind) (code : UInt32) (details : String) : IoFailure :=
    ⟨kind, s!"{details} (os error {code})"⟩
  match error with
  | .noFileOrDirectory _ _ _ => .missing
  | .inappropriateType _ 21 _ => .directory
  | .inappropriateType _ code details => worded .other code details
  | .permissionDenied _ code details => worded .permissionDenied code details
  | .timeExpired code details => worded .timedOut code details
  | .interrupted _ code details => worded .interrupted code details
  | .invalidArgument _ code details => worded .other code details
  | .resourceExhausted _ code details => worded .other code details
  | .otherError code details => worded .other code details
  | error => ⟨.other, toString error⟩

/-- A path that leads somewhere, whether or not what stands there can be read. -/
def leadsSomewhere (path : String) : IO Bool := do
  try
    let _ ← IO.FS.realPath path
    return true
  catch _ => return false

/-- What stands at a path. -/
def stateOfPath (path : String) : IO FileState := do
  try
    return .regular (← IO.FS.readBinFile path).toList
  catch error =>
    if ← leadsSomewhere path then
      match error with
      | .inappropriateType _ 21 _ => return .directory
      | error => return .unreadable (failureOf error)
    else return .absent

/-- The connection tables in a directory, as they are now, and the present moment. -/
def presentSurroundings (cache : OwnerCache) : IO Surroundings := do
  let mut states : List (ConnectionTable × FileState) := []
  for table in ConnectionTable.all do
    states := (table, ← stateOfPath (cache.path table)) :: states
  let files : TableFiles := fun table =>
    ((states.find? fun entry => entry.1 = table).map Prod.snd).getD .absent
  return ⟨← IO.monoMsNow, files⟩

/-- The environment variables that a configuration looks at. -/
def presentEnvironment : IO Config.Environment := do
  let mut values : List (String × String) := []
  for name in [Config.logLevelVariable, Config.maxSessionsVariable, Config.tableRootVariable] do
    if let some value ← IO.getEnv name then
      values := (name, value) :: values
  return fun name => (values.find? fun entry => entry.1 = name).map Prod.snd

/-- Writes a text to a path. -/
def writeText (path text : String) : IO (Except IoFailure Unit) := do
  try
    IO.FS.writeFile path text
    return .ok ()
  catch error =>
    return .error (failureOf error)

/-- Prints what an end of the program says and gives its exit code. -/
def leave (exit : Exit) : IO UInt32 := do
  if let some complaint := exit.complaint then
    IO.eprintln complaint
  for line in exit.output do
    IO.println line
  return exit.code

/-- Takes lines one after another and prints what comes of each. -/
def printLines : List Bytes → State → IO (Except IoFailure State)
  | [], state => return .ok state
  | line :: rest, state => do
    match Utf8.decode? line with
    | none => return .error .notText
    | some text =>
      let around ← presentSurroundings state.desk.cache
      let (report, state) := state.takeLine around text
      if let some report := report then
        let out ← IO.getStdout
        out.putStrLn report.text
        out.flush
      printLines rest state

/-- Reads standard input up to its end and takes its lines as they come. -/
partial def printInput (pending : Bytes) (state : State) : IO (Except IoFailure State) := do
  let chunk ← (← IO.getStdin).read 65536
  if chunk.isEmpty then
    printLines (Line.split pending) state
  else
    let bytes := pending ++ chunk.toList
    let tail := (bytes.reverse.takeWhile (· != 0x0A)).reverse
    match ← printLines (Line.split (bytes.take (bytes.length - tail.length))) state with
    | .ok state => printInput tail state
    | .error failure => return .error failure

end TunnelFirewall.Diagnostic

open TunnelFirewall TunnelFirewall.Diagnostic in
def main (arguments : List String) : IO UInt32 := do
  let request := Request.ofArguments arguments
  let file ←
    match request.configPath? with
    | some path => stateOfPath path
    | none => pure .absent
  match request.plan (← presentEnvironment) file with
  | .leave exit => leave exit
  | .generate path => leave (.ofWriting path (← writeText path Config.defaultText))
  | .work state =>
    match ← printInput [] state with
    | .ok _ => leave (.ofReading none)
    | .error failure => leave (.ofReading (some failure))
