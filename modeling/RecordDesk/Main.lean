import RecordDesk.CommandLine
import RecordDesk.View.Screen

/-!
The program. It reads its surroundings, runs the command line over them and prints what comes of it.
There is no transport in it, so that it reaches no server.
-/

namespace RecordDesk.Program

/-- A network that carries nothing over. -/
def offline : Web.Network Unit := fun _ s => (.unreachable, s)

/-- What there is at a path. -/
def fileAt (path : String) : IO Config.File := do
  try return .text (← IO.FS.readFile path)
  catch
    | .noFileOrDirectory _ _ _ => return .missing
    | e => return .unreadable (toString e)

/-- A directory that a variable names, or one in the home directory. -/
def rootFrom (name tail : String) : IO (Option String) := do
  match ← IO.getEnv name with
  | some dir => return some dir
  | none => return (← IO.getEnv "HOME").map (· ++ tail)

def environment : IO CommandLine.Environment := do
  return ⟨← IO.getEnv CommandLine.configPathVariable, ← IO.getEnv CommandLine.apiKeyVariable,
    ← IO.getEnv CommandLine.logVariable⟩

/-- The screen that a desk starts with. -/
def firstScreen (config : Config) : String :=
  Text.joinWith "\n" (Screen.draw (Desk.new config.startTab).start.desk 80 24) ++ "\n"

/-- The files that the variables and the arguments may name, read ahead. No log is written. -/
def disk (env : CommandLine.Environment) (arguments : List String) : IO CommandLine.Disk := do
  let configRoot ← rootFrom "XDG_CONFIG_HOME" "/.config"
  let dataRoot ← rootFrom "XDG_DATA_HOME" "/.local/share"
  let paths := env.configPath.toList ++ (configRoot.map (· ++ "/recdesk/config.toml")).toList ++ arguments
  let files ← paths.mapM fun path => do return (path, ← fileAt path)
  return {
    file := fun path => ((files.find? (·.1 == path)).map (·.2)).getD .missing
    configRoot
    dataRoot
    refusal := fun _ => none }

/-- Runs the program; failures go to the error output. -/
def run (arguments : List String) : IO UInt32 := do
  let env ← environment
  let (ending, _) := CommandLine.run env (← disk env arguments) Toml.reader offline arguments ()
  match ending with
  | .ok (.print s) =>
    IO.print s
    return 0
  | .ok (.desk config _) =>
    IO.print (firstScreen config)
    return 0
  | .error (.failed e) =>
    IO.eprintln e.text
    return 1
  | .error .overflow =>
    IO.eprintln "attempt to multiply with overflow"
    return 101

end RecordDesk.Program

def main (arguments : List String) : IO UInt32 := RecordDesk.Program.run arguments
