import GuestNic.CommandLine.Run

/-!
# The program

The outer layer: arguments, environment and files go in, lines and an exit code come out.
-/

namespace GuestNic.Program

/-- The environment variables that stand in for options. -/
def variableNames : List String := CommandLine.Opt.all.filterMap CommandLine.Opt.variableName?

/-- The environment variables that are set, with their values. -/
def readEnvironment : IO (List (String × String)) :=
  variableNames.filterMapM fun name => do
    return (← IO.getEnv name).map fun value => (name, value)

/-- Read a file of the host. What is there but cannot be read is a directory. -/
def readFile (path : String) : IO FileContent := do
  try
    return .ok (← IO.FS.readBinFile path).toList
  catch
    | .noFileOrDirectory .. => return .error (.os .noSuchFile)
    | _ => return .error (.os .isDirectory)

/-- The path of the settings, if the arguments or the environment name one. -/
def settingsPath? (environment : String → Option String) (arguments : List String) :
    Option String :=
  match CommandLine.readArguments environment arguments with
  | .ok (.run given) => given.config
  | _ => none

/-- Run the program; the answer is the exit code. -/
def execute (arguments : List String) : IO UInt32 := do
  let set ← readEnvironment
  let environment := fun name => set.lookup name
  let content ← match settingsPath? environment arguments with
    | some path => readFile path
    | none => pure (.error (.os .noSuchFile))
  let around : CommandLine.Surroundings :=
    { environment, file := fun _ => content, host := .bare false }
  let outcome := CommandLine.run around arguments
  IO.print outcome.stdout
  IO.eprint outcome.stderr
  if outcome.exit = 0 then
    match outcome.duration with
    | some ms => IO.sleep ms.toUInt32
    | none => IO.sleep 0xffffffff
  return outcome.exit.toUInt32

end GuestNic.Program

def main (arguments : List String) : IO UInt32 := GuestNic.Program.execute arguments
