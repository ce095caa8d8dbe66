import FormLine.Program
/-!
# The command line

Reads the environment, the arguments and standard input, runs the command and writes what it leaves
behind.
-/

open FormLine

/-- The variables of the environment that settings are built from. -/
def settingVariables : List String :=
  ["FIELDSPEC_LOG_LEVEL", "MCP_TRANSPORT", "MCP_HOST", "MCP_PORT", "FIELDSPEC_INDENT_JSON",
    "FIELDSPEC_VERBOSE_OUTPUT"]

/-- The variables that are set. -/
def readEnvironment : IO Environment := do
  let found ← settingVariables.mapM fun name => do
    return (← IO.getEnv name).map fun value => (name, value)
  return found.filterMap id

/-- All that a stream still holds. -/
partial def readAll (stream : IO.FS.Stream) (soFar : String) : IO String := do
  let line ← stream.getLine
  if line.isEmpty then return soFar else readAll stream (soFar ++ line)

/-- Runs the command. -/
def main (arguments : List String) : IO UInt32 := do
  match Settings.ofEnvironment (← readEnvironment) with
  | .error e =>
    IO.eprintln (Text.notAnInteger e.text)
    return 1
  | .ok settings =>
    let stdin ← if Program.readsInput settings arguments then readAll (← IO.getStdin) "" else pure ""
    let outcome := Program.run settings arguments stdin
    IO.print outcome.stdout
    IO.eprint outcome.stderr
    match outcome.ending with
    | .exit code => return code.toUInt32
    | .fault e =>
      IO.eprintln e.message
      return 1
