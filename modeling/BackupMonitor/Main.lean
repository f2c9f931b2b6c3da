import BackupMonitor.Agent.Filter
import BackupMonitor.Agent.LogText
import BackupMonitor.Agent.Run
/-!
# The agent as a program

Settings come from the arguments and the environment. Log lines go to standard output, the error
that ends the agent goes to standard error, and the exit code tells how it ended. No network is
linked in, so no server ever answers.
-/

open BackupMonitor

/-- The value of each of these variables. -/
def readVariables (names : List String) : IO (List (String × String)) := do
  let values ← names.mapM fun name => do return (name, ← IO.getEnv name)
  return values.filterMap fun (name, value) => value.map (name, ·)

/-- Runs the agent once. -/
def main (args : List String) : IO UInt32 := do
  let found ← readVariables Agent.envNames
  let env := fun name => found.lookup name
  match CommandLine.parse args env with
  | .error stop => return stop.exitCode.toUInt32
  | .ok settings =>
    let result := Agent.run settings .offline []
    for line in result.log.filter (Agent.logFilter settings env).passes do
      IO.println line.written
    match result.exit with
    | some exit =>
      if exit.error.isSome then IO.eprintln exit.stderr
      return exit.code.toUInt32
    | none => return 0
