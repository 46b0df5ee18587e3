import DicePool.Cli.Run

/-!
# Main — the program

Reads the environment and the files around it, runs the command line, and prints what comes of it.
-/

open DicePool

/-- The text of a file, if it can be read. -/
def fileText? (path : String) : IO (Option String) :=
  try return some (← IO.FS.readFile path) catch _ => return none

/-- The variables of the environment that set a field. -/
def environmentVariables : IO (Named String) := do
  let spellings := Settings.fieldNames.flatMap fun name => [name, name.map Char.toUpper]
  let found ← spellings.mapM fun name => return (← IO.getEnv name).map fun v => (name, v)
  return found.filterMap id

/-- What is told about a failure. -/
def failureText : Cli.Failure → String
  | .misfit m => m.message
  | .command (.options problems) => ofProblems problems
  | .command (.settings (.invalid problems)) => ofProblems problems
  | .command e => e.message
where
  /-- A line for each problem. -/
  ofProblems (problems : List Problem) : String :=
    "\n".intercalate (problems.map fun p =>
      ".".intercalate (p.place.map fun
        | .field name => name
        | .item i => toString i) ++ ": " ++ p.complaint.code)

/-- Runs the command line. -/
def main (args : List String) : IO UInt32 := do
  let around : Environment :=
    { vars := ← environmentVariables, config := ← fileText? "config.toml",
      dotenv := ← fileText? ".env", dotenvLocal := ← fileText? ".env.local" }
  let entropy ← IO.rand 0 (Nat.pow 2 62)
  match Cli.run Bot.commands around entropy args with
  | .error e =>
    IO.eprintln e.message
    return 1
  | .ok (outcome, _) =>
    IO.print outcome.out
    IO.eprint outcome.err
    if let some e := outcome.failure then IO.eprintln (failureText e)
    return UInt32.ofNat outcome.exitCode
