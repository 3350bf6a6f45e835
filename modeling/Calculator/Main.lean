import Calculator.Command

/-!
The calculator's program: runs the command line with the configuration file it names and the
calculator's environment variables, prints what it prints, and exits with its code. A
configuration file that is not UTF-8 text stops the program before the command runs, with
code 1 and nothing printed.
-/

open Calculator

/-- The text of the configuration file, or nothing when it is missing or cannot be read. Bytes
that are not UTF-8 text are no missing file: the settings loader lets that failure through, and
it ends the program. -/
def readConfigFile (path : String) : IO (Option String) := do
  let bytes ← try pure (some (← IO.FS.readBinFile path)) catch _ => pure none
  match bytes with
  | none => pure none
  | some b =>
    match String.fromUTF8? b with
    | some text => pure (some text)
    | none => throw (IO.userError s!"{path} is not UTF-8 text")

/-- Runs the command line on the program's arguments. -/
def main (args : List String) : IO UInt32 := do
  let mut env : List (String × String) := []
  for name in [maxDepthVariable, logLevelVariable] do
    if let some value ← IO.getEnv name then
      env := env ++ [(name, value)]
  let config ← match Command.configFile args with
    | some path => do pure ((path, ·) <$> (← readConfigFile path))
    | none => pure none
  let readFile := fun (path : String) =>
    match config with
    | some (p, text) => if p == path then some text else none
    | none => none
  let outcome := Command.run args readFile env
  IO.print outcome.output
  pure outcome.exitCode.toUInt32
