import Tablewright.Command.Execution

open Tablewright Command

/-!
# The command

Reads the files that the arguments name, runs the command on them, and prints
what it answers.
-/

/-- Read a file if there is one at a path. -/
def readEntry (path : String) : IO (List (String × String)) := do
  try
    let content ← IO.FS.readFile path
    return [(path, content)]
  catch _ =>
    return []

/-- The usage of the command. -/
def usage : String :=
  "Usage: laragen [-c CONFIG] [--format text|json] [-v] [--no-color] " ++
    "(migrations SCHEMA [--table TABLE] | " ++
    "models SCHEMA [--model MODEL] | check SCHEMA)"

/-- Print what arguments that name nothing to list ask for. -/
def explain (fault : UsageFault) : IO UInt32 := do
  match fault with
  | .help =>
      IO.println usage
      return 0
  | .version =>
      IO.println "laragen 0.1.0"
      return 0
  | _ =>
      IO.eprintln usage
      return 2

/-- Print a fault with its cause. -/
def complain (fault : Fault) : IO UInt32 := do
  IO.eprintln ("Error: " ++ fault.context)
  match fault.cause with
  | some failure => IO.eprintln ("\nCaused by:\n    " ++ failure.message)
  | none => pure ()
  return 1

/-- Run the command. -/
def main (arguments : List String) : IO UInt32 := do
  match Invocation.ofArguments arguments with
  | .error fault => explain fault
  | .ok invocation =>
      let files ← invocation.paths.mapM readEntry
      match invocation.run ⟨files.flatten⟩ with
      | .ok text =>
          IO.print text
          return 0
      | .error fault => complain fault
