import Tablewright.Command.Arguments
import Tablewright.Command.Directory

namespace Tablewright.Command

/-!
# Executing a command

The settings are read before the schema document. Whatever fails is told
with the step that it stopped.
-/

/-- Why a command has failed. -/
structure Fault where
  /-- The step that failed. -/
  context : String
  cause : Option Failure := none
  deriving Repr, DecidableEq

/-- The settings file that is used without being asked for. -/
def defaultConfig : String := "laragen.toml"

/-- A failure with the step that it stopped. -/
def failing (context path : String) (outcome : Outcome α) :
    Except Fault α :=
  outcome.mapError
    (fun failure => ⟨context ++ " " ++ path, some failure⟩)

/-- Read a file for a step. -/
def readingFile (directory : Directory) (context path : String) :
    Except Fault String :=
  (directory.read path).mapError
    (fun _ => { context := context ++ " " ++ path })

/-- Read the settings of a path. -/
def settingsAt (directory : Directory) (path : String) :
    Except Fault Settings := do
  let content ← readingFile directory "failed to read config" path
  failing "invalid config" path (Settings.load content)

/-- The settings of an invocation. -/
def settingsFor (directory : Directory) (config : Option String) :
    Except Fault Settings :=
  match config with
  | some path => settingsAt directory path
  | none =>
      if directory.hasPath defaultConfig then
        settingsAt directory defaultConfig
      else .ok {}

/-- The schema document of a path. -/
def documentAt (directory : Directory) (path : String) :
    Except Fault Schema.Document := do
  let content ← readingFile directory "failed to read schema" path
  failing "invalid schema" path (Schema.Document.load content)

/-- Say what is missing. -/
def orMissing (listed : Except Preview.Missing String) :
    Except Fault String :=
  listed.mapError (fun missing => { context := missing.message })

namespace Invocation

/-- List a compilation. -/
def list (invocation : Invocation) (output : Output) :
    Except Fault String :=
  match invocation.listing with
  | .migrations =>
      orMissing (Preview.migrations output invocation.selection
        invocation.format invocation.palette)
  | .models =>
      orMissing (Preview.classes output invocation.selection
        invocation.format invocation.palette)
  | .check =>
      .ok (Preview.summary output invocation.format invocation.palette)

/-- Run a command in a directory; what it prints. -/
def run (invocation : Invocation) (directory : Directory) :
    Except Fault String := do
  let settings ← settingsFor directory invocation.config
  let document ← documentAt directory invocation.schema
  let generator : Generator := { settings := settings }
  let output ← failing "failed to compile" invocation.schema
    (generator.generate document)
  invocation.list output

/-- The files that a command may read. -/
def paths (invocation : Invocation) : List String :=
  [invocation.config.getD defaultConfig, invocation.schema]

end Invocation

end Tablewright.Command
