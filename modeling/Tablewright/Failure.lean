import Tablewright.Json.Shape

namespace Tablewright

/-!
# Failures

Everything that can stop a compilation, by cause. The wording shown to a
user is given by `Failure.message` alone.
-/

/-- Why a document, a directive, a rule batch, a setting or a file was
rejected. -/
inductive Failure where
  | schemaInconsistency (model message : String)
  | modelNotFound (name : String)
  | fieldNotFound (model field : String)
  | directive (tag message : String)
  | ruleContract (rule message : String)
  | dependencyCycle (stuck : List String) (edges : List (String × String))
  | invalidSettings (message : String)
  | malformedToml
  | io (message : String)
  | fileRead (path message : String)
  | malformedJson
  | jsonShape (fault : Json.ShapeFault)
  | internal (message : String)
  | withContext (context message : String)
  deriving Repr, DecidableEq

namespace Failure

/-- A pair of tables, the referring one first. -/
def edgeText (edge : String × String) : String :=
  edge.1 ++ " -> " ++ edge.2

/-- The wording of a failure. -/
def message : Failure → String
  | .schemaInconsistency model message =>
      "Schema inconsistency in model '" ++ model ++ "': " ++ message
  | .modelNotFound name => "Model not found: " ++ name
  | .fieldNotFound model field =>
      "Field '" ++ field ++ "' not found in model '" ++ model ++ "'"
  | .directive tag message =>
      "Malformed directive '@" ++ tag ++ "': " ++ message
  | .ruleContract rule message =>
      "Rule '" ++ rule ++ "' rejected: " ++ message
  | .dependencyCycle stuck edges =>
      "Dependency cycle between tables [" ++ ", ".intercalate stuck ++
        "]; edges: [" ++ ", ".intercalate (edges.map edgeText) ++ "]"
  | .invalidSettings message => "Invalid configuration: " ++ message
  | .malformedToml => "TOML deserialization error"
  | .io message => "IO error: " ++ message
  | .fileRead path message =>
      "Failed to read file '" ++ path ++ "': " ++ message
  | .malformedJson => "JSON serialization error"
  | .jsonShape fault => "JSON serialization error: " ++ fault.message
  | .internal message => "Internal error: " ++ message
  | .withContext context message => context ++ ": " ++ message

/-- Whether the schema document contradicts itself. -/
def isSchema : Failure → Bool
  | .schemaInconsistency .. | .modelNotFound _ | .fieldNotFound .. => true
  | _ => false

/-- Whether the tables depend on each other in a cycle. -/
def isCycle : Failure → Bool
  | .dependencyCycle .. => true
  | _ => false

/-- Whether a file could not be used. -/
def isIo : Failure → Bool
  | .io _ | .fileRead .. => true
  | _ => false

/-- A failure retold with its context in front. -/
def inContext (context : String) (failure : Failure) : Failure :=
  .withContext context failure.message

end Failure

/-- An outcome that may be a failure. -/
abbrev Outcome (α : Type) : Type := Except Failure α

end Tablewright
