import Tablewright.Naming.Words
import Tablewright.Naming.Plural

namespace Tablewright.Naming

/-!
# Naming conventions

How models, columns, accessors and junction tables are named after each
other.
-/

/-- Small words joined by underscores. -/
def snake (identifier : String) : String :=
  "_".intercalate
    ((words identifier).map (fun word => String.ofList (smallWord word)))

/-- Capitalised words run together. -/
def pascal (identifier : String) : String :=
  String.ofList ((words identifier).flatMap capitalWord)

/-- A small first word followed by capitalised words. -/
def camel (identifier : String) : String :=
  match words identifier with
  | [] => ""
  | first :: rest =>
      String.ofList (smallWord first ++ rest.flatMap capitalWord)

/-- Drop the first of several endings that the name has, unless nothing
would be left. -/
def stripEnding (endings : List String) (name : String) : String :=
  match endings.find? (fun ending =>
      !ending.isEmpty && ending != name &&
        ending.toList.isSuffixOf name.toList) with
  | none => name
  | some ending => (Text.withoutEnding? ending name).getD name

/-- The junction table of two tables: their names in order, joined by an
underscore. -/
def junctionTable (first second : String) : String :=
  if second < first then second ++ "_" ++ first
  else first ++ "_" ++ second

/-- The junction column that refers to a column of a model. -/
def junctionKey (model column : String) : String :=
  snake model ++ "_" ++ column

end Tablewright.Naming
