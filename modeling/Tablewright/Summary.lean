import Tablewright.Generator

namespace Tablewright

/-!
# Summaries

What a compilation amounts to in numbers, and the box that shows them.
-/

/-- The numbers of a compilation. -/
structure Summary where
  /-- All tables, whether they are shown or not. -/
  tables : Nat
  emittedTables : Nat
  /-- Tables added for implicit relations. -/
  pivots : Nat
  /-- Lines of the tables that are shown. -/
  statements : Nat
  /-- Model classes that are shown. -/
  classes : Nat
  /-- Relations of the model classes that are shown. -/
  relations : Nat
  warnings : Nat
  deriving Repr, DecidableEq

/-- The summary of a compilation. -/
def Output.summary (output : Output) : Summary :=
  { tables := output.migrations.length
    emittedTables := output.emittedMigrations.length
    pivots := (output.migrations.filter Migration.pivot).length
    statements :=
      output.emittedMigrations.foldl
        (fun total migration => total + migration.lines.length) 0
    classes := output.emittedClasses.length
    relations :=
      output.emittedClasses.foldl
        (fun total modelClass => total + modelClass.relations.length) 0
    warnings := output.warnings.length }

namespace Summary

/-- The numbers as JSON. -/
def toStored (summary : Summary) : Json.Value :=
  .object
    [ ("tables", .ofNat summary.tables),
      ("emitted_tables", .ofNat summary.emittedTables),
      ("pivots", .ofNat summary.pivots),
      ("statements", .ofNat summary.statements),
      ("models", .ofNat summary.classes),
      ("relations", .ofNat summary.relations),
      ("warnings", .ofNat summary.warnings) ]

/-- The width of the box between its borders. -/
def width : Nat := 50

/-- A text filled up with blanks at the end. -/
def padded (width : Nat) (text : String) : String :=
  text ++ String.ofList (List.replicate (width - text.length) ' ')

/-- A horizontal border between two corners. -/
def border (left right : String) : String :=
  left ++ String.ofList (List.replicate width '═') ++ right ++ "\n"

/-- A row of the box: a label of fifteen places and a number. -/
def row (label : String) (count : Nat) : String :=
  "║" ++ padded 15 label ++ padded 35 (toString count) ++ "║\n"

/-- The box with the numbers. -/
def text (summary : Summary) : String :=
  String.join
    [ border "╔" "╗",
      "║" ++ padded width "         Generation Complete" ++ "║\n",
      border "╠" "╣",
      row "  Tables:" summary.tables,
      row "    Emitted:" summary.emittedTables,
      row "    Pivots:" summary.pivots,
      row "  Statements:" summary.statements,
      row "  Models:" summary.classes,
      row "  Relations:" summary.relations,
      row "  Warnings:" summary.warnings,
      border "╚" "╝" ]

end Summary

end Tablewright
