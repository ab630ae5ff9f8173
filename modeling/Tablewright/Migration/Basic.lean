import Tablewright.Column.Builder
import Tablewright.Rule.Resolution

namespace Tablewright

/-!
# Migrations

The migration of a table: its lines in order, and the table they stem from.
A silent migration is compiled and ordered like any other but is not shown.
-/

/-- The compiled migration of a table. -/
structure Migration where
  model : String
  table : String
  lines : List Code.Line
  /-- The table after its resolution. -/
  resolved : Table
  silent : Bool
  /-- Whether the table was added for an implicit relation. -/
  pivot : Bool
  deriving Repr, DecidableEq

namespace Migration

/-- The other tables that have to exist first. -/
def dependencies (migration : Migration) : List String :=
  migration.resolved.dependencies.filter
    (fun target => target != migration.table)

/-- The conventional name of the migration. -/
def name (migration : Migration) : String :=
  "create_" ++ migration.table ++ "_table"

/-- The lines as text. -/
def statements (migration : Migration) : List String :=
  migration.lines.map Code.Line.text

/-- The code that creates the table. -/
def block (migration : Migration) : String :=
  "Schema::create('" ++ migration.table ++
    "', function (Blueprint $table) \x7b\n" ++
    String.join (migration.statements.map
      (fun statement => "    " ++ statement ++ "\n")) ++
    "\x7d);\n"

/-- Compile a model. -/
def compile (context : Context) (rules : RuleSet) (model : Schema.Model)
    (silent pivot : Bool) : Outcome Migration := do
  let table ← Table.ofModel context model
  let resolution := rules.resolve ⟨model.name, model.tableName⟩ table
  return {
    model := model.name
    table := model.tableName
    lines := resolution.lines
    resolved := resolution.table
    silent := silent
    pivot := pivot
  }

/-- Compile a model of the document. -/
def ofModel (context : Context) (rules : RuleSet) (model : Schema.Model) :
    Outcome Migration :=
  compile context rules model
    (context.modelDirectives model.name).silentInMigrations false

/-- Compile a junction model that was added for an implicit relation. -/
def ofPivot (context : Context) (rules : RuleSet) (model : Schema.Model) :
    Outcome Migration :=
  compile context rules model false true

end Migration

end Tablewright
