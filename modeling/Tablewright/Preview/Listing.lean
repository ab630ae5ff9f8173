import Tablewright.Summary
import Tablewright.ModelClass.Stored
import Tablewright.Preview.Style

namespace Tablewright.Preview

/-!
# Listings

What is shown of a compilation: its migrations, its model classes, or its
summary. A listing is text to be read or JSON to be processed.
-/

open Json Code

/-- The form of a listing. -/
inductive Format where
  | text
  | json
  deriving Repr, DecidableEq

/-- Why nothing can be listed. -/
inductive Missing where
  | table (name : String)
  | model (name : String)
  deriving Repr, DecidableEq

/-- The wording of what is missing. -/
def Missing.message : Missing → String
  | .table name => "unknown table '" ++ name ++ "'"
  | .model name => "unknown model '" ++ name ++ "'"

/-- Whether a name is selected; without a selection every name is. -/
def isSelected (selection : Option String) (name : String) : Bool :=
  match selection with
  | none => true
  | some selected => name == selected

/-- A document of JSON with its final line break. -/
def jsonListing (value : Value) : String :=
  value.pretty ++ "\n"

/-- A migration in a JSON listing. -/
def migrationJson (migration : Migration) : Value :=
  .object
    [ ("table", .string migration.table),
      ("model", .string migration.model),
      ("migration", .string migration.name),
      ("pivot", .boolean migration.pivot),
      ("dependencies", .ofTexts migration.dependencies),
      ("statements", .ofTexts migration.statements) ]

/-- A migration in a text listing. -/
def migrationText (palette : Palette) (migration : Migration) : String :=
  palette.paint .dimmed "//" ++ " " ++
    palette.paint .boldCyan migration.name ++ "\n" ++
    migration.block ++ "\n"

/-- The migrations that are shown, or the one of a table. -/
def migrations (output : Output) (table : Option String)
    (format : Format) (palette : Palette) : Except Missing String :=
  match table.filter (fun name => (output.migration? name).isNone) with
  | some name => .error (.table name)
  | none =>
      let shown := output.emittedMigrations.filter
        (fun migration => isSelected table migration.table)
      match format with
      | .json => .ok (jsonListing (.array (shown.map migrationJson)))
      | .text => .ok (String.join (shown.map (migrationText palette)))

/-- A line that declares a property of a class. -/
def propertyLine (declaration value : String) : String :=
  "    " ++ declaration ++ " = " ++ value ++ ";\n"

/-- A property that is declared under a condition. -/
def propertyWhen (condition : Bool) (declaration value : String) :
    String :=
  if condition then propertyLine declaration value else ""

/-- The line that declares a list, unless it is empty. -/
def listLine (name : String) (values : List String) : String :=
  propertyWhen (!values.isEmpty) ("protected $" ++ name)
    (bracketed (values.map enclose))

/-- The line that names the primary key, unless it is the usual one. -/
def primaryKeyLine : List String → String
  | [key] => propertyWhen (key != "id") "protected $primaryKey" (enclose key)
  | _ => ""

/-- A cast of an attribute. -/
def castText (cast : String × String) : String :=
  enclose cast.1 ++ " => " ++ enclose cast.2

/-- The traits of a class by their short names. -/
def traitNames (modelClass : ModelClass) : List String :=
  modelClass.traits.map Directive.ClassReference.shortName ++
    (if modelClass.softDeletes then ["SoftDeletes"] else [])

/-- The lines that declare the properties of a class. -/
def propertyLines (modelClass : ModelClass) : String :=
  String.join
    [ propertyLine "protected $table" (enclose modelClass.table),
      primaryKeyLine modelClass.primaryKey,
      propertyWhen (!modelClass.incrementing) "public $incrementing"
        "false",
      propertyWhen (modelClass.keyType != "int") "protected $keyType"
        (enclose modelClass.keyType),
      propertyWhen (!modelClass.timestamps) "public $timestamps" "false",
      listLine "fillable" modelClass.fillable,
      listLine "hidden" modelClass.hidden,
      listLine "guarded" modelClass.guarded,
      listLine "with" modelClass.eager,
      propertyWhen (!modelClass.casts.isEmpty) "protected $casts"
        (bracketed (modelClass.casts.map castText)) ]

/-- The method of a relation. -/
def relationText (palette : Palette) (relation : Relation.Definition) :
    String :=
  "\n    public function " ++ palette.paint .green relation.name ++
    "()\n    \x7b\n        return " ++ relation.callText ++
    ";\n    \x7d\n"

/-- The class comment, on a line of its own. -/
def commentLine (palette : Palette) : Option String → String
  | none => ""
  | some comment =>
      palette.paint .dimmed ("/** " ++ comment ++ " */") ++ "\n"

/-- The line that names the traits, if there are any. -/
def traitLine (names : List String) : String :=
  if names.isEmpty then ""
  else "    use " ++ ", ".intercalate names ++ ";\n\n"

/-- A model class in a text listing. -/
def classText (palette : Palette) (modelClass : ModelClass) : String :=
  let parent :=
    (modelClass.parent.map Directive.ClassReference.shortName).getD "Model"
  commentLine palette modelClass.comment ++
    palette.paint .magenta "class" ++ " " ++
    palette.paint .bold modelClass.className ++
    " extends " ++ parent ++ "\n\x7b\n" ++
    traitLine (traitNames modelClass) ++
    propertyLines modelClass ++
    String.join (modelClass.relations.map (relationText palette)) ++
    "\x7d\n"

/-- The model classes that are shown, or the one of a name. -/
def classes (output : Output) (name : Option String)
    (format : Format) (palette : Palette) : Except Missing String :=
  match name.filter (fun name => (output.class? name).isNone) with
  | some name => .error (.model name)
  | none =>
      let shown := output.emittedClasses.filter
        (fun modelClass => isSelected name modelClass.className)
      match format with
      | .json =>
          .ok (jsonListing (.array (shown.map ModelClass.toStored)))
      | .text =>
          .ok (String.join (shown.map
            (fun modelClass => classText palette modelClass ++ "\n")))

/-- The summary in a JSON listing. -/
def summaryJson (output : Output) : Value :=
  let summary := output.summary
  .object
    [ ("emitted_tables", .ofNat summary.emittedTables),
      ("models", .ofNat summary.classes),
      ("order", .ofTexts output.tableOrder),
      ("pivots", .ofNat summary.pivots),
      ("relations", .ofNat summary.relations),
      ("statements", .ofNat summary.statements),
      ("tables", .ofNat summary.tables),
      ("warnings", .ofTexts output.warnings) ]

/-- A warning in a text listing. -/
def warningText (palette : Palette) (warning : String) : String :=
  palette.paint .boldYellow "warning:" ++ " " ++ warning ++ "\n"

/-- The summary with all warnings. -/
def summary (output : Output) (format : Format) (palette : Palette) :
    String :=
  match format with
  | .json => jsonListing (summaryJson output)
  | .text =>
      output.summary.text ++
        String.join (output.warnings.map (warningText palette)) ++
        palette.paint .green "✓ schema compiles" ++ "\n"

end Tablewright.Preview
