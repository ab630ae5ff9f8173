import Tablewright.Migration.Order
import Tablewright.Migration.Pivot
import Tablewright.ModelClass.Builder
import Tablewright.Schema.Validation

namespace Tablewright

/-!
# Generator

A compilation from a schema document to ordered migrations and model
classes. The document is validated and its directives are read before
anything is produced.
-/

/-- What a compilation produces. -/
structure Output where
  /-- The migrations in the order in which they are run. -/
  migrations : List Migration := []
  /-- The model classes in document order. -/
  classes : List ModelClass := []
  warnings : List String := []
  deriving Repr, DecidableEq

namespace Output

/-- The migrations that are shown. -/
def emittedMigrations (output : Output) : List Migration :=
  output.migrations.filter (fun migration => !migration.silent)

/-- The model classes that are shown. -/
def emittedClasses (output : Output) : List ModelClass :=
  output.classes.filter (fun modelClass => !modelClass.silent)

/-- The first migration of a table. -/
def migration? (output : Output) (table : String) : Option Migration :=
  output.migrations.find? (fun migration => migration.table == table)

/-- The first class of a name. -/
def class? (output : Output) (name : String) : Option ModelClass :=
  output.classes.find? (fun modelClass => modelClass.className == name)

/-- The tables in the order of their migrations. -/
def tableOrder (output : Output) : List String :=
  output.migrations.map Migration.table

end Output

/-- Settings and rules for compilations. -/
structure Generator where
  settings : Settings := {}
  rules : RuleSet := RuleSet.standard

namespace Generator

/-- Add a batch of rules. -/
def registerRules (generator : Generator) (batch : List ColumnRule) :
    Outcome Generator := do
  let rules ← generator.rules.register batch
  return { generator with rules := rules }

/-- The junction models that the settings ask for. -/
def pivots (generator : Generator) (document : Schema.Document)
    (registries : List (String × Relation.Registry)) :
    Outcome (List Schema.Model) :=
  if generator.settings.implicitPivots then
    Migration.synthesizePivots document registries
  else .ok []

/-- The class of a model with its relations. -/
def classOf (context : Context) (model : Schema.Model)
    (registry : Relation.Registry) : Outcome ModelClass := do
  let table ← Table.ofModel context model
  return ModelClass.ofModel context model registry table

/-- Compile a document. -/
def generate (generator : Generator) (document : Schema.Document) :
    Outcome Output := do
  generator.settings.validate
  let report := document.validate
  report.toOutcome
  let context ← Context.ofDocument document generator.settings
  let registries ←
    Relation.inferDocument generator.settings.options document
  let declared ← document.models.mapM
    (Migration.ofModel context generator.rules)
  let junctions ← generator.pivots document registries
  let added ← junctions.mapM (Migration.ofPivot context generator.rules)
  let migrations ← Migration.sort (declared ++ added)
  let classes ← (document.models.zip registries).mapM
    fun (model, _, registry) => classOf context model registry
  return {
    migrations := migrations
    classes := classes
    warnings :=
      report.warnings.map Schema.Finding.warningText ++
        registries.flatMap (fun entry => entry.2.diagnostics)
  }

end Generator

end Tablewright
