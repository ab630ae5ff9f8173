import Tablewright.Schema.Document
import Tablewright.Directive.Parse

namespace Tablewright.Schema

/-!
# Validation of schema documents

Checks that every name a document uses resolves: relation targets, key
fields, enumerations, index fields and directives. Findings are collected
check by check and inside a check in document order.
-/

/-- What an error is about. -/
inductive ErrorCode where
  | duplicateModelName
  | duplicateFieldName
  | unknownRelationTarget
  | unknownRelationField
  | unknownEnum
  | unknownIndexField
  | malformedDirective
  deriving Repr, DecidableEq

/-- What a warning is about. -/
inductive WarningCode where
  | noPrimaryKey
  deriving Repr, DecidableEq

/-- A finding on a model. -/
structure Finding (κ : Type) where
  code : κ
  model : String
  message : String
  deriving Repr, DecidableEq

/-- An error as shown to a user. -/
def Finding.errorText (finding : Finding ErrorCode) : String :=
  "[" ++ finding.model ++ "] " ++ finding.message

/-- A warning as shown to a user. -/
def Finding.warningText (finding : Finding WarningCode) : String :=
  "[" ++ finding.model ++ "] Warning: " ++ finding.message

/-- The findings on a document. -/
structure Report where
  errors : List (Finding ErrorCode) := []
  warnings : List (Finding WarningCode) := []
  deriving Repr, DecidableEq

namespace Report

/-- A document is valid when there is no error. -/
def isValid (report : Report) : Bool :=
  report.errors.isEmpty

/-- Add an error. -/
def addError (report : Report) (finding : Finding ErrorCode) : Report :=
  { report with errors := report.errors ++ [finding] }

/-- Add a warning. -/
def addWarning (report : Report) (finding : Finding WarningCode) :
    Report :=
  { report with warnings := report.warnings ++ [finding] }

/-- The findings of two reports in order. -/
def merge (first second : Report) : Report :=
  { errors := first.errors ++ second.errors
    warnings := first.warnings ++ second.warnings }

/-- Fail with all errors of the first model that has one. -/
def toOutcome (report : Report) : Outcome Unit :=
  match report.errors with
  | [] => .ok ()
  | first :: _ =>
      let same := report.errors.filter
        (fun finding => finding.model == first.model)
      .error (.schemaInconsistency first.model
        ("; ".intercalate (same.map Finding.message)))

end Report

/-- The items of a list that occurred before in it. -/
def repeated : List String → List String → List String
  | _, [] => []
  | seen, item :: rest =>
      if seen.contains item then item :: repeated seen rest
      else repeated (item :: seen) rest

/-- A check of a document. -/
inductive Check where
  | modelNames
  | relationReferences
  | enumReferences
  | indexFields
  | directives
  deriving Repr, DecidableEq

namespace Check

/-- Every check by its name, in the order they are run. -/
def named : List (String × Check) :=
  [ ("model_names", .modelNames),
    ("relation_references", .relationReferences),
    ("enum_references", .enumReferences),
    ("index_fields", .indexFields), ("directives", .directives) ]

/-- Every check, in the order they are run. -/
def all : List Check := named.map Prod.snd

/-- The fields whose name occurred before in a model. -/
def fieldNameErrors (model : Model) : List (Finding ErrorCode) :=
  (repeated [] (model.fields.map Field.name)).map fun name =>
    ⟨.duplicateFieldName, model.name,
      "Duplicate field name: '" ++ name ++ "'"⟩

/-- Model and field names are distinct. -/
def modelNameErrors (seen : List String) :
    List Model → List (Finding ErrorCode)
  | [] => []
  | model :: rest =>
      let own : List (Finding ErrorCode) :=
        if seen.contains model.name then
          [⟨.duplicateModelName, model.name,
            "Duplicate model name: '" ++ model.name ++ "'"⟩]
        else []
      own ++ fieldNameErrors model ++
        modelNameErrors (model.name :: seen) rest

/-- Every model should have a primary key. -/
def primaryKeyWarnings (model : Model) : List (Finding WarningCode) :=
  if model.primaryKeyFields.isEmpty then
    [⟨.noPrimaryKey, model.name, "model has no primary key"⟩]
  else []

/-- The target and the key fields of a relation field exist. -/
def relationErrors (document : Document) (model : Model) (field : Field) :
    List (Finding ErrorCode) :=
  match document.model? field.typeName with
  | none =>
      [⟨.unknownRelationTarget, model.name,
        "relation field '" ++ field.name ++ "' targets unknown model '" ++
          field.typeName ++ "'"⟩]
  | some target =>
      ((field.relationFromFields.filter
        (fun name => (model.field? name).isNone)).map fun name =>
          ⟨.unknownRelationField, model.name,
            "relation '" ++ field.name ++ "' uses unknown local field '" ++
              name ++ "'"⟩) ++
      ((field.relationToFields.filter
        (fun name => (target.field? name).isNone)).map fun name =>
          ⟨.unknownRelationField, model.name,
            "relation '" ++ field.name ++ "' references unknown field '" ++
              target.name ++ "." ++ name ++ "'"⟩)

/-- Every enumeration field names an enumeration. -/
def enumErrors (document : Document) (model : Model) :
    List (Finding ErrorCode) :=
  (model.fields.filter (fun field =>
    field.kind == .enumeration &&
      (document.enum? field.typeName).isNone)).map fun field =>
        ⟨.unknownEnum, model.name,
          "field '" ++ field.name ++ "' uses unknown enum '" ++
            field.typeName ++ "'"⟩

/-- Primary keys and indexes name existing fields. -/
def indexErrors (model : Model) : List (Finding ErrorCode) :=
  let keyed := (model.primaryKey.map PrimaryKey.fields).getD []
  let indexed := model.indexes.flatMap Index.fields
  ((keyed ++ indexed).filter
    (fun name => (model.field? name).isNone)).map fun name =>
      ⟨.unknownIndexField, model.name,
        "index references unknown field '" ++ name ++ "'"⟩

/-- Every documentation string can be read. -/
def directiveErrors (model : Model) : List (Finding ErrorCode) :=
  (model.documentation :: model.fields.map Field.documentation).filterMap
    fun documentation =>
      match Directive.Set.ofDocumentation documentation with
      | .ok _ => none
      | .error failure =>
          some ⟨.malformedDirective, model.name, failure.message⟩

/-- Run one check. -/
def run (check : Check) (document : Document) : Report :=
  match check with
  | .modelNames =>
      { errors := modelNameErrors [] document.models
        warnings := document.models.flatMap primaryKeyWarnings }
  | .relationReferences =>
      { errors := document.models.flatMap fun model =>
          model.relationFields.flatMap (relationErrors document model) }
  | .enumReferences =>
      { errors := document.models.flatMap (enumErrors document) }
  | .indexFields => { errors := document.models.flatMap indexErrors }
  | .directives => { errors := document.models.flatMap directiveErrors }

end Check

/-- Run several checks in order. -/
def Document.validateWith (document : Document) (checks : List Check) :
    Report :=
  checks.foldl (fun report check => report.merge (check.run document)) {}

/-- Run every check. -/
def Document.validate (document : Document) : Report :=
  document.validateWith Check.all

end Tablewright.Schema
