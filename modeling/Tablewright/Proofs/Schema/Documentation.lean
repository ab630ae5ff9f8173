import Mathlib.Logic.Function.Basic
import Mathlib.Tactic.Simps.Basic
import Tablewright.Proofs.Failure
import Tablewright.Schema.Inconsistency
import Tablewright.Schema.Validation

namespace Tablewright

/-!
# Documentation that reads the same

Documentation strings are read for their directives, and what is left of them
is a comment.  Two documents are alike if they differ in documentation only,
and the strings in each place read the same up to the comment.  Rewording
every string of a document by one function makes alike documents equal, so it
is enough to follow a reworded document through the compilation: what is looked
up in it are the reworded models and fields, and everything else is the same.
-/

namespace Directive.Set

/-- The directives alone. -/
def withoutComment (set : Set) : Set :=
  { set with comment := none }

/-- What is blind to comments is the same for the same directives. -/
theorem eq_of_withoutComment_eq
    {β : Type}
    {first second : Set}
    (same : second.withoutComment = first.withoutComment)
    {ask : Set → β}
    (blind : ∀ set, ask set.withoutComment = ask set) :
    ask second = ask first := by
  rw [← blind second, same, blind]

/-- What a documentation string says, comments aside. -/
def reading (documentation : Option String) : Outcome Set :=
  (ofDocumentation documentation).map withoutComment

/-- A step that is blind to comments only needs to know the directives. -/
theorem reading_bind
    {β : Type}
    {next : Set → Outcome β}
    (blind : ∀ set, next set.withoutComment = next set)
    (documentation : Option String) :
    (reading documentation >>= next) =
      (ofDocumentation documentation >>= next) := by
  unfold reading
  cases ofDocumentation documentation with
  | error failure => rfl
  | ok set => exact blind set

/-- A string that stands for all that read the same. -/
noncomputable def representative (documentation : Option String) :
    Option String :=
  Function.invFun reading (reading documentation)

theorem representative_eq
    {documentation other : Option String}
    (same : reading other = reading documentation) :
    representative other = representative documentation := by
  rw [representative, representative, same]

/-- A function on documentation strings that changes comments at most. -/
def KeepsReadings (reword : Option String → Option String) : Prop :=
  ∀ documentation, reading (reword documentation) = reading documentation

theorem keepsReadings_representative :
    KeepsReadings representative :=
  fun documentation => Function.invFun_eq ⟨documentation, rfl⟩

/-- Rewording is not noticed by a step that is blind to comments. -/
theorem KeepsReadings.bind_eq
    {reword : Option String → Option String}
    (keeps : KeepsReadings reword)
    {β : Type}
    {next : Set → Outcome β}
    (blind : ∀ set, next set.withoutComment = next set)
    (documentation : Option String) :
    (ofDocumentation (reword documentation) >>= next) =
      (ofDocumentation documentation >>= next) := by
  rw [← reading_bind blind, ← reading_bind blind, keeps]

end Directive.Set

namespace Schema

open Directive.Set (reading representative KeepsReadings)

/-! ## Alike documents -/

/-- Two fields that differ in their comments at most. -/
structure Field.Alike (field other : Field) : Prop where
  same : other = { field with documentation := other.documentation }
  reading : reading other.documentation = reading field.documentation

/-- Two models that differ in comments at most. -/
structure Model.Alike (model other : Model) : Prop where
  same :
    other =
      { model with
        documentation := other.documentation, fields := other.fields }
  reading : reading other.documentation = reading model.documentation
  fields : List.Forall₂ Field.Alike model.fields other.fields

/-- Two documents that differ in comments at most. -/
structure Document.Alike (document other : Document) : Prop where
  enums : other.enums = document.enums
  models : List.Forall₂ Model.Alike document.models other.models

/-- The field with another documentation. -/
@[simps]
def Field.reworded (reword : Option String → Option String)
    (field : Field) : Field :=
  { field with documentation := reword field.documentation }

/-- The model with other documentation. -/
@[simps]
def Model.reworded (reword : Option String → Option String)
    (model : Model) : Model :=
  { model with
    documentation := reword model.documentation
    fields := model.fields.map (Field.reworded reword) }

/-- The document with other documentation. -/
@[simps]
def Document.reworded (reword : Option String → Option String)
    (document : Document) : Document :=
  { document with models := document.models.map (Model.reworded reword) }

theorem Field.Alike.reworded_eq
    {field other : Field}
    (alike : field.Alike other) :
    field.reworded representative = other.reworded representative := by
  obtain ⟨same, read⟩ := alike
  rw [same] at read ⊢
  simp only [Field.reworded, Directive.Set.representative_eq read]

theorem Model.Alike.reworded_eq
    {model other : Model}
    (alike : model.Alike other) :
    model.reworded representative = other.reworded representative := by
  obtain ⟨same, read, fields⟩ := alike
  have sameFields := Outcome.map_eq_map_of_forall₂
    (fields.imp fun _ _ => Field.Alike.reworded_eq)
  rw [same] at read ⊢
  simp only [Model.reworded, Directive.Set.representative_eq read,
    sameFields]

/-- Alike documents become equal when every string is replaced by the one that
stands for it. -/
theorem Document.Alike.reworded_eq
    {document other : Document}
    (alike : document.Alike other) :
    document.reworded representative = other.reworded representative := by
  have sameModels := Outcome.map_eq_map_of_forall₂
    (alike.models.imp fun _ _ => Model.Alike.reworded_eq)
  simp only [Document.reworded, alike.enums, sameModels]

/-! ## Looking up in a reworded document -/

section Reworded

variable (reword : Option String → Option String)

section Fields

variable (field : Field)

@[simp]
theorem Field.columnName_reworded :
    (field.reworded reword).columnName = field.columnName :=
  rfl

@[simp]
theorem Field.isOwning_reworded :
    (field.reworded reword).isOwning = field.isOwning :=
  rfl

@[simp]
theorem Field.isColumn_reworded :
    (field.reworded reword).isColumn = field.isColumn :=
  rfl

end Fields

namespace Model

variable (model : Model)

@[simp]
theorem tableName_reworded :
    (model.reworded reword).tableName = model.tableName :=
  rfl

@[simp]
theorem field?_reworded
    (name : String) :
    (model.reworded reword).field? name =
      (model.field? name).map (Field.reworded reword) := by
  simp only [field?, reworded_fields, List.find?_map, Function.comp_def,
    Field.reworded_name]

@[simp]
theorem columnOf_reworded
    (name : String) :
    (model.reworded reword).columnOf name = model.columnOf name := by
  simp [columnOf, Function.comp_def]

@[simp]
theorem columnsOf_reworded
    (names : List String) :
    (model.reworded reword).columnsOf names = model.columnsOf names := by
  simp [columnsOf]

/-- The fields with a property that does not depend on documentation. -/
theorem filter_fields_reworded
    (property : Field → Bool)
    (blind : ∀ field, property (field.reworded reword) = property field) :
    (model.reworded reword).fields.filter property =
      (model.fields.filter property).map (Field.reworded reword) := by
  rw [reworded_fields, List.filter_map]
  exact congrArg _ (List.filter_congr fun field _ => blind field)

@[simp]
theorem columns_reworded :
    (model.reworded reword).columns =
      model.columns.map (Field.reworded reword) :=
  filter_fields_reworded reword model _ fun _ => rfl

@[simp]
theorem relationFields_reworded :
    (model.reworded reword).relationFields =
      model.relationFields.map (Field.reworded reword) :=
  filter_fields_reworded reword model _ fun _ => rfl

@[simp]
theorem owningRelations_reworded :
    (model.reworded reword).owningRelations =
      model.owningRelations.map (Field.reworded reword) :=
  filter_fields_reworded reword model _ fun _ => rfl

@[simp]
theorem primaryKeyFields_reworded :
    (model.reworded reword).primaryKeyFields = model.primaryKeyFields := by
  simp only [primaryKeyFields,
    filter_fields_reworded reword model Field.isId fun _ => rfl]
  simp [Function.comp_def]

@[simp]
theorem primaryKeyColumns_reworded :
    (model.reworded reword).primaryKeyColumns = model.primaryKeyColumns := by
  simp [primaryKeyColumns]

@[simp]
theorem uniqueSets_reworded :
    (model.reworded reword).uniqueSets = model.uniqueSets := by
  simp only [uniqueSets,
    filter_fields_reworded reword model Field.isUnique fun _ => rfl]
  simp [Function.comp_def]

end Model

namespace Document

variable (document : Document)

@[simp]
theorem model?_reworded
    (name : String) :
    (document.reworded reword).model? name =
      (document.model? name).map (Model.reworded reword) := by
  simp only [model?, reworded_models, List.find?_map, Function.comp_def,
    Model.reworded_name]

@[simp]
theorem enum?_reworded
    (name : String) :
    (document.reworded reword).enum? name = document.enum? name :=
  rfl

@[simp]
theorem enumValues_reworded
    (name : String) :
    (document.reworded reword).enumValues name = document.enumValues name :=
  rfl

theorem requireModel_reworded
    (name : String) :
    (document.reworded reword).requireModel name =
      (document.requireModel name).map (Model.reworded reword) := by
  unfold requireModel
  rw [model?_reworded]
  cases document.model? name <;> rfl

theorem targetOf_reworded
    (name : String)
    (field : Field) :
    (document.reworded reword).targetOf name field =
      (document.targetOf name field).map (Model.reworded reword) := by
  unfold targetOf
  rw [model?_reworded]
  cases document.model? field.typeName <;> rfl

end Document

/-! ## Validation -/

namespace Check

theorem fieldNameErrors_reworded
    (model : Model) :
    fieldNameErrors (model.reworded reword) = fieldNameErrors model := by
  simp [fieldNameErrors, Function.comp_def]

theorem modelNameErrors_reworded
    (seen : List String)
    (models : List Model) :
    modelNameErrors seen (models.map (Model.reworded reword)) =
      modelNameErrors seen models := by
  induction models generalizing seen with
  | nil => rfl
  | cons model rest inductionHypothesis =>
      simp only [List.map_cons, modelNameErrors, Model.reworded_name,
        fieldNameErrors_reworded, inductionHypothesis]

theorem primaryKeyWarnings_reworded
    (model : Model) :
    primaryKeyWarnings (model.reworded reword) = primaryKeyWarnings model := by
  simp [primaryKeyWarnings]

theorem relationErrors_reworded
    (document : Document)
    (model : Model)
    (field : Field) :
    relationErrors (document.reworded reword) (model.reworded reword)
        (field.reworded reword) =
      relationErrors document model field := by
  unfold relationErrors
  rw [Document.model?_reworded]
  cases found : document.model? field.typeName with
  | none => simp [found]
  | some target => simp [found]

theorem enumErrors_reworded
    (document : Document)
    (model : Model) :
    enumErrors (document.reworded reword) (model.reworded reword) =
      enumErrors document model := by
  simp [enumErrors, List.filter_map, Function.comp_def]

theorem indexErrors_reworded
    (model : Model) :
    indexErrors (model.reworded reword) = indexErrors model := by
  simp [indexErrors]

/-- A string that cannot be read is reported by the failure to read it, and
comments have no part in that. -/
theorem directiveErrors_eq_reading
    (model : Model) :
    directiveErrors model =
      (model.documentation ::
        model.fields.map Field.documentation).filterMap
        fun documentation =>
          match reading documentation with
          | .ok _ => none
          | .error failure =>
              some ⟨.malformedDirective, model.name, failure.message⟩ := by
  refine List.filterMap_congr fun documentation _ => ?_
  unfold reading
  cases Directive.Set.ofDocumentation documentation <;> rfl

theorem directiveErrors_reworded
    (keeps : KeepsReadings reword)
    (model : Model) :
    directiveErrors (model.reworded reword) = directiveErrors model := by
  have strings :
      (model.reworded reword).documentation ::
          (model.reworded reword).fields.map Field.documentation =
        (model.documentation ::
          model.fields.map Field.documentation).map reword := by
    simp [Function.comp_def]
  rw [directiveErrors_eq_reading, directiveErrors_eq_reading, strings,
    List.filterMap_map]
  refine List.filterMap_congr fun documentation _ => ?_
  simp only [Function.comp_apply, keeps documentation,
    Model.reworded_name]

/-- Every check finds the same. -/
theorem run_reworded
    (keeps : KeepsReadings reword)
    (check : Check)
    (document : Document) :
    check.run (document.reworded reword) = check.run document := by
  cases check with
  | modelNames =>
      simp [run, modelNameErrors_reworded, List.flatMap_map,
        primaryKeyWarnings_reworded]
  | relationReferences =>
      simp [run, List.flatMap_map, relationErrors_reworded]
  | enumReferences =>
      simp [run, List.flatMap_map, enumErrors_reworded]
  | indexFields =>
      simp [run, List.flatMap_map, indexErrors_reworded]
  | directives =>
      simp [run, List.flatMap_map, directiveErrors_reworded reword keeps]

end Check

/-- A reworded document has the same report. -/
theorem Document.validate_reworded
    (keeps : KeepsReadings reword)
    (document : Document) :
    (document.reworded reword).validate = document.validate := by
  simp only [validate, validateWith, Check.run_reworded reword keeps]

end Reworded

end Schema

end Tablewright
