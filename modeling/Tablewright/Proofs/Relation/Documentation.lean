import Tablewright.Migration.Pivot
import Tablewright.Proofs.Schema.Documentation

namespace Tablewright

/-!
# Relations of a reworded document

Inference reads documentation for directives only, so a reworded document has
the same relations and the same junction models.
-/

open Schema
open Directive.Set (KeepsReadings)

namespace Relation

variable {reword : Option String → Option String}

@[simp]
theorem counterpart?_reworded
    (model target : Model)
    (field : Field) :
    counterpart? (model.reworded reword) (field.reworded reword)
        (target.reworded reword) =
      (counterpart? model field target).map (Field.reworded reword) := by
  simp only [counterpart?, Model.relationFields_reworded, List.find?_map,
    Function.comp_def, Field.reworded_relationName,
    Field.reworded_typeName, Field.reworded_name, Model.reworded_name]

theorem implicitManyToMany_reworded
    (model target : Model)
    (field counterpart : Field) :
    implicitManyToMany (model.reworded reword) (field.reworded reword)
        (target.reworded reword) (counterpart.reworded reword) =
      implicitManyToMany model field target counterpart := by
  funext directives name
  simp [implicitManyToMany, implicitKeys]

/-- The keys with another documentation of the field that leads on. -/
def JunctionKeys.reworded (reword : Option String → Option String)
    (keys : JunctionKeys) : JunctionKeys :=
  { keys with other := keys.other.reworded reword }

theorem junctionKeys?_reworded
    (model pivot : Model)
    (field back : Field) :
    junctionKeys? (model.reworded reword) (field.reworded reword)
        (pivot.reworded reword) (back.reworded reword) =
      (junctionKeys? model field pivot back).map
        (JunctionKeys.reworded reword) := by
  unfold junctionKeys?
  simp only [Model.owningRelations_reworded, List.filter_map,
    Function.comp_def, Field.isOwning_reworded, Field.reworded_name,
    Field.reworded_typeName, Field.reworded_relationFromFields,
    Model.reworded_name, Model.columnsOf_reworded,
    Model.uniqueSets_reworded, List.length_map]
  split
  · rfl
  · cases pivot.owningRelations.filter fun key => key.name != back.name with
    | nil => rfl
    | cons other more =>
        cases more with
        | cons _ _ => rfl
        | nil =>
            simp only [List.map_cons, List.map_nil, Field.reworded_typeName,
              Field.reworded_relationFromFields]
            simp only [apply_ite (Option.map (JunctionKeys.reworded reword)),
              Option.map_none, Option.map_some]
            rfl

section Read

variable (keeps : KeepsReadings reword)

include keeps

theorem extraColumns_reworded
    (keyColumns : List String)
    (columns : List Field) :
    extraColumns keyColumns (columns.map (Field.reworded reword)) =
      extraColumns keyColumns columns := by
  induction columns with
  | nil => rfl
  | cons column rest inductionHypothesis =>
      simp only [List.map_cons, extraColumns, inductionHypothesis,
        Field.reworded_documentation, Field.columnName_reworded]
      exact keeps.bind_eq (fun set => rfl) column.documentation

theorem explicitManyToMany?_reworded
    (document : Document)
    (model pivot : Model)
    (field back : Field)
    (directives : Directive.Set)
    (name : String) :
    explicitManyToMany? (document.reworded reword) (model.reworded reword)
        (field.reworded reword) (pivot.reworded reword)
        (back.reworded reword) directives name =
      explicitManyToMany? document model field pivot back directives name := by
  unfold explicitManyToMany?
  rw [junctionKeys?_reworded]
  cases junctionKeys? model field pivot back with
  | none => rfl
  | some keys =>
      simp only [Option.map_some, JunctionKeys.reworded,
        Document.targetOf_reworded, Field.reworded_relationToFields,
        Model.columns_reworded, Model.columnsOf_reworded,
        extraColumns_reworded keeps, Model.reworded_name,
        Model.tableName_reworded, Model.reworded_documentation]
      change
        ((document.targetOf pivot.name keys.other).map
          (Model.reworded reword) >>= _) = _
      cases document.targetOf pivot.name keys.other with
      | error failure => rfl
      | ok related =>
          simp only [Except.map, Outcome.ok_bind, Model.reworded_name,
            Model.columnsOf_reworded]
          exact keeps.bind_eq (fun set => rfl) pivot.documentation

theorem inferList_reworded
    (document : Document)
    (model target : Model)
    (field counterpart : Field)
    (directives : Directive.Set)
    (name : String) :
    inferList (document.reworded reword) (model.reworded reword)
        (field.reworded reword) (target.reworded reword)
        (counterpart.reworded reword) directives name =
      inferList document model field target counterpart directives name := by
  simp only [inferList, Field.isOwning_reworded, Field.reworded_isList,
    implicitManyToMany_reworded, explicitManyToMany?_reworded keeps]
  simp [hasRelation]

omit keeps in
theorem inferSingle_reworded
    (model target : Model)
    (field : Field)
    (counterpart : Option Field)
    (name : String) :
    inferSingle (model.reworded reword) (field.reworded reword)
        (target.reworded reword)
        (counterpart.map (Field.reworded reword)) name =
      inferSingle model field target counterpart name := by
  cases counterpart <;>
    simp [inferSingle, belongsToRelation, hasRelation]

theorem inferField_reworded
    (options : Options)
    (document : Document)
    (model : Model)
    (field : Field)
    (directives : Directive.Set) :
    inferField options (document.reworded reword) (model.reworded reword)
        (field.reworded reword) directives =
      inferField options document model field directives := by
  unfold inferField
  rw [Document.targetOf_reworded]
  change
    ((document.targetOf model.name field).map
      (Model.reworded reword) >>= _) = _
  cases document.targetOf model.name field with
  | error failure => rfl
  | ok target =>
      simp only [Except.map, Outcome.ok_bind, counterpart?_reworded,
        Field.isOwning_reworded, Field.reworded_isList,
        Field.reworded_name, Model.reworded_name,
        inferSingle_reworded]
      cases counterpart? model field target with
      | none => rfl
      | some counterpart =>
          simp only [Option.map_some, inferList_reworded keeps]
          rfl

theorem inferDocumented_reworded
    (options : Options)
    (document : Document)
    (model : Model)
    (field : Field) :
    inferDocumented options (document.reworded reword)
        (model.reworded reword) (field.reworded reword) =
      inferDocumented options document model field := by
  simp only [inferDocumented, inferField_reworded keeps,
    Field.reworded_documentation]
  exact keeps.bind_eq (fun set => rfl) field.documentation

omit keeps in
theorem detectMorphTo_reworded
    (options : Options)
    (model : Model) :
    detectMorphTo options (model.reworded reword) =
      detectMorphTo options model := by
  simp [detectMorphTo, List.flatMap_map, Function.comp_def]

omit keeps in
theorem ownerMorphs_reworded
    (options : Options)
    (document : Document)
    (model : Model) :
    ownerMorphs options (document.reworded reword)
        (model.reworded reword) =
      ownerMorphs options document model := by
  have each :
      ownerMorph options (document.reworded reword)
          (model.reworded reword) =
        ownerMorph options document model := by
    funext morph
    simp only [ownerMorph, Document.model?_reworded, Model.reworded_name,
      Model.primaryKeyColumns_reworded]
    cases document.model? morph.model <;> rfl
  funext directives
  rw [ownerMorphs, ownerMorphs, each]

theorem candidates_reworded
    (options : Options)
    (document : Document)
    (model : Model) :
    candidates options (document.reworded reword) (model.reworded reword) =
      candidates options document model := by
  simp only [candidates, Model.relationFields_reworded, List.mapM_map,
    Function.comp_def, inferDocumented_reworded keeps,
    detectMorphTo_reworded, ownerMorphs_reworded,
    Model.reworded_documentation]
  congr 1
  funext fromFields
  exact keeps.bind_eq (fun set => rfl) model.documentation

/-- Every model of a reworded document has the same relations. -/
theorem inferModel_reworded
    (options : Options)
    (document : Document) :
    inferModel options (document.reworded reword) =
      inferModel options document := by
  funext name
  unfold inferModel
  rw [Document.requireModel_reworded]
  cases document.requireModel name with
  | error failure => rfl
  | ok model =>
      simp only [Except.map, Outcome.ok_bind, candidates_reworded keeps,
        Model.reworded_name]

/-- A reworded document has the same relations. -/
theorem inferDocument_reworded
    (options : Options)
    (document : Document) :
    inferDocument options (document.reworded reword) =
      inferDocument options document := by
  simp only [inferDocument, Document.reworded_models, List.mapM_map,
    inferModel_reworded keeps, Function.comp_def, Model.reworded_name]

end Read

end Relation

namespace Migration

variable {reword : Option String → Option String}

/-- The side with another documentation. -/
def Side.reworded (reword : Option String → Option String) (side : Side) :
    Side :=
  { side with model := side.model.reworded reword }

theorem Side.keyOf_reworded
    (side : Side)
    (column : String) :
    (side.reworded reword).keyOf column =
      (side.keyOf column).map (Field.reworded reword) := by
  simp only [keyOf, reworded, Model.reworded_fields, Model.reworded_name,
    List.find?_map, Function.comp_def, Field.isColumn_reworded,
    Field.columnName_reworded]
  cases side.model.fields.find? fun field =>
    field.isColumn && field.columnName == column <;> rfl

theorem Side.keys_reworded
    (side : Side) :
    (side.reworded reword).keys =
      side.keys.map
        (List.map fun key => (key.1, key.2.reworded reword)) := by
  rw [keys, keys, Outcome.map_mapM]
  congr 1
  funext (column, target)
  simp only [keyOf_reworded]
  cases side.keyOf target <;> rfl

@[simp]
theorem keyColumn_reworded
    (name : String)
    (key : Field) :
    keyColumn name (key.reworded reword) = keyColumn name key :=
  rfl

@[simp]
theorem Side.relationField_reworded
    (side : Side)
    (table : String)
    (keys : List (String × Field)) :
    (side.reworded reword).relationField table
        (keys.map fun key => (key.1, key.2.reworded reword)) =
      side.relationField table keys := by
  simp [relationField, reworded, Function.comp_def]

theorem sidesOf_reworded
    (document : Document)
    (implicit : Implicit) :
    sidesOf (document.reworded reword) implicit =
      (sidesOf document implicit).map
        (Prod.map (Side.reworded reword) (Side.reworded reword)) := by
  simp only [sidesOf, Document.requireModel_reworded]
  cases document.requireModel implicit.model with
  | error failure => rfl
  | ok owner =>
      cases implicit.relation.target with
      | none => rfl
      | some name =>
          simp only [Except.map, Outcome.ok_bind]
          cases document.requireModel name <;> rfl

/-- A junction model is made of names, kinds and defaults. -/
theorem pivotModel_reworded
    (document : Document) :
    pivotModel (document.reworded reword) = pivotModel document := by
  funext implicit timestamps
  simp only [pivotModel, sidesOf_reworded]
  cases sidesOf document implicit with
  | error failure => rfl
  | ok sides =>
      simp only [Except.map, Outcome.ok_bind, Prod.map,
        Side.keys_reworded]
      cases sides.1.keys with
      | error failure => rfl
      | ok ownKeys =>
          cases sides.2.keys with
          | error failure => rfl
          | ok relatedKeys =>
              simp only [Outcome.ok_bind, ← List.map_append,
                Side.relationField_reworded, List.map_map,
                Function.comp_def, keyColumn_reworded]

/-- A reworded document has the same junction models. -/
theorem synthesizePivots_reworded
    (document : Document)
    (registries : List (String × Relation.Registry)) :
    synthesizePivots (document.reworded reword) registries =
      synthesizePivots document registries := by
  simp only [synthesizePivots, pivotModel_reworded]

end Migration

end Tablewright
