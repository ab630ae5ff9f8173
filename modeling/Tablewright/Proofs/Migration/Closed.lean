import Tablewright.Proofs.Migration.Pivot
import Tablewright.Proofs.Schema.Closed

namespace Tablewright.Migration

/-!
# Junction models of closed documents

Junction models are never validated.  They are closed all the same, because
their names are those of their own key columns or are read off the fields of
the two sides.  The only way to fail is a key column of a side that no column
field has.
-/

open Schema Tablewright.Relation

/-! ## Junction models are closed -/

/-- The sides of an implicit relation are models of the document. -/
theorem model?_of_sidesOf
    {document : Document}
    {implicit : Implicit}
    {own related : Side}
    (found : sidesOf document implicit = .ok (own, related)) :
    ∀ side ∈ [own, related],
      document.model? side.model.name = some side.model := by
  obtain ⟨isOwner, ⟨name, _, isTarget⟩, _⟩ := sidesOf_eq_ok found
  intro side member
  rcases List.mem_pair.mp member with rfl | rfl
  · rwa [(Document.mem_of_model? isOwner).2]
  · rwa [(Document.mem_of_model? isTarget).2]

/-- The keys of a side are column fields of its model. -/
theorem Side.mem_of_keys
    {side : Side}
    {keys : List (String × Field)}
    (found : side.keys = .ok keys)
    {key : String × Field}
    (member : key ∈ keys) :
    key.2 ∈ side.model.fields ∧ key.2.isColumn = true := by
  obtain ⟨_, _, made⟩ := Outcome.exists_of_mem_mapM found member
  obtain ⟨_, isKey, made⟩ := Outcome.bind_eq_ok_iff.mp made
  obtain rfl := Except.ok.inj made
  obtain ⟨inModel, isColumn, _⟩ := keyOf_eq_ok isKey
  exact ⟨inModel, isColumn⟩

section Joined

variable {document : Document}
variable {table : String} {timestamps : Bool}
variable {sides : List (Side × List (String × Field))}

/-- A key column of a junction model is found under its own name. -/
theorem hasFields_joined
    {names : List String}
    (areKeys :
      ∀ name ∈ names, ∃ key ∈ sides.flatMap Prod.snd, key.1 = name) :
    (joined table timestamps sides).HasFields names := by
  intro name member
  obtain ⟨key, isKey, rfl⟩ := areKeys name member
  refine Option.isSome_iff_exists.mp (List.find?_isSome.mpr ?_)
  refine ⟨keyColumn key.1 key.2, ?_, beq_self_eq_true key.1⟩
  exact List.mem_append_left _
    (List.mem_append_left _ (List.mem_map_of_mem isKey))

variable
  (keyed :
    ∀ entry ∈ sides, ∀ key ∈ entry.2,
      key.2 ∈ entry.1.model.fields ∧ key.2.isColumn = true)

include keyed

/-- The relations of a junction model are those to its sides. -/
theorem exists_side_of_isRelation
    {field : Field}
    (member : field ∈ (joined table timestamps sides).relationFields) :
    ∃ entry ∈ sides, field = entry.1.relationField table entry.2 := by
  obtain ⟨member, isRelation⟩ := List.mem_filter.mp member
  simp only [joined, List.mem_append, List.mem_map] at member
  rcases member with (⟨key, isKey, rfl⟩ | stamp) | ⟨entry, inSides, rfl⟩
  · obtain ⟨entry, inSides, isKey⟩ := List.mem_flatMap.mp isKey
    have isColumn := (keyed entry inSides key isKey).2
    have sameKind :
        (keyColumn key.1 key.2).isRelation = key.2.isRelation := rfl
    rw [Field.isColumn, ← sameKind, isRelation] at isColumn
    cases isColumn
  · split at stamp
    · rcases List.mem_pair.mp stamp with rfl | rfl <;> cases isRelation
    · cases stamp
  · exact ⟨entry, inSides, rfl⟩

/-- The enumerations of a junction model are those of the keys of its
sides. -/
theorem exists_key_of_isEnumeration
    {field : Field}
    (member : field ∈ (joined table timestamps sides).fields)
    (isEnumeration : field.kind = .enumeration) :
    ∃ entry ∈ sides, ∃ key ∈ entry.1.model.fields,
      key.kind = .enumeration ∧ field.typeName = key.typeName := by
  simp only [joined, List.mem_append, List.mem_map] at member
  rcases member with (⟨key, isKey, rfl⟩ | stamp) | ⟨entry, inSides, rfl⟩
  · obtain ⟨entry, inSides, isKey⟩ := List.mem_flatMap.mp isKey
    exact ⟨entry, inSides, key.2, (keyed entry inSides key isKey).1,
      isEnumeration, rfl⟩
  · split at stamp
    · rcases List.mem_pair.mp stamp with rfl | rfl <;> cases isEnumeration
    · cases stamp
  · cases isEnumeration

/-- A junction model of models in a closed document is closed. -/
theorem closedIn_joined
    (closed : document.Closed)
    (inDocument :
      ∀ entry ∈ sides,
        document.model? entry.1.model.name = some entry.1.model) :
    (joined table timestamps sides).ClosedIn document := by
  refine ⟨?relation, ?enumeration, ?key, ?index⟩
  case relation =>
    intro field member
    obtain ⟨entry, inSides, rfl⟩ := exists_side_of_isRelation keyed member
    refine ⟨entry.1.model, inDocument entry inSides, ?_, ?_⟩
    · refine hasFields_joined fun name isName => ?_
      obtain ⟨key, isKey, rfl⟩ := List.mem_map.mp isName
      exact ⟨key, List.mem_flatMap.mpr ⟨entry, inSides, isKey⟩, rfl⟩
    · intro name isName
      obtain ⟨key, isKey, rfl⟩ := List.mem_map.mp isName
      exact ⟨key.2, closed.field?_eq_some
        (Document.mem_of_model? (inDocument entry inSides)).1
        (keyed entry inSides key isKey).1⟩
  case enumeration =>
    intro field member isEnumeration
    obtain ⟨entry, inSides, key, isKey, keyIsEnumeration, sameType⟩ :=
      exists_key_of_isEnumeration keyed member isEnumeration
    rw [sameType]
    exact (closed.model entry.1.model
      (Document.mem_of_model? (inDocument entry inSides)).1).enumeration
        key isKey keyIsEnumeration
  case key =>
    refine hasFields_joined fun name isName => ?_
    exact List.mem_map.mp isName
  case index =>
    intro index absent
    exact (List.not_mem_nil absent).elim

end Joined

/-- The junction model of an implicit relation of a closed document. -/
theorem closedIn_of_pivotModel
    {document : Document}
    (closed : document.Closed)
    {implicit : Implicit}
    {timestamps : Bool}
    {pivot : Model}
    (made : pivotModel document implicit timestamps = .ok pivot) :
    pivot.ClosedIn document := by
  obtain ⟨own, related, ownKeys, relatedKeys, isSides, areOwn, areRelated,
    rfl⟩ := pivotModel_eq_ok made
  refine closedIn_joined ?keyed closed ?inDocument
  case keyed =>
    intro entry member key isKey
    rcases List.mem_pair.mp member with rfl | rfl
    · exact Side.mem_of_keys areOwn isKey
    · exact Side.mem_of_keys areRelated isKey
  case inDocument =>
    intro entry member
    refine model?_of_sidesOf isSides entry.1 ?_
    rcases List.mem_pair.mp member with rfl | rfl <;> simp

/-- All junction models of a closed document are closed. -/
theorem closedIn_of_synthesizePivots
    {document : Document}
    (closed : document.Closed)
    {registries : List (String × Registry)}
    {junctions : List Model}
    (synthesized : synthesizePivots document registries = .ok junctions)
    {pivot : Model}
    (member : pivot ∈ junctions) :
    pivot.ClosedIn document := by
  obtain ⟨_, _, made⟩ := Outcome.exists_of_mem_mapM synthesized member
  exact closedIn_of_pivotModel closed made

/-! ## Junction models that cannot be made -/

/-- A key column of a model that is joined, although no column field of the
model has it. -/
structure Unkeyed
    (document : Document)
    (registries : List (String × Registry))
    (model : Model)
    (column : String) : Prop where
  inDocument : model ∈ document.models
  joined :
    ∃ implicit ∈ implicitRelations registries,
      implicit.model = model.name ∨
        implicit.relation.target = some model.name
  inKey : column ∈ model.primaryKeyColumns
  noField : ∀ field ∈ model.columns, field.columnName ≠ column

theorem Side.keyOf_eq_error
    {side : Side}
    {column : String}
    {failure : Failure}
    (failed : side.keyOf column = .error failure) :
    failure =
        (Inconsistency.keyWithoutField column).failure side.model.name ∧
      ∀ field ∈ side.model.columns, field.columnName ≠ column := by
  unfold keyOf Inconsistency.orFail at failed
  split at failed
  · cases failed
  · rename_i absent
    refine ⟨(Except.error.inj failed).symm, ?_⟩
    intro field member
    obtain ⟨inModel, isColumn⟩ := List.mem_filter.mp member
    simpa [isColumn] using List.find?_eq_none.mp absent field inModel

/-- The keys of a side can be read unless one of its columns has no
field. -/
theorem Side.keys_eq_error
    {side : Side}
    {failure : Failure}
    (failed : side.keys = .error failure) :
    ∃ column ∈ side.referenced,
      failure =
          (Inconsistency.keyWithoutField column).failure side.model.name ∧
        ∀ field ∈ side.model.columns, field.columnName ≠ column := by
  obtain ⟨pair, member, failed⟩ := Outcome.exists_of_mapM_eq_error failed
  refine ⟨pair.2, (List.of_mem_zip member).2, ?_⟩
  rcases Outcome.bind_eq_error_iff.mp failed with noKey | ⟨_, _, made⟩
  · exact keyOf_eq_error noKey
  · cases made

/-- The sides of an implicit relation that has been inferred are the models
it joins, with their key columns. -/
theorem exists_sidesOf
    {document : Document}
    {implicit : Implicit}
    {model target : Model}
    (isModel : document.model? implicit.model = some model)
    (isTarget : document.model? target.name = some target)
    (joins : implicit.relation.Joins model target) :
    ∃ own related,
      sidesOf document implicit = .ok (own, related) ∧
        own.model = model ∧
        own.referenced = model.primaryKeyColumns ∧
        related.model = target ∧
        related.referenced = target.primaryKeyColumns := by
  unfold sidesOf
  rw [Document.requireModel_eq_ok_iff.mpr isModel, joins.target_eq]
  simp only [bind, Except.bind,
    Document.requireModel_eq_ok_iff.mpr isTarget]
  exact ⟨_, _, rfl, rfl, joins.keys_eq.1, rfl, joins.keys_eq.2⟩

theorem joins_of_mem_implicitRelations
    {options : Options}
    {document : Document}
    {registries : List (String × Registry)}
    (inferred : inferDocument options document = .ok registries)
    {implicit : Implicit}
    (member : implicit ∈ implicitRelations registries) :
    ∃ model, document.model? implicit.model = some model ∧
      ∃ target ∈ document.models,
        implicit.relation.Joins model target := by
  obtain ⟨registry, inRegistries, declared, through⟩ :=
    mem_implicitRelations_iff.mp member
  obtain ⟨_, _, made⟩ := Outcome.exists_of_mem_mapM inferred inRegistries
  obtain ⟨_, ofModel, made⟩ := Outcome.bind_eq_ok_iff.mp made
  obtain ⟨named, rfl⟩ := Prod.mk.inj (Except.ok.inj made)
  rw [named] at ofModel
  exact joins_of_inferModel ofModel declared through.1

/-- Junction models can be made for the relations that have been inferred
unless a key column of a side has no field. -/
theorem unkeyed_of_synthesizePivots
    {options : Options}
    {document : Document}
    (distinct : document.Distinct)
    {registries : List (String × Registry)}
    (inferred : inferDocument options document = .ok registries)
    {failure : Failure}
    (failed : synthesizePivots document registries = .error failure) :
    ∃ model column,
      Unkeyed document registries model column ∧
        failure =
          (Inconsistency.keyWithoutField column).failure model.name := by
  obtain ⟨implicit, isFirst, failed⟩ :=
    Outcome.exists_of_mapM_eq_error failed
  have member := (mem_firstOfTables isFirst).1
  obtain ⟨model, isModel, target, targetIn, joins⟩ :=
    joins_of_mem_implicitRelations inferred member
  obtain ⟨inDocument, named⟩ := Document.mem_of_model? isModel
  obtain ⟨own, related, areSides, rfl, ownKey, rfl, relatedKey⟩ :=
    exists_sidesOf isModel (distinct.model?_eq_some targetIn) joins
  unfold pivotModel at failed
  rw [areSides] at failed
  rcases Outcome.bind_eq_error_iff.mp failed with
      noSides | ⟨_, same, failed⟩
  · cases noSides
  obtain rfl := Except.ok.inj same
  rcases Outcome.bind_eq_error_iff.mp failed with
      noOwn | ⟨_, _, failed⟩
  · obtain ⟨column, inKey, rfl, noField⟩ := Side.keys_eq_error noOwn
    exact ⟨own.model, column,
      ⟨inDocument, ⟨implicit, member, Or.inl named.symm⟩,
        ownKey ▸ inKey, noField⟩, rfl⟩
  rcases Outcome.bind_eq_error_iff.mp failed with
      noRelated | ⟨_, _, failed⟩
  · obtain ⟨column, inKey, rfl, noField⟩ := Side.keys_eq_error noRelated
    exact ⟨related.model, column,
      ⟨targetIn, ⟨implicit, member, Or.inr joins.target_eq⟩,
        relatedKey ▸ inKey, noField⟩, rfl⟩
  · cases failed

end Tablewright.Migration
