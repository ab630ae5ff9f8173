import Tablewright.Relation.Inference

namespace Tablewright.Migration

/-!
# Junction models of implicit relations

An implicit many-to-many relation has no junction model in the schema. For
each junction table one is made: a key column for every key column of either
side, a relation to each side, and a primary key of all key columns.
-/

open Schema Tablewright.Relation

/-- An implicit relation with the model that declares it. -/
structure Implicit where
  model : String
  relation : Definition
  junction : Junction
  deriving Repr, DecidableEq

/-- An implicit relation that has a junction table. -/
def implicitOf? (model : String) (relation : Definition) :
    Option Implicit :=
  if relation.kind = .belongsToManyImplicit then
    relation.junction.map (fun junction => ⟨model, relation, junction⟩)
  else none

/-- Every implicit relation, in order. -/
def implicitRelations (registries : List (String × Registry)) :
    List Implicit :=
  registries.flatMap fun (model, registry) =>
    registry.relations.filterMap (implicitOf? model)

/-- The first relation for each junction table. -/
def firstOfTables : List String → List Implicit → List Implicit
  | _, [] => []
  | seen, first :: rest =>
      if seen.contains first.junction.table then firstOfTables seen rest
      else
        first :: firstOfTables (first.junction.table :: seen) rest

/-- Whether some relation asks for timestamps on a junction table. -/
def wantsTimestamps (relations : List Implicit) (table : String) : Bool :=
  relations.any (fun found =>
    found.junction.table == table && found.junction.timestamps)

/-- A key column that is stored like the key it refers to. An identifier
that the application generates stays generated; a count does not. -/
def keyColumn (name : String) (key : Field) : Field :=
  { Field.ofKind name key.kind key.typeName with
    nativeType := key.nativeType
    defaultValue :=
      if key.generatorName? = some "uuid" ∨
          key.generatorName? = some "ulid" then key.defaultValue
      else none }

/-- One side of a junction table. -/
structure Side where
  model : Model
  /-- The key columns of the junction table. -/
  columns : List String
  /-- The key columns of the model. -/
  referenced : List String
  /-- The name of the relation to the model. -/
  accessor : String
  deriving Repr, DecidableEq

/-- The column field that a key column of the junction refers to. -/
def Side.keyOf (side : Side) (column : String) : Outcome Field :=
  (Inconsistency.keyWithoutField column).orFail side.model.name
    (side.model.fields.find? (fun field =>
      field.isColumn && field.columnName == column))

/-- The key columns of a side with the fields they refer to. -/
def Side.keys (side : Side) : Outcome (List (String × Field)) :=
  (side.columns.zip side.referenced).mapM fun (column, target) => do
    let key ← side.keyOf target
    return (column, key)

/-- The relation of a junction table to a side. -/
def Side.relationField (side : Side) (table : String)
    (keys : List (String × Field)) : Field :=
  (((Field.relation side.accessor side.model.name).inRelation
    (table ++ "_" ++ side.accessor)).references
      (keys.map Prod.fst) (keys.map (fun key => key.2.name))).deleting
        .cascade

/-- The timestamp columns of a junction table. -/
def timestampFields : List Field :=
  [ (Field.scalar "created_at" "DateTime").optional,
    (Field.scalar "updated_at" "DateTime").optional ]

/-- The two sides of a junction table. -/
def sidesOf (document : Document) (implicit : Implicit) :
    Outcome (Side × Side) := do
  let owner ← document.requireModel implicit.model
  let relatedName ←
    match implicit.relation.target with
    | some name => .ok name
    | none =>
        .error (.internal "implicit many-to-many without target")
  let related ← document.requireModel relatedName
  let accessor :=
    if owner.name = related.name then
      "related" ++ Naming.pascal related.name
    else Naming.camel related.name
  let own : Side :=
    { model := owner
      columns := implicit.junction.ownKeys
      referenced := implicit.relation.localKeys
      accessor := Naming.camel owner.name }
  let other : Side :=
    { model := related
      columns := implicit.junction.relatedKeys
      referenced := implicit.relation.foreignKeys
      accessor := accessor }
  return (own, other)

/-- The junction model of an implicit relation. -/
def pivotModel (document : Document) (implicit : Implicit)
    (timestamps : Bool) : Outcome Model := do
  let table := implicit.junction.table
  let (own, related) ← sidesOf document implicit
  let ownKeys ← own.keys
  let relatedKeys ← related.keys
  let keys := ownKeys ++ relatedKeys
  return {
    name := Naming.pascal table
    dbName := some table
    fields :=
      keys.map (fun key => keyColumn key.1 key.2) ++
        (if timestamps then timestampFields else []) ++
        [ own.relationField table ownKeys,
          related.relationField table relatedKeys ]
    primaryKey := some { fields := keys.map Prod.fst }
  }

/-- The junction models of all implicit relations, one for each table in
the order in which the tables first appear. -/
def synthesizePivots (document : Document)
    (registries : List (String × Registry)) : Outcome (List Model) :=
  let relations := implicitRelations registries
  (firstOfTables [] relations).mapM fun implicit =>
    pivotModel document implicit
      (wantsTimestamps relations implicit.junction.table)

end Tablewright.Migration
