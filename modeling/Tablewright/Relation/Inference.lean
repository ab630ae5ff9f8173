import Tablewright.Relation.Polymorphic
import Tablewright.Directive.Parse
import Tablewright.Text.Order

namespace Tablewright.Relation

/-!
# Relations of a document

Every relation field is judged together with its counterpart, the field of
the related model that shares its relation name and points back. The first
row that applies decides:

* a list whose counterpart is a list, with a key on neither side, goes
  through a conventional junction table;
* a list whose counterpart owns its key on a junction model goes through
  that model;
* a list whose counterpart owns its key has many;
* a single field that owns its key belongs to its target;
* a single field whose counterpart owns its key has one, or has many if the
  counterpart is a list.
-/

open Schema

/-- The field of the related model that points back at a field. -/
def counterpart? (model : Model) (field : Field) (target : Model) :
    Option Field :=
  target.relationFields.find? fun candidate =>
    candidate.relationName == field.relationName &&
      candidate.typeName == model.name &&
      !(target.name == model.name && candidate.name == field.name)

/-- Junction columns of the second role in a relation of a model with
itself. -/
def relatedColumns (columns : List String) : List String :=
  columns.map (fun column => "related_" ++ column)

/-- The junction columns for the two sides of an implicit relation. In a
relation of a model with itself the field that sorts first has the plain
columns. -/
def implicitKeys (model : Model) (field : Field) (target : Model)
    (counterpart : Field) : List String × List String :=
  let own := model.primaryKeyColumns.map (Naming.junctionKey model.name)
  let related :=
    target.primaryKeyColumns.map (Naming.junctionKey target.name)
  if model.name = target.name then
    if counterpart.name < field.name then (relatedColumns own, related)
    else (own, relatedColumns related)
  else (own, related)

/-- A relation through a conventional junction table. -/
def implicitManyToMany (model : Model) (field : Field) (target : Model)
    (counterpart : Field) (directives : Directive.Set) (name : String) :
    Definition :=
  let keys := implicitKeys model field target counterpart
  { name := name
    kind := .belongsToManyImplicit
    target := some target.name
    field := some field.name
    foreignKeys := target.primaryKeyColumns
    localKeys := model.primaryKeyColumns
    junction := some {
      table := Naming.junctionTable model.tableName target.tableName
      ownKeys := keys.1
      relatedKeys := keys.2
      timestamps := directives.timestamps
      recordName := directives.pivotAlias } }

/-- The two foreign keys that make a model a junction. -/
structure JunctionKeys where
  /-- The field that leads on to the related model. -/
  other : Field
  /-- The columns that lead back. -/
  backColumns : List String
  /-- The columns that lead on. -/
  otherColumns : List String
  deriving Repr, DecidableEq

/--
The keys of a junction model between `model` and exactly one other model.

The junction owns one more foreign key than `back`, the two keys share no
column, and together they are unique in each row.
-/
def junctionKeys? (model : Model) (field : Field) (pivot : Model)
    (back : Field) : Option JunctionKeys :=
  if !back.isOwning || field.isOwning then none
  else
    let owning := pivot.owningRelations
    match owning.filter (fun key => key.name != back.name) with
    | [other] =>
        let backReferences :=
          (owning.filter (fun key => key.typeName == model.name)).length
        let expected := if other.typeName = model.name then 2 else 1
        let backColumns := pivot.columnsOf back.relationFromFields
        let otherColumns := pivot.columnsOf other.relationFromFields
        let together := Text.sortedDistinct (backColumns ++ otherColumns)
        if backReferences ≠ expected then none
        else if backColumns.any otherColumns.contains then none
        else if pivot.uniqueSets.any
            (fun columns => Text.sortedDistinct columns == together) then
          some ⟨other, backColumns, otherColumns⟩
        else none
    | _ => none

/-- The columns of a junction model that are read along with the relation:
those marked for it outside the two keys. -/
def extraColumns (keyColumns : List String) :
    List Field → Outcome (List String)
  | [] => .ok []
  | column :: rest => do
      let directives ← Directive.Set.ofDocumentation column.documentation
      let others ← extraColumns keyColumns rest
      if directives.pivot && !keyColumns.contains column.columnName then
        return column.columnName :: others
      else
        return others

/-- A relation through a junction model, if the counterpart leads to one. -/
def explicitManyToMany? (document : Document) (model : Model)
    (field : Field) (pivot : Model) (back : Field)
    (directives : Directive.Set) (name : String) :
    Outcome (Option Definition) :=
  match junctionKeys? model field pivot back with
  | none => .ok none
  | some keys => do
      let related ← document.targetOf pivot.name keys.other
      let pivotDirectives ←
        Directive.Set.ofDocumentation pivot.documentation
      let extra ← extraColumns (keys.backColumns ++ keys.otherColumns)
        pivot.columns
      return some {
        name := name
        kind := .belongsToManyExplicit
        target := some related.name
        field := some field.name
        foreignKeys := related.columnsOf keys.other.relationToFields
        localKeys := model.columnsOf back.relationToFields
        junction := some {
          table := pivot.tableName
          ownKeys := keys.backColumns
          relatedKeys := keys.otherColumns
          extraColumns := extra
          timestamps := directives.timestamps || pivotDirectives.timestamps
          recordName :=
            directives.pivotAlias.or pivotDirectives.pivotAlias
          usingModel := some pivot.name } }

/-- A relation to a model that owns the key. -/
def hasRelation (kind : Kind) (model : Model) (field : Field)
    (target : Model) (counterpart : Field) (name : String) : Definition :=
  { name := name
    kind := kind
    target := some target.name
    field := some field.name
    foreignKeys := target.columnsOf counterpart.relationFromFields
    localKeys := model.columnsOf counterpart.relationToFields }

/-- A relation to the model that a key of this model refers to. -/
def belongsToRelation (model : Model) (field : Field) (target : Model)
    (name : String) : Definition :=
  { name := name
    kind := .belongsTo
    target := some target.name
    field := some field.name
    foreignKeys := model.columnsOf field.relationFromFields
    localKeys := target.columnsOf field.relationToFields }

/-- The relation of a list field with a given counterpart. -/
def inferList (document : Document) (model : Model) (field : Field)
    (target : Model) (counterpart : Field) (directives : Directive.Set)
    (name : String) : Outcome (Option Definition) :=
  if !field.isOwning && !counterpart.isOwning && counterpart.isList then
    .ok (some
      (implicitManyToMany model field target counterpart directives name))
  else do
    let explicit ← explicitManyToMany? document model field target
      counterpart directives name
    match explicit with
    | some relation => return some relation
    | none =>
        if counterpart.isOwning then
          return some
            (hasRelation .hasMany model field target counterpart name)
        else return none

/-- The relation of a single field. -/
def inferSingle (model : Model) (field : Field) (target : Model)
    (counterpart : Option Field) (name : String) : Option Definition :=
  if field.isOwning then some (belongsToRelation model field target name)
  else
    match counterpart with
    | some counterpart =>
        if counterpart.isOwning then
          let kind : Kind :=
            if counterpart.isList then .hasMany else .hasOne
          some (hasRelation kind model field target counterpart name)
        else none
    | none => none

/-- The relation of a field, if it gives rise to one. -/
def inferField (options : Options) (document : Document) (model : Model)
    (field : Field) (directives : Directive.Set) :
    Outcome (Option Definition) := do
  let target ← document.targetOf model.name field
  let counterpart := counterpart? model field target
  let name := options.accessorName field.name
  if !field.isOwning && counterpart.isNone then
    .error ((Inconsistency.noCounterpart field.name target.name).failure
      model.name)
  else if field.isList then
    match counterpart with
    | some counterpart =>
        inferList document model field target counterpart directives name
    | none => return none
  else
    return inferSingle model field target counterpart name

/-- The relation of a field, unless the models leave the field out. -/
def inferDocumented (options : Options) (document : Document)
    (model : Model) (field : Field) : Outcome (Option Definition) := do
  let directives ← Directive.Set.ofDocumentation field.documentation
  if directives.silentInModels then return none
  else inferField options document model field directives

/-- The candidate relations of a model: relation fields, discriminator pairs
and declared owning sides, in this order. -/
def candidates (options : Options) (document : Document) (model : Model) :
    Outcome (List Definition) := do
  let fromFields ←
    model.relationFields.mapM (inferDocumented options document model)
  let directives ← Directive.Set.ofDocumentation model.documentation
  let owners ← ownerMorphs options document model directives
  return fromFields.filterMap id ++ detectMorphTo options model ++ owners

/-- The relations of the model with a name. -/
def inferModel (options : Options) (document : Document)
    (modelName : String) : Outcome Registry := do
  let model ← document.requireModel modelName
  let found ← candidates options document model
  return found.foldl
    (fun registry relation => registry.register model.name relation) {}

/-- The relations of every model, in document order. -/
def inferDocument (options : Options) (document : Document) :
    Outcome (List (String × Registry)) :=
  document.models.mapM fun model => do
    let registry ← inferModel options document model.name
    return (model.name, registry)

end Tablewright.Relation
