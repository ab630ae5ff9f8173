import Tablewright.ModelClass.Basic
import Tablewright.Context

namespace Tablewright.ModelClass

/-!
# Building model classes

A model class is read off the columns of its table and the directives of the
model and its fields. Columns that the framework keeps up itself are neither
fillable nor cast by default.
-/

/-- The cast that a column kind implies. -/
def derivedCast? (column : Column) : Option String :=
  match column.kind with
  | .boolean => some "boolean"
  | .json | .jsonb => some "array"
  | .date => some "date"
  | .dateTime | .dateTimeTz | .timestamp | .timestampTz => some "datetime"
  | .decimal => some ("decimal:" ++ (column.arguments[1]?).getD "2")
  | _ => none

/-- The columns of a class, each with the directives of its field. -/
structure View where
  /-- The directives of the model. -/
  directives : Directive.Set
  columns : List (Column × Directive.Set)
  deriving Repr, DecidableEq

namespace View

/-- The columns of a table that a class shows. -/
def ofTable (context : Context) (model : String) (table : Table) : View :=
  let documented := (table.columns.filter
    (fun column => !column.isMarker)).map fun column =>
      (column, context.fieldDirectives model column.fieldName)
  { directives := context.modelDirectives model
    columns := documented.filter (fun entry => !entry.2.silentInModels) }

/-- Whether a column of a name is shown. -/
def has (view : View) (name : String) : Bool :=
  view.columns.any (fun entry => entry.1.name == name)

/-- Whether both timestamps are shown. -/
def timestamps (view : View) : Bool :=
  view.has "created_at" && view.has "updated_at"

/-- Whether deletions are noted. -/
def softDeletes (view : View) : Bool :=
  view.has "deleted_at"

/-- Whether the framework keeps a column up itself. -/
def isManaged (view : View) (name : String) : Bool :=
  match name with
  | "created_at" | "updated_at" => view.timestamps
  | "deleted_at" => view.softDeletes
  | "remember_token" => true
  | _ => false

/-- The columns of the primary key. -/
def primary (view : View) : List Column :=
  (view.columns.map Prod.fst).filter Column.primary

/-- Whether the primary key is one column that counts upwards. -/
def incrementing (view : View) : Bool :=
  match view.primary with
  | [only] => only.autoIncrement
  | _ => false

/-- The type of the primary key. -/
def keyType (view : View) : String :=
  match view.primary with
  | [] => "int"
  | [only] => if only.kind.isInteger then "int" else "string"
  | _ => "string"

/-- Whether a list directive of the model names a column or its field. -/
def isListed (names : Option (List String)) (column : Column) : Bool :=
  (names.getD []).any
    (fun name => name == column.name || name == column.fieldName)

/-- The columns that a list directive of the model or of a field picks. -/
def picked (view : View)
    (names : Directive.Set → Option (List String)) : List String :=
  (view.columns.filter (fun entry =>
    isListed (names view.directives) entry.1 ||
      (names entry.2).isSome)).map (fun entry => entry.1.name)

/-- Whether some directive says what is fillable. -/
def hasFillable (view : View) : Bool :=
  view.directives.fillable.isSome ||
    view.columns.any (fun entry => entry.2.fillable.isSome)

/-- The fillable columns: those picked by directives; else none, if some
are guarded; else all that neither identify the row nor are managed. -/
def fillable (view : View) : List String :=
  if view.hasFillable then view.picked Directive.Set.fillable
  else if (view.picked Directive.Set.guarded).isEmpty then
    (view.columns.filter (fun entry =>
      !entry.1.primary && !entry.1.autoIncrement &&
        !view.isManaged entry.1.name)).map (fun entry => entry.1.name)
  else []

/-- The entry of a structured directive of the model for a column, by field
and then by column name. -/
def entryFor? (structured : Option Directive.Structured)
    (column : Column) : Option String :=
  structured.bind fun structured =>
    (structured.get? column.fieldName).or (structured.get? column.name)

/-- The cast of a column: given by its field, by the model, or implied. -/
def castOf? (view : View) (column : Column) (directives : Directive.Set) :
    Option String :=
  (directives.cast.bind Directive.Structured.value).or
    ((entryFor? view.directives.cast column).or
      (if view.isManaged column.name then none
        else derivedCast? column))

/-- The type of the attribute of a column. -/
def typeOf (view : View) (column : Column) (directives : Directive.Set) :
    String :=
  ((directives.typeHint.bind Directive.Structured.value).or
    (entryFor? view.directives.typeHint column)).getD
      column.kind.attributeType

/-- The attribute of a column. -/
def attributeOf (view : View) (column : Column)
    (directives : Directive.Set) : Attribute :=
  { column := column.name
    field := column.fieldName
    typeName := view.typeOf column directives
    nullable := column.nullable
    cast := view.castOf? column directives
    fillable := view.fillable.contains column.name
    hidden := (view.picked Directive.Set.hidden).contains column.name
    guarded := (view.picked Directive.Set.guarded).contains column.name
    comment := column.comment }

/-- The attributes of all columns. -/
def attributes (view : View) : List Attribute :=
  view.columns.map (fun entry => view.attributeOf entry.1 entry.2)

end View

/-- The cast of an attribute with its column. -/
def castPair? (held : Attribute) : Option (String × String) :=
  held.cast.map (fun cast => (held.column, cast))

/-- The class of a model. -/
def ofModel (context : Context) (model : Schema.Model)
    (registry : Relation.Registry) (table : Table) : ModelClass :=
  let view := View.ofTable context model.name table
  let directives := view.directives
  { className := model.name
    table := model.tableName
    primaryKey := model.primaryKeyColumns
    incrementing := view.incrementing
    keyType := view.keyType
    timestamps := view.timestamps
    softDeletes := view.softDeletes
    attributes := view.attributes
    relations := registry.relations
    fillable := view.fillable
    hidden := view.picked Directive.Set.hidden
    guarded := view.picked Directive.Set.guarded
    eager := directives.eager.getD []
    casts := view.attributes.filterMap castPair?
    traits := directives.traits
    interfaces := directives.interfaces
    observer := directives.observer
    factory := directives.factory
    parent := directives.parent
    comment := directives.comment
    silent := directives.silentInModels }

end Tablewright.ModelClass
