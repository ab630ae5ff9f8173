import Tablewright.Column.Scalar
import Tablewright.Column.Table
import Tablewright.Context

namespace Tablewright.Column

/-!
# Columns of a model

Every field of a model becomes a column or a marker of its table. Silent
columns, and markers without an enforced foreign key, are passed over from
the start.
-/

open Schema

/-- A column with the default of its field. A generated identifier makes a
plain text column an identifier column. -/
def withFieldDefault (column : Column) (given : Option DefaultValue) :
    Column :=
  match given with
  | none => column
  | some (.literal value) =>
      { column with defaultValue := some (.literal value) }
  | some (.generator name arguments) =>
      let plainText :=
        column.kind == .string && column.arguments.isEmpty
      if name = "autoincrement" then { column with autoIncrement := true }
      else if name = "uuid" ∧ plainText then
        { column with
          kind := .uuid, defaultValue := some (.generator name []) }
      else if name = "ulid" ∧ plainText then
        { column with
          kind := .ulid, defaultValue := some (.generator name []) }
      else
        { column with defaultValue := some (.generator name arguments) }

/-- The column of a field that is no relation. -/
def ofField (document : Document) (field : Field) : Column :=
  let start : Column :=
    { plain field.columnName .string with
      fieldName := field.name
      nullable := !field.isRequired
      unique := field.isUnique }
  let stored : Column :=
    if field.kind = .enumeration then
      { start with
        kind := .enumeration
        enumValues := document.enumValues field.typeName }
    else
      let storage := scalarStorage field.typeName field.nativeType
      { start with
        kind := storage.kind
        arguments := storage.arguments
        unsigned := storage.unsigned }
  withFieldDefault stored field.defaultValue

/-- The marker of a relation field. -/
def markerOf (context : Context) (model : Model) (field : Field) :
    Outcome Column := do
  let start : Column :=
    { marker field.name none with nullable := !field.isRequired }
  if !field.isOwning then return start
  else
    let target ← context.document.targetOf model.name field
    let directives := context.fieldDirectives model.name field.name
    return { start with
      foreignKey := some {
        field := field.name
        targetTable := target.tableName
        localColumns := model.columnsOf field.relationFromFields
        references := target.columnsOf field.relationToFields
        onDelete := field.onDelete
        onUpdate := field.onUpdate
        isLocal := directives.localInMigrations } }

/-- A column that knows whether it belongs to the primary key. -/
def withKey (keyColumns : List String) (column : Column) : Column :=
  if column.isMarker then column
  else
    let primary := keyColumns.contains column.name
    { column with
      primary := primary
      unsigned := column.unsigned ||
        (primary && column.autoIncrement && column.kind.isInteger) }

/-- Whether a column is passed over from the start. -/
def startsIgnored (column : Column) : Bool :=
  column.silent ||
    (column.isMarker &&
      ((column.foreignKey.map ForeignKey.isLocal).getD true))

/-- The column of any field of a model. -/
def ofModelField (context : Context) (model : Model)
    (keyColumns : List String) (field : Field) : Outcome Column := do
  let directives := context.fieldDirectives model.name field.name
  let built ←
    if field.isRelation then markerOf context model field
    else .ok (ofField context.document field)
  let column := withKey keyColumns { built with
    comment := directives.comment
    silent := directives.silentInMigrations }
  return { column with ignored := startsIgnored column }

end Tablewright.Column

namespace Tablewright

/-- The indexes of a model as indexes of its table. -/
def Table.indexesOf (model : Schema.Model) : List TableIndex :=
  (model.indexes.filter (fun index => index.kind != .id)).map fun index =>
    { kind := index.kind
      columns := model.columnsOf index.fields
      name := index.dbName.or index.name }

/-- The table of a model before compilation. -/
def Table.ofModel (context : Context) (model : Schema.Model) :
    Outcome Table := do
  let columns ← model.fields.mapM
    (Column.ofModelField context model model.primaryKeyColumns)
  return { columns := columns, indexes := Table.indexesOf model }

end Tablewright
