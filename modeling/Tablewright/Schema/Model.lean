import Tablewright.Schema.Field
import Tablewright.Failure

namespace Tablewright.Schema

/-!
# Models

A model is a table: its fields in declaration order, its primary key and its
indexes. Keys and indexes name fields; the operations here translate them to
columns.
-/

/-- A primary key declared for the model as a whole. -/
structure PrimaryKey where
  name : Option String := none
  fields : List String
  deriving Repr, DecidableEq

/-- What an index is for. -/
inductive IndexKind where
  | id
  | unique
  | normal
  | fulltext
  deriving Repr, DecidableEq

/-- Every index kind with the name it has in stored documents. -/
def IndexKind.named : List (String × IndexKind) :=
  [ ("id", .id), ("unique", .unique), ("normal", .normal),
    ("fulltext", .fulltext) ]

/-- An index over fields of the model. -/
structure Index where
  kind : IndexKind
  fields : List String
  name : Option String := none
  /-- The name that the index has in the database. -/
  dbName : Option String := none
  deriving Repr, DecidableEq

/-- A table of the schema. -/
structure Model where
  name : String
  /-- The table, when it is not named like the model. -/
  dbName : Option String := none
  documentation : Option String := none
  fields : List Field := []
  primaryKey : Option PrimaryKey := none
  indexes : List Index := []
  deriving Repr, DecidableEq

namespace Model

/-- Name the table. -/
def withDbName (model : Model) (dbName : String) : Model :=
  { model with dbName := some dbName }

/-- Document the model. -/
def withDocumentation (model : Model) (text : String) : Model :=
  { model with documentation := some text }

/-- Append a field. -/
def withField (model : Model) (field : Field) : Model :=
  { model with fields := model.fields ++ [field] }

/-- Declare the primary key. -/
def withPrimaryKey (model : Model) (fields : List String) : Model :=
  { model with primaryKey := some { fields := fields } }

/-- Append an index. -/
def withIndex (model : Model) (index : Index) : Model :=
  { model with indexes := model.indexes ++ [index] }

/-- The table of the model. -/
def tableName (model : Model) : String :=
  model.dbName.getD model.name

/-- The first field with a name. -/
def field? (model : Model) (name : String) : Option Field :=
  model.fields.find? (fun field => field.name == name)

/-- The first field with a name, which has to exist. -/
def requireField (model : Model) (name : String) : Outcome Field :=
  match model.field? name with
  | some field => .ok field
  | none => .error (.fieldNotFound model.name name)

/-- The column of a field; a name without a field stands for itself. -/
def columnOf (model : Model) (fieldName : String) : String :=
  ((model.field? fieldName).map Field.columnName).getD fieldName

/-- The columns of several fields. -/
def columnsOf (model : Model) (fieldNames : List String) : List String :=
  fieldNames.map model.columnOf

/-- The fields of the primary key: the key declared for the model, else the
fields flagged as identifiers, else the first identifying index. -/
def primaryKeyFields (model : Model) : List String :=
  let declared := (model.primaryKey.map PrimaryKey.fields).getD []
  let flagged := (model.fields.filter Field.isId).map Field.name
  if !declared.isEmpty then declared
  else if !flagged.isEmpty then flagged
  else
    ((model.indexes.find? (fun index => index.kind == .id)).map
      Index.fields).getD []

/-- The columns of the primary key. -/
def primaryKeyColumns (model : Model) : List String :=
  model.columnsOf model.primaryKeyFields

/-- The fields that are columns. -/
def columns (model : Model) : List Field :=
  model.fields.filter Field.isColumn

/-- The fields that are relations. -/
def relationFields (model : Model) : List Field :=
  model.fields.filter Field.isRelation

/-- The relation fields that own a foreign key. -/
def owningRelations (model : Model) : List Field :=
  model.fields.filter Field.isOwning

/-- The sets of columns that are unique in each row: the primary key, the
unique indexes and the unique fields. -/
def uniqueSets (model : Model) : List (List String) :=
  let key := model.primaryKeyColumns
  let indexed := model.indexes.filter
    (fun index => index.kind == .unique || index.kind == .id)
  let flagged := model.fields.filter Field.isUnique
  (if key.isEmpty then [] else [key]) ++
    indexed.map (fun index => model.columnsOf index.fields) ++
    flagged.map (fun field => [field.columnName])

end Model

end Tablewright.Schema
