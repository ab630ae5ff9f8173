import Tablewright.Json.Printer
import Tablewright.Column.Action

namespace Tablewright.Schema

/-!
# Fields

A field is one property of a model: a column, or a relation to another
model. A relation field owns its foreign key when it names local fields.
-/

/-- What a field holds. -/
inductive FieldKind where
  | scalar
  | enumeration
  | relation
  | unsupported
  deriving Repr, DecidableEq

/-- A database type with its width or precision. -/
structure NativeType where
  name : String
  arguments : List String := []
  deriving Repr, DecidableEq

/-- The value that a column takes when none is given. -/
inductive DefaultValue where
  /-- A fixed value. -/
  | literal (value : Json.Value)
  /-- A named generator with its arguments. -/
  | generator (name : String) (arguments : List Json.Value)
  deriving Repr, DecidableEq

/-- A default as shown to a user. -/
def DefaultValue.display : DefaultValue → String
  | .literal value => value.compact
  | .generator name arguments =>
      name ++ "(" ++
        ", ".intercalate (arguments.map Json.Value.compact) ++ ")"

/-- A property of a model. -/
structure Field where
  name : String
  /-- The column, when it is not named like the field. -/
  dbName : Option String := none
  kind : FieldKind
  /-- A scalar type, an enumeration or a model. -/
  typeName : String
  nativeType : Option NativeType := none
  isRequired : Bool := false
  isList : Bool := false
  isId : Bool := false
  isUnique : Bool := false
  isUpdatedAt : Bool := false
  defaultValue : Option DefaultValue := none
  /-- The name that both sides of a relation share. -/
  relationName : Option String := none
  /-- The local fields of the foreign key, on the side that owns it. -/
  relationFromFields : List String := []
  /-- The referenced fields of the related model. -/
  relationToFields : List String := []
  onDelete : Option Column.Action := none
  onUpdate : Option Column.Action := none
  documentation : Option String := none
  deriving Repr, DecidableEq

namespace Field

/-- A required field of a kind and type. -/
def ofKind (name : String) (kind : FieldKind) (typeName : String) : Field :=
  { name := name, kind := kind, typeName := typeName, isRequired := true }

/-- A required scalar field. -/
def scalar (name typeName : String) : Field :=
  ofKind name .scalar typeName

/-- A required enumeration field. -/
def enumeration (name enumName : String) : Field :=
  ofKind name .enumeration enumName

/-- A relation field. -/
def relation (name model : String) : Field :=
  ofKind name .relation model

/-- Make the field nullable. -/
def optional (field : Field) : Field :=
  { field with isRequired := false }

/-- Make the field a list, which is never required. -/
def list (field : Field) : Field :=
  { field with isList := true, isRequired := false }

/-- Make the field the primary key. -/
def id (field : Field) : Field :=
  { field with isId := true, isRequired := true }

/-- Make the field unique. -/
def unique (field : Field) : Field :=
  { field with isUnique := true }

/-- Make the field an update timestamp. -/
def updatedAt (field : Field) : Field :=
  { field with isUpdatedAt := true }

/-- Name the column. -/
def withDbName (field : Field) (dbName : String) : Field :=
  { field with dbName := some dbName }

/-- Give the database type. -/
def withNative (field : Field) (name : String) (arguments : List String) :
    Field :=
  { field with nativeType := some ⟨name, arguments⟩ }

/-- Give a fixed default. -/
def withDefault (field : Field) (value : Json.Value) : Field :=
  { field with defaultValue := some (.literal value) }

/-- Give a generated default. -/
def withGenerator (field : Field) (name : String)
    (arguments : List Json.Value) : Field :=
  { field with defaultValue := some (.generator name arguments) }

/-- Name the relation. -/
def inRelation (field : Field) (relationName : String) : Field :=
  { field with relationName := some relationName }

/-- Make the field own a foreign key. -/
def references (field : Field) (fromFields toFields : List String) :
    Field :=
  { field with
    relationFromFields := fromFields, relationToFields := toFields }

/-- Set the action for deletions. -/
def deleting (field : Field) (action : Column.Action) : Field :=
  { field with onDelete := some action }

/-- Set the action for key changes. -/
def updating (field : Field) (action : Column.Action) : Field :=
  { field with onUpdate := some action }

/-- Document the field. -/
def withDocumentation (field : Field) (text : String) : Field :=
  { field with documentation := some text }

/-- An auto-incrementing integer primary key. -/
def autoincrementId : Field :=
  (scalar "id" "Int").id.withGenerator "autoincrement" []

/-- The column of the field. -/
def columnName (field : Field) : String :=
  field.dbName.getD field.name

/-- Whether the field is a relation. -/
def isRelation (field : Field) : Bool :=
  field.kind == .relation

/-- Whether the field is a relation that owns its foreign key. -/
def isOwning (field : Field) : Bool :=
  field.isRelation && !field.relationFromFields.isEmpty

/-- Whether the field is a column. -/
def isColumn (field : Field) : Bool :=
  !field.isRelation

/-- The name of the generator of the default. -/
def generatorName? (field : Field) : Option String :=
  match field.defaultValue with
  | some (.generator name _) => some name
  | _ => none

/-- Whether the default counts upwards. -/
def isAutoincrement (field : Field) : Bool :=
  field.generatorName? == some "autoincrement"

end Field

end Tablewright.Schema
