import Tablewright.Schema.Document
import Tablewright.Json.Parser

namespace Tablewright.Schema

/-!
# Reading schema documents

The JSON shape of schema documents. A document may be wrapped in an object
with the key `datamodel`.
-/

open Json Json.Decoder

/-- Every field kind with the name it has in stored documents. -/
def FieldKind.named : List (String × FieldKind) :=
  [ ("scalar", .scalar), ("enum", .enumeration), ("object", .relation),
    ("unsupported", .unsupported) ]

/-- A generated default under construction. -/
structure Generated where
  name : String := ""
  arguments : List Value := []
  deriving Repr, DecidableEq

/-- The members of a generated default. -/
def Generated.members : List (Member Generated) :=
  [ required "name" text (fun held name => { held with name := name }),
    defaulted "args" (sequence any)
      (fun held values => { held with arguments := values }) ]

/-- A default: a generator if the value has the shape of one, else a
literal. -/
def DefaultValue.ofJson (value : Value) : DefaultValue :=
  match record "struct GeneratorDefault" Generated.members {} value with
  | .ok generated => .generator generated.name generated.arguments
  | .error _ => .literal value

/-- The members of a native type. -/
def NativeType.members : List (Member NativeType) :=
  [ required "0" text (fun held name => { held with name := name }),
    defaulted "1" (sequence text)
      (fun held texts => { held with arguments := texts }) ]

/-- A native type, which is given as an array. -/
def NativeType.ofJson : Decoder NativeType
  | .array elements =>
      tuple "tuple struct NativeType" NativeType.members
        { name := "" } elements
  | value => mismatch "tuple struct NativeType" value

/-- The members of a field. -/
def Field.members : List (Member Field) :=
  [ required "name" text (fun held name => { held with name := name }),
    defaulted "dbName" (nullable text)
      (fun held name => { held with dbName := name }),
    required "kind" (variant FieldKind.named)
      (fun held kind => { held with kind := kind }),
    required "type" text
      (fun held name => { held with typeName := name }),
    defaulted "nativeType" (nullable NativeType.ofJson)
      (fun held native => { held with nativeType := native }),
    defaulted "isRequired" flag
      (fun held given => { held with isRequired := given }),
    defaulted "isList" flag
      (fun held given => { held with isList := given }),
    defaulted "isId" flag
      (fun held given => { held with isId := given }),
    defaulted "isUnique" flag
      (fun held given => { held with isUnique := given }),
    defaulted "isUpdatedAt" flag
      (fun held given => { held with isUpdatedAt := given }),
    defaulted "default"
      (nullable (fun value => .ok (DefaultValue.ofJson value)))
      (fun held value => { held with defaultValue := value }),
    defaulted "relationName" (nullable text)
      (fun held name => { held with relationName := name }),
    defaulted "relationFromFields" (sequence text)
      (fun held names => { held with relationFromFields := names }),
    defaulted "relationToFields" (sequence text)
      (fun held names => { held with relationToFields := names }),
    defaulted "relationOnDelete" (nullable (variant Column.Action.named))
      (fun held action => { held with onDelete := action }),
    defaulted "relationOnUpdate" (nullable (variant Column.Action.named))
      (fun held action => { held with onUpdate := action }),
    defaulted "documentation" (nullable text)
      (fun held written => { held with documentation := written }) ]

/-- A field. -/
def Field.ofJson : Decoder Field :=
  record "struct Field" Field.members
    { name := "", kind := .scalar, typeName := "" }

/-- The members of a primary key. -/
def PrimaryKey.members : List (Member PrimaryKey) :=
  [ defaulted "name" (nullable text)
      (fun held name => { held with name := name }),
    required "fields" (sequence text)
      (fun held names => { held with fields := names }) ]

/-- A primary key. -/
def PrimaryKey.ofJson : Decoder PrimaryKey :=
  record "struct PrimaryKey" PrimaryKey.members { fields := [] }

/-- A field inside an index, which is given as a record with its name. -/
def Index.fieldOfJson : Decoder String :=
  record "struct IndexField" [required "name" text (fun _ name => name)] ""

/-- The members of an index. -/
def Index.members : List (Member Index) :=
  [ required "type" (variant IndexKind.named)
      (fun held kind => { held with kind := kind }),
    required "fields" (sequence Index.fieldOfJson)
      (fun held names => { held with fields := names }),
    defaulted "name" (nullable text)
      (fun held name => { held with name := name }),
    defaulted "dbName" (nullable text)
      (fun held name => { held with dbName := name }) ]

/-- An index. -/
def Index.ofJson : Decoder Index :=
  record "struct Index" Index.members { kind := .id, fields := [] }

/-- The members of a model. -/
def Model.members : List (Member Model) :=
  [ required "name" text (fun held name => { held with name := name }),
    defaulted "dbName" (nullable text)
      (fun held name => { held with dbName := name }),
    defaulted "documentation" (nullable text)
      (fun held written => { held with documentation := written }),
    defaulted "fields" (sequence Field.ofJson)
      (fun held fields => { held with fields := fields }),
    defaulted "primaryKey" (nullable PrimaryKey.ofJson)
      (fun held key => { held with primaryKey := key }),
    defaulted "indexes" (sequence Index.ofJson)
      (fun held indexes => { held with indexes := indexes }) ]

/-- A model. -/
def Model.ofJson : Decoder Model :=
  record "struct Model" Model.members { name := "" }

/-- A value of an enumeration. -/
def EnumValue.ofJson : Decoder EnumValue :=
  record "struct EnumValue"
    [ required "name" text (fun held name => { held with name := name }),
      defaulted "dbName" (nullable text)
        (fun held name => { held with dbName := name }) ]
    { name := "" }

/-- An enumeration. -/
def Enumeration.ofJson : Decoder Enumeration :=
  record "struct EnumDef"
    [ required "name" text (fun held name => { held with name := name }),
      defaulted "values" (sequence EnumValue.ofJson)
        (fun held values => { held with values := values }) ]
    { name := "" }

/-- The members of a document. -/
def Document.members : List (Member Document) :=
  [ defaulted "models" (sequence Model.ofJson)
      (fun held models => { held with models := models }),
    defaulted "enums" (sequence Enumeration.ofJson)
      (fun held enums => { held with enums := enums }) ]

/-- A document without its wrapper. -/
def Document.ofJson : Decoder Document :=
  record "struct SchemaDocument" Document.members {}

/-- The content of the wrapper, if there is one. -/
def unwrap (value : Value) : Value :=
  (value.member? "datamodel").getD value

/-- Read a document from its text. -/
def Document.load (text : String) : Outcome Document :=
  match Json.parse? text with
  | none => .error .malformedJson
  | some value => (Document.ofJson (unwrap value)).mapError .jsonShape

end Tablewright.Schema
