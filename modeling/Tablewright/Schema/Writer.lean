import Tablewright.Schema.Reader

namespace Tablewright.Schema

/-!
# Writing schema documents

A document is written with every member in declaration order. Reading what
was written gives the document back.
-/

open Json

/-- The name that a list of names gives to a value. -/
def nameIn [DecidableEq α] (named : List (String × α)) (value : α) :
    String :=
  ((named.find? (fun entry => entry.2 = value)).map Prod.fst).getD ""

/-- The name of a value as JSON. -/
def namedJson [DecidableEq α] (named : List (String × α)) (value : α) :
    Value :=
  .string (nameIn named value)

/-- An optional text as JSON. -/
def textJson : Option String → Value :=
  Value.ofOption .string

/-- A default as JSON. -/
def DefaultValue.toJson : DefaultValue → Value
  | .literal value => value
  | .generator name arguments =>
      .object [("name", .string name), ("args", .array arguments)]

/-- A native type as JSON. -/
def NativeType.toJson (native : NativeType) : Value :=
  .array [.string native.name, .ofTexts native.arguments]

/-- A field as JSON. -/
def Field.toJson (field : Field) : Value :=
  .object
    [ ("name", .string field.name),
      ("dbName", textJson field.dbName),
      ("kind", namedJson FieldKind.named field.kind),
      ("type", .string field.typeName),
      ("nativeType", .ofOption NativeType.toJson field.nativeType),
      ("isRequired", .boolean field.isRequired),
      ("isList", .boolean field.isList),
      ("isId", .boolean field.isId),
      ("isUnique", .boolean field.isUnique),
      ("isUpdatedAt", .boolean field.isUpdatedAt),
      ("default", .ofOption DefaultValue.toJson field.defaultValue),
      ("relationName", textJson field.relationName),
      ("relationFromFields", .ofTexts field.relationFromFields),
      ("relationToFields", .ofTexts field.relationToFields),
      ("relationOnDelete",
        .ofOption (namedJson Column.Action.named) field.onDelete),
      ("relationOnUpdate",
        .ofOption (namedJson Column.Action.named) field.onUpdate),
      ("documentation", textJson field.documentation) ]

/-- A primary key as JSON. -/
def PrimaryKey.toJson (key : PrimaryKey) : Value :=
  .object [("name", textJson key.name), ("fields", .ofTexts key.fields)]

/-- An index as JSON. -/
def Index.toJson (index : Index) : Value :=
  .object
    [ ("type", namedJson IndexKind.named index.kind),
      ("fields", .array (index.fields.map
        (fun name => .object [("name", .string name)]))),
      ("name", textJson index.name),
      ("dbName", textJson index.dbName) ]

/-- A model as JSON. -/
def Model.toJson (model : Model) : Value :=
  .object
    [ ("name", .string model.name),
      ("dbName", textJson model.dbName),
      ("documentation", textJson model.documentation),
      ("fields", .array (model.fields.map Field.toJson)),
      ("primaryKey", .ofOption PrimaryKey.toJson model.primaryKey),
      ("indexes", .array (model.indexes.map Index.toJson)) ]

/-- A value of an enumeration as JSON. -/
def EnumValue.toJson (value : EnumValue) : Value :=
  .object
    [("name", .string value.name), ("dbName", textJson value.dbName)]

/-- An enumeration as JSON. -/
def Enumeration.toJson (enumeration : Enumeration) : Value :=
  .object
    [ ("name", .string enumeration.name),
      ("values", .array (enumeration.values.map EnumValue.toJson)) ]

/-- A document as JSON. -/
def Document.toJson (document : Document) : Value :=
  .object
    [ ("models", .array (document.models.map Model.toJson)),
      ("enums", .array (document.enums.map Enumeration.toJson)) ]

/-- The text of a document. -/
def Document.text (document : Document) : String :=
  document.toJson.pretty

end Tablewright.Schema
