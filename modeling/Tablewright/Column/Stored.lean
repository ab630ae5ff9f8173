import Tablewright.Column.Table
import Tablewright.Schema.Writer

namespace Tablewright

/-!
# Stored form of columns and tables

A table under compilation is stored as JSON with every member in declaration
order. Reading starts from a given value and replaces the members that the
JSON holds, so a partial description of a column is read over its defaults.
-/

open Json Json.Decoder Schema

/-- A default in stored form, tagged with what it is. -/
def Schema.DefaultValue.toStored : DefaultValue → Value
  | .literal value => .object [("Literal", value)]
  | .generator name arguments =>
      .object
        [ ("Generator",
            .object
              [("name", .string name), ("args", .array arguments)]) ]

/-- Read a default from its stored form. -/
def Schema.DefaultValue.ofStored : Decoder DefaultValue
  | .object [("Literal", value)] => .ok (.literal value)
  | .object [("Generator", content)] =>
      (record "struct variant" Generated.members {} content).map
        (fun generated =>
          .generator generated.name generated.arguments)
  | value => mismatch "a default" value

namespace ForeignKey

/-- A foreign key in stored form. -/
def toStored (key : ForeignKey) : Value :=
  .object
    [ ("field", .string key.field),
      ("target_table", .string key.targetTable),
      ("local_columns", .ofTexts key.localColumns),
      ("references", .ofTexts key.references),
      ("on_delete", .ofOption (namedJson Column.Action.named) key.onDelete),
      ("on_update", .ofOption (namedJson Column.Action.named) key.onUpdate),
      ("ignore", .boolean key.isLocal) ]

/-- The members of a foreign key. -/
def members : List (Member ForeignKey) :=
  [ defaulted "field" text
      (fun held name => { held with field := name }),
    defaulted "target_table" text
      (fun held name => { held with targetTable := name }),
    defaulted "local_columns" (sequence text)
      (fun held names => { held with localColumns := names }),
    defaulted "references" (sequence text)
      (fun held names => { held with references := names }),
    defaulted "on_delete" (nullable (variant Column.Action.named))
      (fun held action => { held with onDelete := action }),
    defaulted "on_update" (nullable (variant Column.Action.named))
      (fun held action => { held with onUpdate := action }),
    defaulted "ignore" flag
      (fun held given => { held with isLocal := given }) ]

/-- Read a foreign key from its stored form. -/
def ofStored : Decoder ForeignKey :=
  record "struct ForeignKey" members
    { field := "", targetTable := "", localColumns := [], references := [] }

end ForeignKey

namespace Column

/-- A column in stored form. -/
def toStored (column : Column) : Value :=
  .object
    [ ("name", .string column.name),
      ("field_name", .string column.fieldName),
      ("column_type", namedJson Kind.named column.kind),
      ("args", .ofTexts column.arguments),
      ("nullable", .boolean column.nullable),
      ("unsigned", .boolean column.unsigned),
      ("auto_increment", .boolean column.autoIncrement),
      ("primary", .boolean column.primary),
      ("unique", .boolean column.unique),
      ("default", .ofOption DefaultValue.toStored column.defaultValue),
      ("enum_values", .ofTexts column.enumValues),
      ("comment", textJson column.comment),
      ("relationship", .ofOption ForeignKey.toStored column.foreignKey),
      ("silent", .boolean column.silent),
      ("ignored", .boolean column.ignored) ]

/-- The members of a column. -/
def members : List (Member Column) :=
  [ defaulted "name" text
      (fun held name => { held with name := name }),
    defaulted "field_name" text
      (fun held name => { held with fieldName := name }),
    defaulted "column_type" (variant Kind.named)
      (fun held kind => { held with kind := kind }),
    defaulted "args" (sequence text)
      (fun held texts => { held with arguments := texts }),
    defaulted "nullable" flag
      (fun held given => { held with nullable := given }),
    defaulted "unsigned" flag
      (fun held given => { held with unsigned := given }),
    defaulted "auto_increment" flag
      (fun held given => { held with autoIncrement := given }),
    defaulted "primary" flag
      (fun held given => { held with primary := given }),
    defaulted "unique" flag
      (fun held given => { held with unique := given }),
    defaulted "default" (Decoder.nullable DefaultValue.ofStored)
      (fun held value => { held with defaultValue := value }),
    defaulted "enum_values" (sequence text)
      (fun held values => { held with enumValues := values }),
    defaulted "comment" (Decoder.nullable text)
      (fun held written => { held with comment := written }),
    defaulted "relationship" (Decoder.nullable ForeignKey.ofStored)
      (fun held key => { held with foreignKey := key }),
    defaulted "silent" flag
      (fun held given => { held with silent := given }),
    defaulted "ignored" flag
      (fun held given => { held with ignored := given }) ]

/-- Replace the members of a column that a stored form holds. -/
def patched (start : Column) : Decoder Column :=
  record "struct Column" members start

/-- Read a column from its stored form; what is left out is as in a plain
column of text. -/
def ofStored (value : Value) : Except ShapeFault Column :=
  patched
    (plain (((value.member? "name").bind Value.text?).getD "") .string)
    value

end Column

namespace TableIndex

/-- An index in stored form. -/
def toStored (index : TableIndex) : Value :=
  .object
    [ ("kind", namedJson IndexKind.named index.kind),
      ("columns", .ofTexts index.columns),
      ("name", textJson index.name) ]

/-- The members of an index. -/
def members : List (Member TableIndex) :=
  [ required "kind" (variant IndexKind.named)
      (fun held kind => { held with kind := kind }),
    required "columns" (sequence text)
      (fun held names => { held with columns := names }),
    defaulted "name" (nullable text)
      (fun held name => { held with name := name }) ]

/-- Read an index from its stored form. -/
def ofStored : Decoder TableIndex :=
  record "struct TableIndex" members { kind := .normal, columns := [] }

end TableIndex

namespace Table

/-- A position in stored form. -/
def positionOfStored : Decoder Nat
  | .number (.integer value) =>
      if value < 0 then
        mismatch "a position" (.number (.integer value))
      else .ok value.toNat
  | value => mismatch "a position" value

/-- A table in stored form. -/
def toStored (table : Table) : Value :=
  .object
    [ ("descriptors", .array (table.columns.map Column.toStored)),
      ("indexes", .array (table.indexes.map TableIndex.toStored)),
      ("identity", .ofOption .ofNat table.identity),
      ("consumed", .ofTexts table.consumed) ]

/-- The members of a table. -/
def members : List (Member Table) :=
  [ required "descriptors" (sequence Column.ofStored)
      (fun held columns => { held with columns := columns }),
    required "indexes" (sequence TableIndex.ofStored)
      (fun held indexes => { held with indexes := indexes }),
    defaulted "identity" (nullable positionOfStored)
      (fun held position => { held with identity := position }),
    required "consumed" (sequence text)
      (fun held names => { held with consumed := names }) ]

/-- Read a table from its stored form. -/
def ofStored : Decoder Table :=
  record "struct Table" members {}

end Table

end Tablewright
