import Tablewright.Relation.Definition
import Tablewright.Schema.Writer

namespace Tablewright.Relation

/-!
# Stored form of relations

A relation is stored as JSON with every member in declaration order. What a
stored relation leaves out keeps its default, and a polymorphic relation may
give the base of its discriminator alone.
-/

open Json Json.Decoder Schema

namespace Junction

/-- A junction table in stored form. -/
def toStored (junction : Junction) : Value :=
  .object
    [ ("table", .string junction.table),
      ("foreign_pivot_keys", .ofTexts junction.ownKeys),
      ("related_pivot_keys", .ofTexts junction.relatedKeys),
      ("extra_columns", .ofTexts junction.extraColumns),
      ("with_timestamps", .boolean junction.timestamps),
      ("alias", textJson junction.recordName),
      ("using", textJson junction.usingModel) ]

/-- The members of a junction table. -/
def members : List (Member Junction) :=
  [ defaulted "table" text
      (fun held name => { held with table := name }),
    defaulted "foreign_pivot_keys" (sequence text)
      (fun held names => { held with ownKeys := names }),
    defaulted "related_pivot_keys" (sequence text)
      (fun held names => { held with relatedKeys := names }),
    defaulted "extra_columns" (sequence text)
      (fun held names => { held with extraColumns := names }),
    defaulted "with_timestamps" flag
      (fun held given => { held with timestamps := given }),
    defaulted "alias" (nullable text)
      (fun held name => { held with recordName := name }),
    defaulted "using" (nullable text)
      (fun held name => { held with usingModel := name }) ]

/-- Read a junction table from its stored form. -/
def ofStored : Decoder Junction :=
  record "struct Junction" members {}

end Junction

namespace Discriminator

/-- A discriminator in stored form. -/
def toStored (discriminator : Discriminator) : Value :=
  .object
    [ ("base", .string discriminator.base),
      ("id_column", .string discriminator.idColumn),
      ("type_column", .string discriminator.typeColumn) ]

/-- The members of a discriminator. -/
def members : List (Member Discriminator) :=
  [ required "base" text (fun held name => { held with base := name }),
    required "id_column" text
      (fun held name => { held with idColumn := name }),
    required "type_column" text
      (fun held name => { held with typeColumn := name }) ]

/-- Read a discriminator from its stored form or from its base alone. -/
def ofStored : Decoder Discriminator
  | .string base => .ok (conventional base)
  | value => record "struct Discriminator" members ⟨"", "", ""⟩ value

end Discriminator

namespace Definition

/-- The stored members of a relation in order. -/
def storedMembers (definition : Definition) : List (String × Value) :=
  [ ("name", .string definition.name),
    ("kind", namedJson Kind.named definition.kind),
    ("target", textJson definition.target),
    ("field", textJson definition.field),
    ("foreign_keys", .ofTexts definition.foreignKeys),
    ("local_keys", .ofTexts definition.localKeys),
    ("pivot", .ofOption Junction.toStored definition.junction),
    ("morph", .ofOption Discriminator.toStored definition.discriminator),
    ("chain", textJson definition.chain) ]

/-- A relation in stored form. -/
def toStored (definition : Definition) : Value :=
  .object definition.storedMembers

/-- A relation in stored form with its code. -/
def toListed (definition : Definition) : Value :=
  .object
    (definition.storedMembers ++
      [("call", .string definition.callText)])

/-- The members of a relation. -/
def members : List (Member Definition) :=
  [ required "name" text (fun held name => { held with name := name }),
    required "kind" (variant Kind.named)
      (fun held kind => { held with kind := kind }),
    defaulted "target" (nullable text)
      (fun held name => { held with target := name }),
    defaulted "field" (nullable text)
      (fun held name => { held with field := name }),
    defaulted "foreign_keys" (sequence text)
      (fun held names => { held with foreignKeys := names }),
    defaulted "local_keys" (sequence text)
      (fun held names => { held with localKeys := names }),
    defaulted "pivot" (nullable Junction.ofStored)
      (fun held junction => { held with junction := junction }),
    defaulted "morph" (nullable Discriminator.ofStored)
      (fun held columns => { held with discriminator := columns }),
    defaulted "chain" (nullable text)
      (fun held calls => { held with chain := calls }) ]

/-- Read a relation from its stored form. -/
def ofStored : Decoder Definition :=
  record "struct Definition" members { name := "", kind := .belongsTo }

end Definition

end Tablewright.Relation
