import Tablewright.Rule.Basic
import Tablewright.Column.Creation
import Tablewright.Text.Pieces

namespace Tablewright

/-!
# Shorthands

The builder methods that stand for more than a plain column. A shorthand for
a pair is recognised from either column of the pair and suppresses the
other, so that the pair is created once.
-/

open Code

/-- The kinds of discriminator pairs, by what identifies the owner. -/
inductive MorphFamily where
  | uuid
  | ulid
  | integer
  deriving Repr, DecidableEq

namespace MorphFamily

/-- Whether a column can identify the owner. -/
def accepts (family : MorphFamily) (column : Column) : Bool :=
  match family with
  | .uuid => column.kind == .uuid
  | .ulid => column.kind == .ulid
  | .integer =>
      (column.kind == .integer || column.kind == .bigInteger) &&
        !column.autoIncrement

/-- The builder method for the pair. -/
def method (family : MorphFamily) (nullable : Bool) : String :=
  match family, nullable with
  | .uuid, false => "uuidMorphs"
  | .uuid, true => "nullableUuidMorphs"
  | .ulid, false => "ulidMorphs"
  | .ulid, true => "nullableUlidMorphs"
  | .integer, false => "morphs"
  | .integer, true => "nullableMorphs"

end MorphFamily

/-- The built-in rules for columns. -/
inductive Shorthand where
  | identity
  | timestamps (zoned : Bool)
  | softDeletes (zoned : Bool)
  | rememberToken
  | foreignKey
  | morphs (family : MorphFamily)
  deriving Repr, DecidableEq

/-- The timestamp kind with or without a time zone. -/
def timestampKind (zoned : Bool) : Column.Kind :=
  if zoned then .timestampTz else .timestamp

namespace Table

/-- Whether a column is the whole primary key and counts upwards. -/
def isIdentity (table : Table) (position : Nat) : Bool :=
  match table.column? position with
  | none => false
  | some column =>
      column.primary && column.autoIncrement && column.kind.isInteger &&
        table.primaryColumns.length == 1

/-- The name of the other column of the pair of timestamps. -/
def otherTimestamp? (name : String) : Option String :=
  match name with
  | "created_at" => some "updated_at"
  | "updated_at" => some "created_at"
  | _ => none

/-- The other column of a pair of timestamps of one kind and precision. -/
def timestampSibling? (table : Table) (zoned : Bool) (position : Nat) :
    Option Nat := do
  let column ← table.column? position
  if column.kind ≠ timestampKind zoned then none
  else
    let other ← otherTimestamp? column.name
    let sibling ← table.findActive? other
    let found ← table.column? sibling
    if found.kind = column.kind ∧ found.arguments = column.arguments then
      some sibling
    else none

/-- Whether a column notes when a row was deleted. -/
def isSoftDelete (table : Table) (zoned : Bool) (position : Nat) :
    Bool :=
  match table.column? position with
  | none => false
  | some column =>
      column.name == "deleted_at" &&
        column.kind == timestampKind zoned && column.nullable

/-- Whether a column holds the token of a remembered session. -/
def isRememberToken (table : Table) (position : Nat) : Bool :=
  match table.column? position with
  | none => false
  | some column =>
      column.name == "remember_token" && column.kind == .string &&
        column.nullable &&
        (column.arguments.isEmpty || column.arguments == ["100"])

end Table

/-- The builder method for a column that refers to another table. -/
def foreignMethod? (kind : Column.Kind) : Option String :=
  match kind with
  | .integer | .bigInteger => some "foreignId"
  | .uuid => some "foreignUuid"
  | .ulid => some "foreignUlid"
  | _ => none

namespace Table

/-- The only marker that claims a column, if its foreign key has one column
on either side and the column can be created along with it. -/
def ownerOf? (table : Table) (position : Nat) : Option Nat := do
  let column ← table.column? position
  let _ ← foreignMethod? column.kind
  if column.autoIncrement then none
  else
    match table.markersClaiming column.name with
    | [marker] =>
        let held ← table.column? marker
        let key ← held.owningKey?
        if key.localColumns.length = 1 ∧ key.references.length = 1 then
          some marker
        else none
    | _ => none

/-- The column that a marker is created along with. -/
def ownedColumn? (table : Table) (marker : Nat) : Option Nat := do
  let held ← table.column? marker
  let key ← held.owningKey?
  match key.localColumns with
  | [name] =>
      let position ← table.findActive? name
      if table.ownerOf? position = some marker then some position
      else none
  | _ => none

/-- A pair of discriminator columns with the base of their names. -/
structure MorphPair where
  idColumn : Nat
  typeColumn : Nat
  base : String
  deriving Repr, DecidableEq

/-- The pair of names around a column, before the columns are judged. -/
def namedPair? (table : Table) (position : Nat) (name : String) :
    Option MorphPair :=
  match Text.withoutEnding? "_id" name with
  | some base =>
      (table.findActive? (base ++ "_type")).map fun typeColumn =>
        ⟨position, typeColumn, base⟩
  | none =>
      match Text.withoutEnding? "_type" name with
      | some base =>
          (table.findActive? (base ++ "_id")).map fun idColumn =>
            ⟨idColumn, position, base⟩
      | none => none

/-- Whether two columns make a pair of a family. -/
def isPairOf (table : Table) (family : MorphFamily)
    (idColumn typeColumn : Column) : Bool :=
  family.accepts idColumn && typeColumn.kind == .string &&
    idColumn.nullable == typeColumn.nullable &&
    !idColumn.primary && !typeColumn.primary &&
    idColumn.foreignKey.isNone && typeColumn.foreignKey.isNone &&
    (table.markersClaiming idColumn.name).isEmpty

/-- The discriminator pair of a family that a column belongs to. -/
def morphPair? (table : Table) (family : MorphFamily) (position : Nat) :
    Option MorphPair := do
  let column ← table.column? position
  if column.isMarker then none
  else
    let pair ← table.namedPair? position column.name
    if pair.base.isEmpty then none
    else
      let idColumn ← table.column? pair.idColumn
      let typeColumn ← table.column? pair.typeColumn
      if table.isPairOf family idColumn typeColumn then some pair
      else none

/-- Create the identity column and note it. -/
def renderIdentity (table : Table) (position : Nat) : Rendering :=
  match table.column? position with
  | none => ⟨table, []⟩
  | some column =>
      let call : Call :=
        if column.name = "id" ∧
            (column.kind = .integer ∨ column.kind = .bigInteger) then
          ⟨"id", []⟩
        else
          ⟨column.kind.incrementsMethod?.getD "increments",
            [.literal column.name]⟩
      ⟨table.markIdentity position,
        [.statement ⟨call :: commentCalls column.comment⟩]⟩

/-- Create a pair of timestamps. -/
def renderTimestamps (table : Table) (zoned : Bool) (position : Nat) :
    Rendering :=
  let arguments :=
    ((table.column? position).map Column.arguments).getD []
  let rest :=
    match table.timestampSibling? zoned position with
    | some sibling => table.suppress sibling
    | none => table
  ⟨rest, [.call (if zoned then "timestampsTz" else "timestamps")
    (arguments.map .verbatim)]⟩

/-- Create the column that notes deletions. -/
def renderSoftDelete (table : Table) (zoned : Bool) (position : Nat) :
    Rendering :=
  let arguments :=
    ((table.column? position).map Column.arguments).getD []
  ⟨table, [.call (if zoned then "softDeletesTz" else "softDeletes")
    (if arguments.isEmpty then []
      else .literal "deleted_at" :: arguments.map .verbatim)]⟩

/-- The call that constrains a column to a table; the column `id` of that
table need not be named. -/
def constrainedCall (key : ForeignKey) : Call :=
  match key.references.head? with
  | none | some "id" => ⟨"constrained", [.literal key.targetTable]⟩
  | some column =>
      ⟨"constrained", [.literal key.targetTable, .literal column]⟩

/-- The statement that creates a column along with its foreign key. -/
def foreignStatement (column : Column) (key : ForeignKey) : Statement :=
  ⟨⟨(foreignMethod? column.kind).getD "foreignId",
      [.literal column.name]⟩ ::
    column.modifierCalls ++ constrainedCall key :: key.actionCalls⟩

/-- Create a column along with the foreign key of its marker. A marker by
itself leaves the work to its column. -/
def renderForeignKey (table : Table) (position : Nat) : Rendering :=
  match table.column? position, table.ownerOf? position with
  | some column, some marker =>
      if column.isMarker then ⟨table, []⟩
      else
        let key := (table.column? marker).bind Column.foreignKey
        let rest := (table.suppress marker).update position
          (fun column => { column with foreignKey := key })
        ⟨rest, (key.map
          (fun key => Line.statement (foreignStatement column key))).toList⟩
  | _, _ => ⟨table, []⟩

/-- Create a discriminator pair. -/
def renderMorphs (table : Table) (family : MorphFamily)
    (position : Nat) : Rendering :=
  match table.morphPair? family position with
  | none => ⟨table, []⟩
  | some pair =>
      let nullable :=
        ((table.column? pair.idColumn).map Column.nullable).getD false
      ⟨(table.suppress pair.idColumn).suppress pair.typeColumn,
        [.call (family.method nullable) [.literal pair.base]]⟩

/-- What is left for a column that no rule recognises: its plain creation,
or the explicit constraint of a marker. -/
def structuralLines (column : Column) : List Line :=
  if column.isMarker then
    (column.owningKey?.map (fun key => Line.statement key.constraint)).toList
  else (column.creation?.map Line.statement).toList

/-- Render a column plainly. -/
def renderStructural (table : Table) (position : Nat) : Rendering :=
  ⟨table, ((table.column? position).map structuralLines).getD []⟩

end Table

namespace Shorthand

/-- The shorthands in the order in which they are tried. -/
def inOrder : List Shorthand :=
  [ .identity, .timestamps true, .timestamps false, .softDeletes true,
    .softDeletes false, .rememberToken, .foreignKey, .morphs .uuid,
    .morphs .ulid, .morphs .integer ]

/-- The name of the rule. -/
def name : Shorthand → String
  | .identity => "identity"
  | .timestamps true => "timestamps_tz"
  | .timestamps false => "timestamps"
  | .softDeletes true => "soft_deletes_tz"
  | .softDeletes false => "soft_deletes"
  | .rememberToken => "remember_token"
  | .foreignKey => "foreign_key"
  | .morphs .uuid => "uuid_morphs"
  | .morphs .ulid => "ulid_morphs"
  | .morphs .integer => "morphs"

/-- Whether the shorthand recognises the column at a position. -/
def test (shorthand : Shorthand) (table : Table) (position : Nat) :
    Bool :=
  match shorthand with
  | .identity => table.isIdentity position
  | .timestamps zoned => (table.timestampSibling? zoned position).isSome
  | .softDeletes zoned => table.isSoftDelete zoned position
  | .rememberToken => table.isRememberToken position
  | .foreignKey =>
      match table.column? position with
      | none => false
      | some column =>
          if column.isMarker then (table.ownedColumn? position).isSome
          else (table.ownerOf? position).isSome
  | .morphs family => (table.morphPair? family position).isSome

/-- Render the column at a position. -/
def render (shorthand : Shorthand) (table : Table) (position : Nat) :
    Rendering :=
  match shorthand with
  | .identity => table.renderIdentity position
  | .timestamps zoned => table.renderTimestamps zoned position
  | .softDeletes zoned => table.renderSoftDelete zoned position
  | .rememberToken => ⟨table, [.call "rememberToken" []]⟩
  | .foreignKey => table.renderForeignKey position
  | .morphs family => table.renderMorphs family position

/-- The shorthand as a rule. -/
def rule (shorthand : Shorthand) : ColumnRule :=
  { name := shorthand.name
    test := fun _ => shorthand.test
    render := fun _ => shorthand.render }

end Shorthand

/-- The rule of last resort, which recognises every column. -/
def ColumnRule.structural : ColumnRule :=
  { name := "structural"
    test := fun _ _ _ => true
    render := fun _ => Table.renderStructural }

end Tablewright
