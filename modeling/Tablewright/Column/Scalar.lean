import Tablewright.Column.Basic
import Tablewright.Text.Pieces

namespace Tablewright.Column

/-!
# Columns of scalar fields

The column kind of a scalar type, refined by the database type.
-/

open Schema

/-- What a scalar type says about its column. -/
structure Storage where
  kind : Kind
  arguments : List String := []
  unsigned : Bool := false
  deriving Repr, DecidableEq

/-- The word that marks an integer without sign. -/
def unsignedMark : List Char := "unsigned".toList

/-- Drop every occurrence of the unsigned mark at the front. -/
def withoutUnsignedMarks (text : List Char) : List Char :=
  if _long : unsignedMark.length ≤ text.length then
    if unsignedMark.isPrefixOf text then
      withoutUnsignedMarks (text.drop unsignedMark.length)
    else text
  else text
termination_by text.length
decreasing_by
  have positive : 0 < unsignedMark.length := by decide
  simp only [List.length_drop]
  omega

/-- The integer kind that a database type names. -/
def integerKind? (native : String) : Option Kind :=
  match native with
  | "tinyint" => some .tinyInteger
  | "smallint" => some .smallInteger
  | "mediumint" => some .mediumInteger
  | "bigint" => some .bigInteger
  | "int" | "integer" => some .integer
  | _ => none

/-- The column of an integer type. -/
def integerStorage (fallback : Kind) (native : Option String) : Storage :=
  match native with
  | none => { kind := fallback }
  | some native =>
      let base :=
        String.ofList (withoutUnsignedMarks native.toList)
      { kind := (integerKind? base).getD fallback
        unsigned := unsignedMark.isPrefixOf native.toList }

/-- The column of a text type. -/
def textStorage (native : Option String) (arguments : List String) :
    Storage :=
  match native with
  | some "varchar" => { kind := .string, arguments := arguments }
  | some "char" => { kind := .char, arguments := arguments }
  | some "text" => { kind := .text }
  | some "tinytext" => { kind := .tinyText }
  | some "mediumtext" => { kind := .mediumText }
  | some "longtext" => { kind := .longText }
  | some "uuid" => { kind := .uuid }
  | _ => { kind := .string }

/-- The column of a date and time type. -/
def temporalStorage (native : Option String) (arguments : List String) :
    Storage :=
  match native with
  | some "timestamptz" => { kind := .timestampTz, arguments := arguments }
  | some "timestamp" => { kind := .timestamp, arguments := arguments }
  | some "date" => { kind := .date }
  | some "time" => { kind := .time, arguments := arguments }
  | some "timetz" => { kind := .timeTz, arguments := arguments }
  | some "datetime" | some "datetime2" =>
      { kind := .dateTime, arguments := arguments }
  | some "year" => { kind := .year }
  | _ => { kind := .timestamp }

/-- The column of a scalar type; an unknown type is stored as text. -/
def scalarStorage (typeName : String) (nativeType : Option NativeType) :
    Storage :=
  let native :=
    nativeType.map (fun native => Text.asciiLowercase native.name)
  let arguments := (nativeType.map NativeType.arguments).getD []
  match typeName with
  | "Int" => integerStorage .integer native
  | "BigInt" => integerStorage .bigInteger native
  | "Float" =>
      if native = some "real" ∨ native = some "float" then
        { kind := .float }
      else { kind := .double }
  | "Decimal" =>
      { kind := .decimal
        arguments := if arguments.isEmpty then ["8", "2"] else arguments }
  | "Boolean" => { kind := .boolean }
  | "String" => textStorage native arguments
  | "DateTime" => temporalStorage native arguments
  | "Json" =>
      if native = some "jsonb" then { kind := .jsonb }
      else { kind := .json }
  | "Bytes" => { kind := .binary }
  | _ => { kind := .string }

end Tablewright.Column
