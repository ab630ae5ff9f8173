import Tablewright.Json.Printer
import Tablewright.Text.Escaped

namespace Tablewright.Json

/-!
# Decoding by shape

A decoder turns a generic value into a record of the library or says which
part has the wrong shape. A record may be given as an object, whose unknown
members are ignored, or as an array of its members in declaration order.
-/

/-- Why a value does not have the expected shape. -/
inductive ShapeFault where
  | wrongType (found expected : String)
  | wrongValue (found expected : String)
  | missingMember (name : String)
  | unknownVariant (found : String) (known : List String)
  | tooShort (length : Nat) (expected : String)
  | tooLong (length : Nat)
  deriving Repr, DecidableEq

/-- A name between backticks. -/
def ticked (name : String) : String :=
  "\x60" ++ name ++ "\x60"

/-- The wording of a shape fault. -/
def ShapeFault.message : ShapeFault → String
  | .wrongType found expected =>
      "invalid type: " ++ found ++ ", expected " ++ expected
  | .wrongValue found expected =>
      "invalid value: " ++ found ++ ", expected " ++ expected
  | .missingMember name => "missing field " ++ ticked name
  | .unknownVariant found known =>
      "unknown variant " ++ ticked found ++ ", expected one of " ++
        ", ".intercalate (known.map ticked)
  | .tooShort length expected =>
      "invalid length " ++ toString length ++ ", expected " ++ expected
  | .tooLong length =>
      "invalid length " ++ toString length ++
        ", expected fewer elements in array"

/-- A decoder of values. -/
abbrev Decoder (α : Type) : Type := Value → Except ShapeFault α

/-- How a value is named in a diagnostic. -/
def Value.description : Value → String
  | .null => "null"
  | .boolean true => "boolean " ++ ticked "true"
  | .boolean false => "boolean " ++ ticked "false"
  | .number (.integer value) =>
      "integer " ++ ticked (String.ofList (Number.integer value).text)
  | .number (.double value) =>
      "floating point " ++
        ticked (String.ofList (Number.double value).text)
  | .string text => "string " ++ Text.escaped text
  | .array _ => "sequence"
  | .object _ => "map"

namespace Decoder

/-- The fault of a value that is of the wrong type. -/
def mismatch (expected : String) (value : Value) : Except ShapeFault α :=
  .error (.wrongType value.description expected)

/-- A string. -/
def text : Decoder String
  | .string text => .ok text
  | value => mismatch "a string" value

/-- A boolean. -/
def flag : Decoder Bool
  | .boolean value => .ok value
  | value => mismatch "a boolean" value

/-- Null for an absent value, or a value. -/
def nullable (inner : Decoder α) : Decoder (Option α)
  | .null => .ok none
  | value => (inner value).map some

/-- An array of values of one shape. -/
def sequence (element : Decoder α) : Decoder (List α)
  | .array elements => elements.mapM element
  | value => mismatch "a sequence" value

/-- Any value at all. -/
def any : Decoder Value := .ok

/-- The variant of a given name. -/
def variantNamed (variants : List (String × α)) (name : String) :
    Except ShapeFault α :=
  match variants.lookup name with
  | some variant => .ok variant
  | none => .error (.unknownVariant name (variants.map Prod.fst))

/-- One of several named variants, as a string or as the only member of an
object with the value null. -/
def variant (variants : List (String × α)) : Decoder α
  | .string name => variantNamed variants name
  | .object [(name, content)] =>
      (variantNamed variants name).bind fun found =>
        match content with
        | .null => .ok found
        | _ => mismatch "unit" content
  | .object _ =>
      .error (.wrongValue "map" "map with a single key")
  | value => mismatch "string or map" value

/-- A member of a record: how its value updates the record under
construction. -/
structure Member (ρ : Type) where
  name : String
  required : Bool
  read : Value → ρ → Except ShapeFault ρ

/-- A member that must be given. -/
def required (name : String) (decode : Decoder α)
    (store : ρ → α → ρ) : Member ρ :=
  ⟨name, true, fun value held => (decode value).map (store held)⟩

/-- A member that keeps its default when it is left out. -/
def defaulted (name : String) (decode : Decoder α)
    (store : ρ → α → ρ) : Member ρ :=
  ⟨name, false, fun value held => (decode value).map (store held)⟩

/-- Read the members of an object in the order they are given. -/
def readObject (members : List (Member ρ)) :
    List (String × Value) → ρ → Except ShapeFault ρ
  | [], held => .ok held
  | (key, value) :: rest, held =>
      match members.find? (fun member => member.name == key) with
      | none => readObject members rest held
      | some member =>
          (member.read value held).bind (readObject members rest)

/-- Read the elements of an array as members in declaration order. -/
def readArray (expected : String) (position : Nat) :
    List (Member ρ) → List Value → ρ → Except ShapeFault ρ
  | [], _, held => .ok held
  | member :: members, [], held =>
      if member.required then .error (.tooShort position expected)
      else readArray expected (position + 1) members [] held
  | member :: members, value :: rest, held =>
      (member.read value held).bind
        (readArray expected (position + 1) members rest)

/-- How a record is named with the number of its members. -/
def counted (name : String) (count : Nat) : String :=
  name ++ " with " ++ toString count ++
    (if count == 1 then " element" else " elements")

/-- Read a record from an array. -/
def tuple (name : String) (members : List (Member ρ)) (start : ρ)
    (elements : List Value) : Except ShapeFault ρ :=
  (readArray (counted name members.length) 0 members elements start).bind
    fun held =>
      if members.length < elements.length then
        .error (.tooLong elements.length)
      else .ok held

/-- A record given as an object or as an array. -/
def record (name : String) (members : List (Member ρ)) (start : ρ) :
    Decoder ρ
  | .object given =>
      (readObject members given start).bind fun held =>
        match members.find? (fun member =>
            member.required && (given.lookup member.name).isNone) with
        | some member => .error (.missingMember member.name)
        | none => .ok held
  | .array elements => tuple name members start elements
  | value => mismatch name value

end Decoder

end Tablewright.Json
