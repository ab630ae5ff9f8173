import Tablewright.Json.Value
import Tablewright.Decimal.Shortest

namespace Tablewright.Json

/-!
# Writing JSON text

The compact form has no spaces; the pretty form indents by two and writes
empty arrays and objects without a line break. Only the quotation mark, the
backslash and the control characters below the space are escaped.
-/

/-- Doubles are plain from 1e-5 up to 1e16, always have a point there, and
otherwise show the sign of their exponent. -/
def doubleLayout : Decimal.Layout :=
  { leastPlain := -5, firstScientific := 16, exponentSign := true }

/-- A number as text. -/
def Number.text : Number → List Char
  | .integer (.ofNat value) => Nat.toDigits 10 value
  | .integer (.negSucc value) => '-' :: Nat.toDigits 10 (value + 1)
  | .double value => value.text doubleLayout

/-- A lowercase hexadecimal digit. -/
def hexadecimalDigit (value : Nat) : Char :=
  if value < 10 then Char.ofNat ('0'.toNat + value)
  else Char.ofNat ('a'.toNat + value - 10)

/-- A character inside a string. -/
def writeCharacter (character : Char) : List Char :=
  match character with
  | '"' => ['\\', '"']
  | '\\' => ['\\', '\\']
  | '\x08' => ['\\', 'b']
  | '\x0c' => ['\\', 'f']
  | '\n' => ['\\', 'n']
  | '\r' => ['\\', 'r']
  | '\t' => ['\\', 't']
  | _ =>
      if character < ' ' then
        ['\\', 'u', '0', '0',
          hexadecimalDigit (character.toNat / 16),
          hexadecimalDigit (character.toNat % 16)]
      else [character]

/-- A string in quotation marks. -/
def writeString (text : String) : List Char :=
  '"' :: text.toList.flatMap writeCharacter ++ ['"']

namespace Value

mutual

/-- The compact form, as characters. -/
def write : Value → List Char
  | .null => ['n', 'u', 'l', 'l']
  | .boolean true => ['t', 'r', 'u', 'e']
  | .boolean false => ['f', 'a', 'l', 's', 'e']
  | .number numeral => numeral.text
  | .string text => writeString text
  | .array [] => ['[', ']']
  | .array (first :: rest) =>
      '[' :: first.write ++ writeElements rest ++ [']']
  | .object [] => ['{', '}']
  | .object ((key, value) :: rest) =>
      '{' :: writeString key ++ ':' :: value.write ++
        writeMembers rest ++ ['}']

/-- Further elements, each after a comma. -/
def writeElements : List Value → List Char
  | [] => []
  | first :: rest => ',' :: first.write ++ writeElements rest

/-- Further members, each after a comma. -/
def writeMembers : List (String × Value) → List Char
  | [] => []
  | (key, value) :: rest =>
      ',' :: writeString key ++ ':' :: value.write ++ writeMembers rest

end

/-- A line break with the indentation of a nesting level. -/
def lineBreak (level : Nat) : List Char :=
  '\n' :: List.replicate (2 * level) ' '

mutual

/-- The pretty form, as characters, for a value at a nesting level. -/
def writePretty (level : Nat) : Value → List Char
  | .array (first :: rest) =>
      '[' :: lineBreak (level + 1) ++ first.writePretty (level + 1) ++
        writePrettyElements (level + 1) rest ++ lineBreak level ++ [']']
  | .object ((key, value) :: rest) =>
      '{' :: lineBreak (level + 1) ++ writeString key ++ [':', ' '] ++
        value.writePretty (level + 1) ++
        writePrettyMembers (level + 1) rest ++ lineBreak level ++ ['}']
  | .array [] => ['[', ']']
  | .object [] => ['{', '}']
  | .null => ['n', 'u', 'l', 'l']
  | .boolean true => ['t', 'r', 'u', 'e']
  | .boolean false => ['f', 'a', 'l', 's', 'e']
  | .number numeral => numeral.text
  | .string text => writeString text

/-- Further elements, each on a line of its own. -/
def writePrettyElements (level : Nat) : List Value → List Char
  | [] => []
  | first :: rest =>
      ',' :: lineBreak level ++ first.writePretty level ++
        writePrettyElements level rest

/-- Further members, each on a line of its own. -/
def writePrettyMembers (level : Nat) : List (String × Value) → List Char
  | [] => []
  | (key, value) :: rest =>
      ',' :: lineBreak level ++ writeString key ++ [':', ' '] ++
        value.writePretty level ++ writePrettyMembers level rest

end

/-- The compact form of a value. -/
def compact (value : Value) : String :=
  String.ofList value.write

/-- The pretty form of a value. -/
def pretty (value : Value) : String :=
  String.ofList (value.writePretty 0)

end Value

end Tablewright.Json
