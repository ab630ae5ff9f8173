import Tablewright.Json.Printer

namespace Tablewright.Json

/-!
# JSON text in ASCII

In JSON text every character outside ASCII stands inside a string, where it
may be written as the escapes of its UTF-16 code units.
-/

/-- The escape of a code unit. -/
def unitEscape (unit : Nat) : List Char :=
  '\\' :: 'u' ::
    [unit / 4096, unit / 256, unit / 16, unit].map
      (fun code => hexadecimalDigit (code % 16))

/-- A character in ASCII, with two code units above the basic plane. -/
def asciiCharacter (character : Char) : List Char :=
  let code := character.toNat
  if code < 0x80 then [character]
  else if code < 0x10000 then unitEscape code
  else
    unitEscape (0xd800 + (code - 0x10000) / 0x400) ++
      unitEscape (0xdc00 + (code - 0x10000) % 0x400)

/-- The compact form of a value in ASCII. -/
def Value.ascii (value : Value) : String :=
  String.ofList (value.write.flatMap asciiCharacter)

end Tablewright.Json
