import Tablewright.Toml.Text

namespace Tablewright.Toml

/-!
# Writing TOML strings

A text is written as a basic string if that needs no escapes, else as a
literal string, else over several lines, and with escapes only as a last
resort.
-/

/-- How a string is delimited. -/
inductive Delimiter where
  | basic
  | literal
  | longBasic
  | longLiteral
  deriving Repr, DecidableEq

/-- The greatest number of equal characters in a row. -/
def longestRun (sought : Char) (current : Nat) : List Char → Nat
  | [] => current
  | character :: rest =>
      if character = sought then longestRun sought (current + 1) rest
      else Nat.max current (longestRun sought 0 rest)

/-- Whether a character can only be written as an escape. -/
def needsEscape (character : Char) : Bool :=
  !isPrintable character && character != '\n'

/-- The delimiter of a text. -/
def delimiterFor (text : List Char) : Delimiter :=
  let double := longestRun '"' 0 text
  let single := longestRun '\'' 0 text
  let broken := text.contains '\n'
  let escapes := text.any needsEscape
  let backslash := text.contains '\\'
  if !escapes && !backslash && double = 0 && !broken then .basic
  else if !escapes && single = 0 && !broken then .literal
  else if !escapes && !backslash && double ≤ 2 then .longBasic
  else if !escapes && single ≤ 2 then .longLiteral
  else if broken then .longBasic
  else .basic

/-- The digits of a number in base sixteen, at least four. -/
def fourDigits (code : Nat) : List Char :=
  let digits := (Nat.toDigits 16 code).map Char.toUpper
  List.replicate (4 - digits.length) '0' ++ digits

/-- The escape of a character inside a basic string, if it has to be
escaped. -/
def escapeOf? (character : Char) : Option (List Char) :=
  match character with
  | '\x08' => some ['\\', 'b']
  | '\t' => some ['\\', 't']
  | '\x0c' => some ['\\', 'f']
  | '\r' => some ['\\', 'r']
  | '\\' => some ['\\', '\\']
  | other =>
      if isPrintable other then none
      else some ('\\' :: 'u' :: fourDigits other.toNat)

/-- The content of a basic string in which so many double quotes may stand
in a row, of which so many have just been written. -/
def basicContent (allowed : Nat) (breaks : Bool) :
    Nat → List Char → List Char
  | _, [] => []
  | quotes, '"' :: rest =>
      if quotes = allowed then
        '\\' :: '"' :: basicContent allowed breaks 0 rest
      else '"' :: basicContent allowed breaks (quotes + 1) rest
  | _, '\n' :: rest =>
      (if breaks then ['\n'] else ['\\', 'n']) ++
        basicContent allowed breaks 0 rest
  | _, character :: rest =>
      (escapeOf? character).getD [character] ++
        basicContent allowed breaks 0 rest

/-- The line break behind tripled quotes that protects one in the text. -/
def protectedBreak (text : List Char) : List Char :=
  if text.contains '\n' then ['\n'] else []

/-- The written form of a text. -/
def quoted (text : String) : String :=
  let characters := text.toList
  let tripled (quote : Char) := [quote, quote, quote]
  let written :=
    match delimiterFor characters with
    | .basic => '"' :: basicContent 0 false 0 characters ++ ['"']
    | .literal => '\'' :: characters ++ ['\'']
    | .longBasic =>
        tripled '"' ++ protectedBreak characters ++
          basicContent 2 true 0 characters ++ tripled '"'
    | .longLiteral =>
        tripled '\'' ++ protectedBreak characters ++ characters ++
          tripled '\''
  String.ofList written

/-- An array of texts: up to one on a line, more on lines of their own. -/
def quotedArray : List String → String
  | [] => "[]"
  | [text] => "[" ++ quoted text ++ "]"
  | texts =>
      "[\n" ++
        String.join (texts.map (fun text => "    " ++ quoted text ++ ",\n")) ++
        "]"

/-- A line that assigns a value to a key. -/
def assignment (key value : String) : String :=
  key ++ " = " ++ value ++ "\n"

end Tablewright.Toml
