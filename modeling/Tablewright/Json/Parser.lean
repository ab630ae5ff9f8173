import Tablewright.Json.Value

namespace Tablewright.Json.Parser

/-!
# Reading JSON text

The reader works on a list of characters and gives back what it did not
consume. It accepts no comments, trailing commas, byte order mark, raw
control characters or lone surrogate escapes, and no nesting below 127
arrays and objects. Members of objects come out sorted by key, the last of
several with one key winning.
-/

/-- Drop the whitespace that may stand between tokens. -/
def skipBlanks (input : List Char) : List Char :=
  input.dropWhile (fun character =>
    character == ' ' || character == '\n' ||
      character == '\t' || character == '\r')

/-- The number that a decimal digit stands for. -/
def digitValue (digit : Char) : Nat :=
  digit.toNat - '0'.toNat

/-- The greatest significand that digits are collected into. -/
def significandLimit : Nat := Nat.pow 2 64 - 1

/-- Digits collected so far, and the power of ten they are to be scaled by. -/
structure Collected where
  significand : Nat
  exponent : Int
  full : Bool
  deriving Repr, DecidableEq

/-- Add a digit before the point; once the significand is full the digit
only raises the exponent. -/
def Collected.addWhole (collected : Collected) (digit : Char) : Collected :=
  let next := collected.significand * 10 + digitValue digit
  if collected.full || significandLimit < next then
    { collected with exponent := collected.exponent + 1, full := true }
  else
    { collected with significand := next }

/-- Add a digit after the point; once the significand is full it is
dropped. -/
def Collected.addFraction (collected : Collected) (digit : Char) :
    Collected :=
  let next := collected.significand * 10 + digitValue digit
  if collected.full || significandLimit < next then
    { collected with full := true }
  else
    { collected with
      significand := next
      exponent := collected.exponent - 1 }

/-- The digits at the front of the input and what follows them. -/
def spanDigits (input : List Char) : List Char × List Char :=
  (input.takeWhile Char.isDigit, input.dropWhile Char.isDigit)

/-- The fraction of a number, if a point follows; the point needs digits. -/
def fraction? (input : List Char) :
    Option (Option (List Char) × List Char) :=
  match input with
  | '.' :: rest =>
      match spanDigits rest with
      | ([], _) => none
      | (digits, rest) => some (some digits, rest)
  | _ => some (none, input)

/-- The exponent of a number, if one follows; it needs digits. -/
def exponent? (input : List Char) : Option (Option Int × List Char) :=
  let signed (negative : Bool) (rest : List Char) :
      Option (Option Int × List Char) :=
    match spanDigits rest with
    | ([], _) => none
    | (digits, rest) =>
        let magnitude : Int :=
          digits.foldl (fun total digit => total * 10 + digitValue digit) 0
        some (some (if negative then -magnitude else magnitude), rest)
  match input with
  | 'e' :: '-' :: rest | 'E' :: '-' :: rest => signed true rest
  | 'e' :: '+' :: rest | 'E' :: '+' :: rest => signed false rest
  | 'e' :: rest | 'E' :: rest => signed false rest
  | _ => some (none, input)

/-- The number without point and exponent that whole digits denote. -/
def wholeNumber? (negative : Bool) (collected : Collected) :
    Option Number :=
  let value := collected.significand
  if collected.full || (negative && (value == 0 || Nat.pow 2 63 < value)) then
    (Decimal.Double.ofDecimal? negative value collected.exponent).map
      .double
  else
    some (.integer (if negative then -value else value))

/-- A number whose sign has been read. -/
def unsignedNumber? (negative : Bool) (input : List Char) :
    Option (Number × List Char) :=
  match spanDigits input with
  | ([], _) => none
  | (digits, rest) =>
      if digits.head? == some '0' && digits.length != 1 then none
      else
        let whole := digits.foldl Collected.addWhole ⟨0, 0, false⟩
        (fraction? rest).bind fun (fraction, rest) =>
          (exponent? rest).bind fun (exponent, rest) =>
            match fraction, exponent with
            | none, none =>
                (wholeNumber? negative whole).map fun number =>
                  (number, rest)
            | _, _ =>
                let start := { whole with full := false }
                let collected :=
                  (fraction.getD []).foldl Collected.addFraction start
                (Decimal.Double.ofDecimal? negative collected.significand
                  (collected.exponent + exponent.getD 0)).map fun value =>
                    (.double value, rest)

/-- A number. -/
def number? (input : List Char) : Option (Number × List Char) :=
  match input with
  | '-' :: rest => unsignedNumber? true rest
  | _ => unsignedNumber? false input

/-- The value of a hexadecimal digit. -/
def hexadecimalValue? (digit : Char) : Option Nat :=
  if digit.isDigit then some (digit.toNat - '0'.toNat)
  else if 'a' ≤ digit ∧ digit ≤ 'f' then
    some (digit.toNat - 'a'.toNat + 10)
  else if 'A' ≤ digit ∧ digit ≤ 'F' then
    some (digit.toNat - 'A'.toNat + 10)
  else none

/-- The code unit written by four hexadecimal digits. -/
def codeUnit? (a b c d : Char) : Option Nat := do
  let a ← hexadecimalValue? a
  let b ← hexadecimalValue? b
  let c ← hexadecimalValue? c
  let d ← hexadecimalValue? d
  return ((a * 16 + b) * 16 + c) * 16 + d

/-- The character of a one-letter escape. -/
def simpleEscape? (letter : Char) : Option Char :=
  match letter with
  | '"' => some '"'
  | '\\' => some '\\'
  | '/' => some '/'
  | 'b' => some '\x08'
  | 'f' => some '\x0c'
  | 'n' => some '\n'
  | 'r' => some '\r'
  | 't' => some '\t'
  | _ => none

/-- The rest of a string whose opening quote has been read. -/
def stringBody? : List Char → Option (List Char × List Char)
  | [] => none
  | '"' :: rest => some ([], rest)
  | '\\' :: 'u' :: a :: b :: c :: d :: rest =>
      match codeUnit? a b c d with
      | none => none
      | some unit =>
          if unit < 0xd800 || 0xe000 ≤ unit then
            (stringBody? rest).map fun (text, rest) =>
              (Char.ofNat unit :: text, rest)
          else if 0xdc00 ≤ unit then none
          else
            match rest with
            | '\\' :: 'u' :: e :: f :: g :: h :: rest =>
                match codeUnit? e f g h with
                | none => none
                | some low =>
                    if low < 0xdc00 || 0xe000 ≤ low then none
                    else
                      let code := 0x10000 +
                        (unit - 0xd800) * 0x400 + (low - 0xdc00)
                      (stringBody? rest).map fun (text, rest) =>
                        (Char.ofNat code :: text, rest)
            | _ => none
  | '\\' :: letter :: rest =>
      match simpleEscape? letter with
      | none => none
      | some character =>
          (stringBody? rest).map fun (text, rest) =>
            (character :: text, rest)
  | character :: rest =>
      if character < ' ' || character == '\\' then none
      else
        (stringBody? rest).map fun (text, rest) =>
          (character :: text, rest)

mutual

/-- A value, with at most `depth` further arrays and objects inside each
other. -/
def value? (fuel depth : Nat) (input : List Char) :
    Option (Value × List Char) :=
  match fuel with
  | 0 => none
  | fuel + 1 =>
      match skipBlanks input with
      | 'n' :: 'u' :: 'l' :: 'l' :: rest => some (.null, rest)
      | 't' :: 'r' :: 'u' :: 'e' :: rest => some (.boolean true, rest)
      | 'f' :: 'a' :: 'l' :: 's' :: 'e' :: rest =>
          some (.boolean false, rest)
      | '"' :: rest =>
          (stringBody? rest).map fun (text, rest) =>
            (.string (String.ofList text), rest)
      | '[' :: rest =>
          match depth with
          | 0 => none
          | depth + 1 =>
              match skipBlanks rest with
              | ']' :: rest => some (.array [], rest)
              | rest =>
                  (elements? fuel depth rest).map fun (elements, rest) =>
                    (.array elements, rest)
      | '{' :: rest =>
          match depth with
          | 0 => none
          | depth + 1 =>
              match skipBlanks rest with
              | '}' :: rest => some (.object [], rest)
              | rest =>
                  (members? fuel depth rest).map fun (members, rest) =>
                    (.object (sortMembers members), rest)
      | rest =>
          (number? rest).map fun (number, rest) => (.number number, rest)

/-- The elements of an array that has at least one, with the closing
bracket. -/
def elements? (fuel depth : Nat) (input : List Char) :
    Option (List Value × List Char) :=
  match fuel with
  | 0 => none
  | fuel + 1 =>
      match value? fuel depth input with
      | none => none
      | some (first, rest) =>
          match skipBlanks rest with
          | ']' :: rest => some ([first], rest)
          | ',' :: rest =>
              (elements? fuel depth rest).map fun (others, rest) =>
                (first :: others, rest)
          | _ => none

/-- The members of an object that has at least one, with the closing
brace. -/
def members? (fuel depth : Nat) (input : List Char) :
    Option (List (String × Value) × List Char) :=
  match fuel with
  | 0 => none
  | fuel + 1 =>
      match skipBlanks input with
      | '"' :: rest =>
          match stringBody? rest with
          | none => none
          | some (key, rest) =>
              match skipBlanks rest with
              | ':' :: rest =>
                  match value? fuel depth rest with
                  | none => none
                  | some (value, rest) =>
                      let member := (String.ofList key, value)
                      match skipBlanks rest with
                      | '}' :: rest => some ([member], rest)
                      | ',' :: rest =>
                          (members? fuel depth rest).map
                            fun (others, rest) => (member :: others, rest)
                      | _ => none
              | _ => none
      | _ => none

end

/-- The deepest nesting of arrays and objects that is read. -/
def depthLimit : Nat := 127

end Tablewright.Json.Parser

namespace Tablewright.Json

/-- Read a whole text as one value. -/
def parse? (text : String) : Option Value :=
  let input := text.toList
  match Parser.value? (2 * input.length + 2) Parser.depthLimit input with
  | some (value, rest) =>
      if (Parser.skipBlanks rest).isEmpty then some value else none
  | none => none

end Tablewright.Json
