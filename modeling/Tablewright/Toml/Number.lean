import Tablewright.Decimal.Double
import Tablewright.Toml.Item
import Tablewright.Toml.Text

namespace Tablewright.Toml

/-!
# TOML numbers and moments

Integers lie between -2^63 and 2^63 - 1. A moment is a date, a time of day,
or a date with a time and possibly an offset.
-/

/-- Read further digits, with single underscores between digits. -/
def moreDigits (isDigit : Char → Bool) :
    List Char → Option (List Char × List Char)
  | [] => some ([], [])
  | ['_'] => none
  | '_' :: digit :: rest =>
      if isDigit digit then
        prepend digit (moreDigits isDigit rest)
      else none
  | digit :: rest =>
      if isDigit digit then
        prepend digit (moreDigits isDigit rest)
      else some ([], digit :: rest)

/-- Read at least one digit. -/
def someDigits (isDigit : Char → Bool) :
    List Char → Option (List Char × List Char)
  | digit :: rest =>
      if isDigit digit then
        prepend digit (moreDigits isDigit rest)
      else none
  | [] => none

/-- Read the digits of a decimal number without a leading zero. -/
def wholeDigits : List Char → Option (List Char × List Char)
  | '0' :: rest => some (['0'], rest)
  | text => someDigits Char.isDigit text

/-- The number that digits denote in a base. -/
def numeral (base : Nat) (digits : List Char) : Nat :=
  digits.foldl
    (fun total digit => total * base + (hexadecimal? digit).getD 0) 0

/-- The number of integers on either side of zero. -/
def integerLimit : Nat := Nat.pow 2 63

/-- An integer that is small enough. -/
def boundedInteger? (value : Int) : Option Item :=
  if -(integerLimit : Int) ≤ value && value < (integerLimit : Int) then
    some (.integer value)
  else none

/-- Read the digits of an integer in a base that its mark has named. -/
def readBased (base : Nat) (isDigit : Char → Bool) (text : List Char) :
    Option (Item × List Char) := do
  let (digits, rest) ← someDigits isDigit text
  let item ← boundedInteger? (numeral base digits)
  return (item, rest)

/-- Whether a digit is octal. -/
def isOctal (digit : Char) : Bool := '0' ≤ digit && digit ≤ '7'

/-- Whether a digit is binary. -/
def isBinary (digit : Char) : Bool := digit == '0' || digit == '1'

/-- Whether a digit is hexadecimal. -/
def isHexadecimal (digit : Char) : Bool := (hexadecimal? digit).isSome

/-- Read the exponent of a float, if there is one. -/
def readExponent : List Char → Option (Option Int × List Char)
  | mark :: rest =>
      if mark != 'e' && mark != 'E' then some (none, mark :: rest)
      else
        let (negative, digits) :=
          match rest with
          | '-' :: digits => (true, digits)
          | '+' :: digits => (false, digits)
          | digits => (false, digits)
        (someDigits Char.isDigit digits).map fun (digits, rest) =>
          let magnitude : Int := numeral 10 digits
          (some (if negative then -magnitude else magnitude), rest)
  | [] => some (none, [])

/-- Read the fraction of a float, if there is one. -/
def readFraction : List Char → Option (Option (List Char) × List Char)
  | '.' :: rest =>
      (someDigits Char.isDigit rest).map fun (digits, rest) =>
        (some digits, rest)
  | text => some (none, text)

/-- Whether a float is too great to be held. -/
def isTooGreat (whole fraction : List Char) (exponent : Int) : Bool :=
  (Decimal.Double.ofDecimal? false (numeral 10 (whole ++ fraction))
    (exponent - fraction.length)).isNone

/-- Read a decimal integer or a float whose sign has been read. -/
def readDecimal (negative : Bool) (text : List Char) :
    Option (Item × List Char) := do
  let (whole, afterWhole) ← wholeDigits text
  let (fraction, afterFraction) ← readFraction afterWhole
  let (exponent, rest) ← readExponent afterFraction
  let magnitude : Int := numeral 10 whole
  if fraction.isNone && exponent.isNone then
    let item ← boundedInteger? (if negative then -magnitude else magnitude)
    return (item, rest)
  else if !negative &&
      isTooGreat whole (fraction.getD []) (exponent.getD 0) then none
  else
    return (.float (String.ofList
      (text.take (text.length - rest.length))), rest)

/-- Read a number whose sign has been read. -/
def readUnsigned (negative : Bool) : List Char → Option (Item × List Char)
  | 'i' :: 'n' :: 'f' :: rest => some (.float "inf", rest)
  | 'n' :: 'a' :: 'n' :: rest => some (.float "nan", rest)
  | text => readDecimal negative text

/-- Read a number. -/
def readNumber : List Char → Option (Item × List Char)
  | '0' :: 'x' :: rest => readBased 16 isHexadecimal rest
  | '0' :: 'o' :: rest => readBased 8 isOctal rest
  | '0' :: 'b' :: rest => readBased 2 isBinary rest
  | '+' :: rest => readUnsigned false rest
  | '-' :: rest => readUnsigned true rest
  | text => readUnsigned false text

/-- Read two digits as a number up to a greatest one. -/
def readPair (greatest : Nat) : List Char → Option (Nat × List Char)
  | a :: b :: rest =>
      let value := numeral 10 [a, b]
      if a.isDigit && b.isDigit && value ≤ greatest then
        some (value, rest)
      else none
  | _ => none

/-- The number of days of a month. -/
def monthLength (year month : Nat) : Nat :=
  if month = 2 then
    if year % 4 = 0 ∧ (year % 100 ≠ 0 ∨ year % 400 = 0) then 29 else 28
  else if [4, 6, 9, 11].contains month then 30
  else 31

/-- Read a date; what follows it. -/
def readDate : List Char → Option (List Char)
  | a :: b :: c :: d :: '-' :: rest => do
      if [a, b, c, d].all Char.isDigit then
        let (month, rest) ← readPair 12 rest
        match rest with
        | '-' :: rest =>
            let (day, rest) ← readPair 31 rest
            if 1 ≤ month && 1 ≤ day &&
                day ≤ monthLength (numeral 10 [a, b, c, d]) month then
              return rest
            else none
        | _ => none
      else none
  | _ => none

/-- Read a time of day; what follows it. -/
def readTime (text : List Char) : Option (List Char) := do
  let (_, rest) ← readPair 23 text
  match rest with
  | ':' :: rest =>
      let (_, rest) ← readPair 59 rest
      match rest with
      | ':' :: rest =>
          let (_, rest) ← readPair 60 rest
          match rest with
          | '.' :: digit :: rest =>
              if digit.isDigit then return rest.dropWhile Char.isDigit
              else none
          | rest => return rest
      | _ => none
  | _ => none

/-- Read an offset, if there is one; what follows it. -/
def readOffset : List Char → Option (List Char)
  | 'Z' :: rest | 'z' :: rest => some rest
  | '+' :: rest | '-' :: rest => do
      let (_, rest) ← readPair 23 rest
      match rest with
      | ':' :: rest => (readPair 59 rest).map Prod.snd
      | _ => none
  | rest => some rest

/-- Read a time of day behind a date, if there is one; what follows it. -/
def readTimeOfDate (text : List Char) : Option (List Char) :=
  match text with
  | mark :: rest =>
      if mark == 'T' || mark == 't' || mark == ' ' then
        match readTime rest with
        | some rest => readOffset rest
        | none => some text
      else some text
  | [] => some []

/-- Read a moment. -/
def readMoment (text : List Char) : Option (Item × List Char) :=
  let rest :=
    match readDate text with
    | some rest => readTimeOfDate rest
    | none => readTime text
  rest.map (fun rest =>
    (.moment (String.ofList (text.take (text.length - rest.length))),
      rest))

end Tablewright.Toml
