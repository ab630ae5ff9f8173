import Tablewright.Text.Pieces

namespace Tablewright.Directive

/-!
# Quotes and brackets

Bodies of directives are read with an eye on quotes and brackets. Between
two equal quotation marks every character is ordinary, and a backslash
protects the one after it.
-/

/-- Where a scan stands with respect to quotation marks. -/
inductive Quoting where
  | outside
  | inside (mark : Char)
  | escaped (mark : Char)
  deriving Repr, DecidableEq

/-- Whether a character is a quotation mark. -/
def isQuote (character : Char) : Bool :=
  character == '\'' || character == '"'

/-- Where the scan stands after one more character. -/
def Quoting.next (quoting : Quoting) (character : Char) : Quoting :=
  match quoting with
  | .outside => if isQuote character then .inside character else .outside
  | .inside mark =>
      if character = '\\' then .escaped mark
      else if character = mark then .outside
      else .inside mark
  | .escaped mark => .inside mark

/-- The closing bracket of an opening one. -/
def closerOf? (opener : Char) : Option Char :=
  match opener with
  | '(' => some ')'
  | '[' => some ']'
  | '{' => some '}'
  | _ => none

/-- Whether a character is a closing bracket. -/
def isCloser (character : Char) : Bool :=
  character == ')' || character == ']' || character == '}'

/-- Put a character in front of the first part. -/
def consFirst (character : Char) : List (List Char) → List (List Char)
  | [] => [[character]]
  | part :: parts => (character :: part) :: parts

/-- The nesting depth after a character; a closing bracket without an
opening one does not count. -/
def depthAfter (quoting : Quoting) (depth : Nat) (character : Char) : Nat :=
  match quoting with
  | .outside =>
      if (closerOf? character).isSome then depth + 1
      else if isCloser character then depth - 1
      else depth
  | _ => depth

/-- Cut at the commas outside brackets and quotes, from a given state. -/
def splitFrom (depth : Nat) (quoting : Quoting) :
    List Char → List (List Char)
  | [] => [[]]
  | character :: rest =>
      if quoting = .outside ∧ depth = 0 ∧ character = ',' then
        [] :: splitFrom 0 .outside rest
      else
        consFirst character
          (splitFrom (depthAfter quoting depth character)
            (quoting.next character) rest)

/-- Cut at the commas outside brackets and quotes. -/
def splitTopLevel (text : List Char) : List (List Char) :=
  splitFrom 0 .outside text

/-- Join parts with commas. -/
def joinWithCommas : List (List Char) → List Char
  | [] => []
  | [part] => part
  | part :: rest => part ++ ',' :: joinWithCommas rest

/-- Cut `key: value` at its first colon. Brackets and quotes before the
colon, and a doubled colon, belong to a value without a key. -/
def splitPair? : List Char → Option (List Char × List Char)
  | [] => none
  | character :: rest =>
      if (closerOf? character).isSome || isQuote character then none
      else if character = ':' then
        if rest.head? = some ':' then none else some ([], rest)
      else
        (splitPair? rest).map fun (key, value) => (character :: key, value)

/-- Whether a text of at least two characters starts and ends with a
mark. -/
def isEnclosedBy (mark : Char) (text : List Char) : Bool :=
  2 ≤ text.length && text.head? == some mark && text.getLast? == some mark

/-- Trim a text and drop one pair of equal quotation marks around it. -/
def unquote (text : List Char) : List Char :=
  let trimmed := Text.trim text
  if isEnclosedBy '\'' trimmed || isEnclosedBy '"' trimmed then
    (trimmed.drop 1).dropLast
  else trimmed

end Tablewright.Directive
