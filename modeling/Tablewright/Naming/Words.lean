import Tablewright.Text.Casing

namespace Tablewright.Naming

/-!
# Words of an identifier

An identifier is cut into pieces at every character that is neither a letter
nor a numeral. Inside a piece a word ends between a lowercase and an
uppercase character, and before the last of several capitals that is
followed by a lowercase character.
-/

/-- Which case the current word was last seen in. -/
inductive Mode where
  | undecided
  | lower
  | upper
  deriving Repr, DecidableEq

/-- The mode after one more character. -/
def Mode.after (mode : Mode) (character : Char) : Mode :=
  if Text.isLowercase character then .lower
  else if Text.isUppercase character then .upper
  else mode

/-- Put a finished word in front unless it is empty. -/
def consWord (word : List Char) (words : List (List Char)) :
    List (List Char) :=
  if word.isEmpty then words else word :: words

/--
The words of a piece without separators.

`current` is the unfinished word. Each character is judged together with the
one that follows it.
-/
def wordsOfPiece (mode : Mode) (current : List Char) :
    List Char → List (List Char)
  | [] => consWord current []
  | [last] => [current ++ [last]]
  | character :: next :: rest =>
      let mode' := mode.after character
      if mode' = .lower ∧ Text.isUppercase next then
        (current ++ [character]) ::
          wordsOfPiece .undecided [] (next :: rest)
      else if mode = .upper ∧ Text.isUppercase character ∧
          Text.isLowercase next then
        consWord current
          (wordsOfPiece .undecided [character] (next :: rest))
      else
        wordsOfPiece mode' (current ++ [character]) (next :: rest)

/-- The maximal pieces of letters and numerals. -/
def pieces : List Char → List (List Char)
  | [] => [[]]
  | character :: rest =>
      match pieces rest with
      | [] => [[]]
      | piece :: others =>
          if Text.isAlphanumeric character then
            (character :: piece) :: others
          else [] :: piece :: others

/-- The words of an identifier. -/
def words (identifier : String) : List (List Char) :=
  (pieces identifier.toList).flatMap (wordsOfPiece .undecided [])

/-- The small form of a word; a capital sigma that ends the word takes its
final form. -/
def smallWord : List Char → List Char
  | [] => []
  | [last] =>
      if last.toNat = 0x3a3 then [Char.ofNat 0x3c2]
      else Text.lowercase last
  | character :: rest => Text.lowercase character ++ smallWord rest

/-- The word with its first character in capitals and the others small. -/
def capitalWord : List Char → List Char
  | [] => []
  | first :: rest => Text.uppercase first ++ smallWord rest

end Tablewright.Naming
