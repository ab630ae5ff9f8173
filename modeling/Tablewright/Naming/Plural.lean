import Tablewright.Text.Pieces

namespace Tablewright.Naming

/-!
# English plurals

The last word of an identifier is made plural by a table of irregular nouns
or else by its ending. The case of the identifier is kept.
-/

/-- Nouns whose plural does not follow from their ending. -/
def irregularPlurals : List (String × String) :=
  [ ("child", "children"), ("foot", "feet"), ("goose", "geese"),
    ("man", "men"), ("mouse", "mice"), ("ox", "oxen"),
    ("person", "people"), ("tooth", "teeth"), ("woman", "women") ]

/-- Nouns that are their own plural. -/
def uncountableNouns : List String :=
  [ "audio", "data", "equipment", "feedback", "information", "media",
    "metadata", "money", "news", "series", "sheep", "species", "staff" ]

/-- Cut before the last ASCII capital that follows another character than a
capital; the first part is empty if there is none. -/
def splitAtCapital : List Char → List Char × List Char
  | [] => ([], [])
  | [only] => ([], [only])
  | previous :: character :: rest =>
      match splitAtCapital (character :: rest) with
      | ([], _) =>
          if character.isUpper && !previous.isUpper then
            ([previous], character :: rest)
          else ([], previous :: character :: rest)
      | (head, tail) => (previous :: head, tail)

/-- Cut after the last underscore; the first part is empty if there is
none. -/
def splitAtUnderscore : List Char → List Char × List Char
  | [] => ([], [])
  | character :: rest =>
      match splitAtUnderscore rest with
      | ([], _) =>
          if character = '_' then ([character], rest)
          else ([], character :: rest)
      | (head, tail) => (character :: head, tail)

/-- Everything before the last word, and the last word. -/
def splitLastWord (text : List Char) : List Char × List Char :=
  let (front, word) := splitAtCapital text
  let (inner, last) := splitAtUnderscore word
  (front ++ inner, last)

/-- Write a small word in the case of another one: all capitals, one leading
capital, or small. -/
def matchCase (like word : List Char) : List Char :=
  if 1 < like.length ∧ like.all (fun character => !character.isLower) then
    word.map Char.toUpper
  else
    match like.head?, word with
    | some first, initial :: rest =>
        if first.isUpper then initial.toUpper :: rest else word
    | _, _ => word

/-- Whether a text ends in one of several endings. -/
def endsInOneOf (endings : List String) (text : List Char) : Bool :=
  endings.any (fun ending => ending.toList.isSuffixOf text)

/-- The regular plural, by ending. -/
def regularPlural (text : List Char) : List Char :=
  let small := text.map Char.toLower
  let capitals := (text.getLast?.map Char.isUpper).getD false
  let ending (plain : String) : List Char :=
    if capitals then plain.toList.map Char.toUpper else plain.toList
  if endsInOneOf ["s", "x", "z", "ch", "sh"] small then
    text ++ ending "es"
  else if endsInOneOf ["y"] small &&
      !endsInOneOf ["ay", "ey", "oy", "uy"] small then
    text.dropLast ++ ending "ies"
  else
    text ++ ending "s"

/-- The plural of an identifier. -/
def pluralize (identifier : String) : String :=
  let text := identifier.toList
  if text.isEmpty then identifier
  else
    let (front, word) := splitLastWord text
    let small := String.ofList (word.map Char.toLower)
    if small ∈ uncountableNouns then identifier
    else
      match irregularPlurals.lookup small with
      | some plural => String.ofList (front ++ matchCase word plural.toList)
      | none => String.ofList (regularPlural text)

end Tablewright.Naming
