import Tablewright.Text.Classes

namespace Tablewright.Text

/-!
# Trimming and cutting

Texts are cut as lists of characters. Every operation here returns parts of
its argument in their order, so nothing depends on byte positions.
-/

/-- Drop the blanks in front. -/
def trimStart (text : List Char) : List Char :=
  text.dropWhile isBlank

/-- Drop the blanks at the end. -/
def trimEnd (text : List Char) : List Char :=
  (text.reverse.dropWhile isBlank).reverse

/-- Drop the blanks at both ends. -/
def trim (text : List Char) : List Char :=
  trimEnd (trimStart text)

/-- Cut at every occurrence of a separator, which is left out. -/
def cut (separator : Char) : List Char → List (List Char)
  | [] => [[]]
  | character :: rest =>
      match cut separator rest with
      | [] => [[]]
      | piece :: pieces =>
          if character = separator then [] :: piece :: pieces
          else (character :: piece) :: pieces

/-- Cut once, at the first occurrence of a separator text. -/
def cutFirst? (separator : List Char) :
    List Char → Option (List Char × List Char)
  | [] => if separator.isEmpty then some ([], []) else none
  | character :: rest =>
      if separator.isPrefixOf (character :: rest) then
        some ([], (character :: rest).drop separator.length)
      else
        (cutFirst? separator rest).map
          (fun parts => (character :: parts.1, parts.2))

/-- The text before a given ending, if it ends that way. -/
def withoutEnding? (ending text : String) : Option String :=
  if ending.toList.isSuffixOf text.toList then
    some (String.ofList
      (text.toList.take (text.toList.length - ending.toList.length)))
  else
    none

/-- Put single characters through an ASCII case map. -/
def mapCharacters (change : Char → Char) (text : String) : String :=
  String.ofList (text.toList.map change)

/-- The text with its ASCII capitals made small. -/
def asciiLowercase (text : String) : String :=
  mapCharacters Char.toLower text

/-- Whether the text holds nothing but blanks. -/
def isBlankText (text : String) : Bool :=
  text.toList.all isBlank

/-- A string with the blanks at both ends dropped. -/
def trimmed (text : String) : String :=
  String.ofList (trim text.toList)

end Tablewright.Text
