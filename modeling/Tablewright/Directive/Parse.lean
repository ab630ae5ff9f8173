import Tablewright.Directive.Content

namespace Tablewright.Directive

/-!
# Directives of a documentation string

A directive starts at an at sign that begins the text or follows a blank and
is followed by a tag. Everything outside directives is the comment: its
lines are trimmed, blank ones are dropped and the others joined by a space.
-/

/-- Whether a character may begin a tag. -/
def isTagStart (character : Char) : Bool :=
  character.isAlpha || character == '_'

/-- The tag at the front of a text, and what follows it. -/
def readTag? (text : List Char) : Option (List Char × List Char) :=
  match text with
  | [] => none
  | first :: rest =>
      if isTagStart first then
        some (first :: rest.takeWhile Text.isWordCharacter,
          rest.dropWhile Text.isWordCharacter)
      else none

/-- A tag leaves less than it was read from. -/
theorem length_lt_of_readTag? {text tag rest : List Char}
    (read : readTag? text = some (tag, rest)) :
    rest.length < text.length := by
  cases text with
  | nil => simp [readTag?] at read
  | cons first tail =>
      unfold readTag? at read
      dsimp only at read
      split at read
      · simp only [Option.some.injEq, Prod.mk.injEq] at read
        rw [← read.2]
        exact Nat.lt_succ_of_le
          (length_dropWhile_le Text.isWordCharacter tail)
      · simp at read

/--
Read the directives of a text into a set; the set and the text outside the
directives.

`afterBlank` says whether a directive may start at the front of the text.
-/
def readFrom (set : Set) (afterBlank : Bool) (text : List Char) :
    Outcome (Set × List Char) :=
  match text with
  | [] => .ok (set, [])
  | character :: rest =>
      let keep : Outcome (Set × List Char) :=
        (readFrom set (Text.isBlank character) rest).map
          fun (set, kept) => (set, character :: kept)
      if afterBlank && character == '@' then
        match _foundTag : readTag? rest with
        | none => keep
        | some (tag, afterTag) =>
            let name := String.ofList tag
            match _foundBody : readBody afterTag with
            | .error cause => .error (cause.failure name)
            | .ok (body, afterBody) =>
                match Reading.forTag name (set.add name body) with
                | .error failure => .error failure
                | .ok set => readFrom set false afterBody
      else keep
termination_by text.length
decreasing_by
  · exact Nat.lt_succ_self _
  · have tagStep := length_lt_of_readTag? _foundTag
    have bodyStep := length_le_of_readBody _foundBody
    simp only [List.length_cons]
    omega

/-- The comment that remains of a documentation string. -/
def commentOf (kept : List Char) : Option String :=
  let lines := ((Text.cut '\n' kept).map Text.trim).filter
    (fun line => !line.isEmpty)
  if lines.isEmpty then none
  else some (" ".intercalate (lines.map String.ofList))

/-- Read every directive of a documentation string. -/
def Set.parse (text : String) : Outcome Set :=
  (readFrom {} true text.toList).map fun (set, kept) =>
    { set with comment := commentOf kept }

/-- Read the directives of a documentation string that may be missing. -/
def Set.ofDocumentation (documentation : Option String) : Outcome Set :=
  match documentation with
  | some text => Set.parse text
  | none => .ok {}

end Tablewright.Directive
