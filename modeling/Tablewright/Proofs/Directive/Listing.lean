import Tablewright.Proofs.Directive.Division
import Tablewright.Proofs.Directive.Quoted

namespace Tablewright.Directive

/-!
# Listed names

A directive that lists names in single quotes sets its list to exactly these
names, whatever they hold, and nothing else.
-/

/-- A directive whose body lists names. -/
inductive Listing where
  | fillable
  | hidden
  | guarded
  | eager
  deriving Repr, DecidableEq

namespace Listing

/-- The tag of a directive. -/
def tag : Listing → String
  | fillable => "fillable"
  | hidden => "hidden"
  | guarded => "guarded"
  | eager => "with"

/-- A tag is read up to a character that does not continue it. -/
theorem readTag?_tag
    (listing : Listing)
    {rest : List Char}
    (stops :
      ∀ character ∈ rest.head?, Text.isWordCharacter character = false) :
    readTag? (listing.tag.toList ++ rest) =
      some (listing.tag.toList, rest) := by
  have whole : isTag listing.tag.toList = true := by
    cases listing <;> decide
  exact readTag?_append_of_isTag whole stops

/-- The set that holds the list of a directive and nothing else. -/
def only (listing : Listing) (names : List String) : Set :=
  match listing with
  | fillable => { fillable := some names }
  | hidden => { hidden := some names }
  | guarded => { guarded := some names }
  | eager => { eager := some names }

/-- A directive puts the names of its body on its list. -/
theorem add_tag
    (listing : Listing)
    (body : Body) :
    Set.add {} listing.tag (some body) =
      .ok (listing.only (listedNames body)) := by
  cases listing <;> rfl

end Listing

/-- The delimiters of a body that lists names. -/
inductive Delimiters where
  | round
  | curly
  deriving Repr, DecidableEq

namespace Delimiters

/-- The opening delimiter. -/
def opener : Delimiters → Char
  | round => '('
  | curly => '{'

/-- The closing delimiter. -/
def closer : Delimiters → Char
  | round => ')'
  | curly => '}'

/-- The shape of a body with these delimiters. -/
def shape : Delimiters → BodyShape
  | round => .arguments
  | curly => .block

/-- A body that is passed is read up to its closing delimiter. -/
theorem readBody_eq
    (delimiters : Delimiters)
    {text : List Char}
    (passes : GroupPasses text)
    (rest : List Char) :
    readBody (delimiters.opener :: (text ++ delimiters.closer :: rest)) =
      .ok (some ⟨delimiters.shape, text⟩, rest) := by
  cases delimiters with
  | round =>
      have read : readGroup [')'] .outside (text ++ ')' :: rest) = _ :=
        passes.readGroup_eq rfl rfl rfl rest
      exact congrArg (Except.map _) read
  | curly =>
      have read : readGroup ['}'] .outside (text ++ '}' :: rest) = _ :=
        passes.readGroup_eq rfl rfl rfl rest
      exact congrArg (Except.map _) read

end Delimiters

/-- Names in single quotes, with commas and spaces between them. -/
def quotedNames (names : List String) : String :=
  ", ".intercalate (names.map fun name => "'" ++ name ++ "'")

theorem toList_quotedNames
    (names : List String) :
    (quotedNames names).toList =
      [',', ' '].intercalate
        (names.map fun name => quoted '\'' name.toList) := by
  rw [quotedNames, String.toList_intercalate, List.map_map]
  simp [Function.comp_def, quoted]

/-- A list of quoted names is passed as a group. -/
theorem groupPasses_quotedNames
    {names : List String}
    (quotable : ∀ name ∈ names, Quotable '\'' name.toList) :
    GroupPasses (quotedNames names).toList := by
  rw [toList_quotedNames]
  apply groupPasses_separated
  intro part member
  obtain ⟨name, isName, rfl⟩ := List.mem_map.mp member
  exact groupPasses_quoted rfl (quotable name isName).guarded

/-- The names in a body are those that it lists. -/
theorem listedNames_quotedNames
    {names : List String}
    (quotable : ∀ name ∈ names, Quotable '\'' name.toList)
    (given : ∀ name ∈ names, name ≠ "")
    (shape : BodyShape) :
    listedNames ⟨shape, (quotedNames names).toList⟩ = names := by
  cases names with
  | nil => rfl
  | cons first others =>
      have parts :
          (splitTopLevel (quotedNames (first :: others)).toList).map
              Text.trim =
            ((first :: others).map fun name =>
              quoted '\'' name.toList).map Text.trim := by
        rw [toList_quotedNames]
        apply map_trim_splitTopLevel (by simp)
        intro part member
        obtain ⟨name, isName, rfl⟩ := List.mem_map.mp member
        exact partPasses_quoted rfl (quotable name isName).guarded
      have unquoted :
          (splitTopLevel (quotedNames (first :: others)).toList).map
              plainText =
            first :: others := by
        have trims : plainText = plainText ∘ Text.trim :=
          funext fun part => (plainText_trim part).symm
        rw [trims, ← List.map_map, parts, List.map_map, ← trims,
          List.map_map]
        refine (List.map_congr_left ?_).trans (List.map_id _)
        intro name _
        exact plainText_quoted [] (by simp) rfl name
      rw [listedNames, unquoted, List.filter_eq_self]
      intro name member
      simpa using given name member

namespace Set

/-- Behind a directive at the start of a text, a rest without directives is
the comment. -/
theorem parse_directive_rest
    {text : String}
    {tag afterTag rest : List Char}
    {body : Option Body}
    {set : Set}
    (shape : text.toList = '@' :: (tag ++ afterTag))
    (tagged : readTag? (tag ++ afterTag) = some (tag, afterTag))
    (bodied : readBody afterTag = .ok (body, rest))
    (added : add {} (String.ofList tag) body = .ok set)
    (plain : hasTag false rest = false) :
    parse text = .ok { set with comment := commentOf rest } := by
  rw [parse, shape, readFrom_directive _ tagged bodied, added]
  simp only [Reading.forTag, Except.mapError, Outcome.ok_bind,
    readFrom_of_plain set plain]
  rfl

/-- A text that is a single directive has no comment. -/
theorem parse_directive
    {text : String}
    {tag afterTag : List Char}
    {body : Option Body}
    {set : Set}
    (shape : text.toList = '@' :: (tag ++ afterTag))
    (tagged : readTag? (tag ++ afterTag) = some (tag, afterTag))
    (bodied : readBody afterTag = .ok (body, []))
    (added : add {} (String.ofList tag) body = .ok set) :
    parse text = .ok { set with comment := none } :=
  parse_directive_rest shape tagged bodied added rfl

/-- A whole tag with its body is read, if no word character follows the
tag. -/
theorem parse_tag
    {text tag : String}
    {afterTag rest : List Char}
    {body : Option Body}
    {set : Set}
    (shape : text.toList = '@' :: (tag.toList ++ afterTag))
    (whole : isTag tag.toList = true)
    (stops :
      ∀ character ∈ afterTag.head?, Text.isWordCharacter character = false)
    (bodied : readBody afterTag = .ok (body, rest))
    (added : add {} tag body = .ok set)
    (plain : hasTag false rest = false) :
    parse text = .ok { set with comment := commentOf rest } := by
  have tagged : readTag? (tag.toList ++ afterTag) = some _ :=
    readTag?_append_of_isTag whole stops
  rw [← String.ofList_toList (s := tag)] at added
  exact parse_directive_rest shape tagged bodied added plain

/--
Listed names are opaque and are read exactly.

For every directive that lists names, both pairs of delimiters and all names
without single quotes and backslashes, the list of the directive is exactly
these names in order, and there is nothing else in the set.
-/
theorem parse_listing
    (listing : Listing)
    (delimiters : Delimiters)
    {names : List String}
    (allowed :
      ∀ name ∈ names,
        name ≠ "" ∧ '\'' ∉ name.toList ∧ '\\' ∉ name.toList) :
    parse
        ((("@" ++ listing.tag).push delimiters.opener ++
          quotedNames names).push delimiters.closer) =
      .ok (listing.only names) := by
  have quotable : ∀ name ∈ names, Quotable '\'' name.toList :=
    fun name member => ⟨(allowed name member).2.1, (allowed name member).2.2⟩
  have given : ∀ name ∈ names, name ≠ "" :=
    fun name member => (allowed name member).1
  let body : Body := ⟨delimiters.shape, (quotedNames names).toList⟩
  let afterTag : List Char :=
    delimiters.opener ::
      ((quotedNames names).toList ++ [delimiters.closer])
  have tagged :
      readTag? (listing.tag.toList ++ afterTag) =
        some (listing.tag.toList, afterTag) := by
    refine listing.readTag?_tag ?_
    rintro character ⟨⟩
    cases delimiters <;> decide
  have bodied : readBody afterTag = .ok (some body, []) :=
    delimiters.readBody_eq (groupPasses_quotedNames quotable) []
  have added : add {} (String.ofList listing.tag.toList) (some body) =
      .ok (listing.only names) := by
    rw [String.ofList_toList, listing.add_tag,
      listedNames_quotedNames quotable given]
  have uncommented :
      { listing.only names with comment := none } = listing.only names := by
    cases listing <;> rfl
  rw [← uncommented]
  refine parse_directive ?_ tagged bodied added
  simp [afterTag]

/-- Names that look like anything else in a body. -/
def unusualNames : List String :=
  ["first, last", "f(x", "\x7d", "a \"b\"", "line\nbreak", " padded ",
    "@hidden(x)"]

/-- Unusual names are hidden exactly as they are. -/
theorem parse_listing_unusual :
    (∀ name ∈ unusualNames,
        name ≠ "" ∧ '\'' ∉ name.toList ∧ '\\' ∉ name.toList) ∧
      parse
          ((("@" ++ Listing.hidden.tag).push Delimiters.curly.opener ++
            quotedNames unusualNames).push Delimiters.curly.closer) =
        .ok (Listing.hidden.only unusualNames) := by
  have allowed :
      ∀ name ∈ unusualNames,
        name ≠ "" ∧ '\'' ∉ name.toList ∧ '\\' ∉ name.toList := by
    decide
  exact ⟨allowed, parse_listing .hidden .curly allowed⟩

end Set

end Tablewright.Directive
