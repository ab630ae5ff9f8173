import Tablewright.Proofs.Directive.Listing
import Tablewright.Proofs.Directive.Plain
import Tablewright.Proofs.Text.Pieces

namespace Tablewright.Directive

/-!
# Aliases of classes

The value of a directive that names a class may go on with `as` and an alias.
The reader of values accepts tabs and spaces in front of `as`, but a reference
is cut only where a space stands there.  So the value is always read as a
whole, and its alias is found just if the last blank in front of `as` is a
space.
-/

/-! ## Blanks within a line -/

theorem isSpaceOrTab_eq_true_iff
    {character : Char} :
    isSpaceOrTab character = true ↔ character = ' ' ∨ character = '\t' := by
  simp [isSpaceOrTab]

/-- Spaces and tabs are blanks, and no marks. -/
theorem of_isSpaceOrTab
    {character : Char}
    (within : isSpaceOrTab character = true) :
    Text.isBlank character = true ∧ character ∉ bodyMarks := by
  rcases isSpaceOrTab_eq_true_iff.mp within with rfl | rfl <;> decide

/-! ## Classes with an alias -/

/--
A class by its path, with an alias after the word `as`.

The gap separates the path from the word.  One space belongs to the word, and
`space` is what else stands in front of the alias.
-/
structure AliasedClass where
  path : String
  gap : String
  space : String
  name : String
  deriving Repr, DecidableEq

namespace AliasedClass

/-- The class with its alias as it is written. -/
def written (aliased : AliasedClass) : String :=
  aliased.path ++ aliased.gap ++ "as " ++ aliased.space ++ aliased.name

/-- The reference that is meant. -/
def reference (aliased : AliasedClass) : ClassReference :=
  { path := aliased.path, alternative := some aliased.name }

/-- What the reference is read as: without a space in front of the word `as`,
everything belongs to the path. -/
def reading (aliased : AliasedClass) : ClassReference :=
  if aliased.gap.toList.getLast? = some ' ' then aliased.reference
  else { path := aliased.written }

/-- Path and alias are made up of path characters, and blanks within a line
stand between them. -/
structure Writable (aliased : AliasedClass) : Prop where
  given : aliased.path ≠ ""
  inPath :
    ∀ character ∈ aliased.path.toList, isPathCharacter character = true
  separated : aliased.gap ≠ ""
  inGap : ∀ character ∈ aliased.gap.toList, isSpaceOrTab character = true
  inSpace :
    ∀ character ∈ aliased.space.toList, isSpaceOrTab character = true
  named : aliased.name ≠ ""
  inName :
    ∀ character ∈ aliased.name.toList, isPathCharacter character = true

instance (aliased : AliasedClass) : Decidable aliased.Writable :=
  decidable_of_iff
    (aliased.path ≠ "" ∧
      aliased.path.toList.all isPathCharacter = true ∧
      aliased.gap ≠ "" ∧
      aliased.gap.toList.all isSpaceOrTab = true ∧
      aliased.space.toList.all isSpaceOrTab = true ∧
      aliased.name ≠ "" ∧
      aliased.name.toList.all isPathCharacter = true)
    (by
      simp only [List.all_eq_true]
      exact
        ⟨fun ⟨given, inPath, separated, inGap, inSpace, named, inName⟩ =>
            ⟨given, inPath, separated, inGap, inSpace, named, inName⟩,
          fun writable =>
            ⟨writable.given, writable.inPath, writable.separated,
              writable.inGap, writable.inSpace, writable.named,
              writable.inName⟩⟩)

theorem toList_written
    (aliased : AliasedClass) :
    aliased.written.toList =
      aliased.path.toList ++
        (aliased.gap.toList ++
          (['a', 's', ' '] ++
            (aliased.space.toList ++ aliased.name.toList))) := by
  simp [written]

namespace Writable

variable {aliased : AliasedClass} (writable : aliased.Writable)

include writable

theorem unblank_path :
    ∀ character ∈ aliased.path.toList, Text.isBlank character = false :=
  fun character member =>
    unblank_of_isPathCharacter (writable.inPath character member)

theorem unblank_name :
    ∀ character ∈ aliased.name.toList, Text.isBlank character = false :=
  fun character member =>
    unblank_of_isPathCharacter (writable.inName character member)

theorem unmarked : Unmarked aliased.written.toList := by
  have gap : Unmarked aliased.gap.toList := fun character member =>
    (of_isSpaceOrTab (writable.inGap character member)).2
  have word : Unmarked ['a', 's', ' '] := by decide
  have space : Unmarked aliased.space.toList := fun character member =>
    (of_isSpaceOrTab (writable.inSpace character member)).2
  rw [toList_written]
  exact (unmarked_of_isPathCharacter writable.inPath).append
    (gap.append (word.append (space.append
      (unmarked_of_isPathCharacter writable.inName))))

theorem unpadded : Text.Unpadded aliased.written.toList := by
  have whole :=
    (Text.unpadded_of_unblank writable.unblank_path).append
      (Text.unpadded_of_unblank writable.unblank_name)
      (by simpa using writable.given) (by simpa using writable.named)
      (aliased.gap.toList ++ (['a', 's', ' '] ++ aliased.space.toList))
  rw [toList_written]
  simpa using whole

/-! ### The reader of values -/

/-- The alias is read off what follows the path. -/
theorem readAlias?_eq
    {rest : List Char}
    (blank : ∀ character ∈ rest.head?, Text.isBlank character = true) :
    readAlias?
        (aliased.gap.toList ++
          (['a', 's', ' '] ++
            (aliased.space.toList ++ (aliased.name.toList ++ rest)))) =
      some
        (aliased.gap.toList ++ ['a', 's', ' '] ++ aliased.space.toList ++
          aliased.name.toList, rest) := by
  have wordStops :
      ∀ character ∈ (['a', 's', ' '] ++
          (aliased.space.toList ++ (aliased.name.toList ++ rest))).head?,
        isSpaceOrTab character = false := by
    rintro character ⟨⟩
    decide
  have nameStops :
      ∀ character ∈ (aliased.name.toList ++ rest).head?,
        isSpaceOrTab character = false := by
    intro character isFirst
    by_contra within
    have blank := (of_isSpaceOrTab (Bool.not_eq_false _ ▸ within)).1
    rw [List.head?_append_of_ne_nil _ (by simpa using writable.named)]
      at isFirst
    have unblank :=
      writable.unblank_name character (List.mem_of_head? isFirst)
    rw [blank] at unblank
    cases unblank
  have unblankName :
      ∀ character ∈ aliased.name.toList,
        (!Text.isBlank character) = true :=
    fun character member => by simp [writable.unblank_name character member]
  have blankRest :
      ∀ character ∈ rest.head?, (!Text.isBlank character) = false :=
    fun character isFirst => by simp [blank character isFirst]
  have given : aliased.name.toList.isEmpty = false := by
    simpa using writable.named
  unfold readAlias?
  dsimp only
  rw [Text.takeWhile_append_of_stops writable.inGap wordStops,
    Text.dropWhile_append_of_stops writable.inGap wordStops]
  simp [Text.takeWhile_append_of_stops writable.inSpace nameStops,
    Text.dropWhile_append_of_stops writable.inSpace nameStops,
    Text.takeWhile_append_of_stops unblankName blankRest,
    Text.dropWhile_append_of_stops unblankName blankRest, given]

/-- The value of a directive goes up to the end of the alias. -/
theorem readBody_written
    {rest : List Char}
    (blank : ∀ character ∈ rest.head?, Text.isBlank character = true) :
    readBody (':' :: (aliased.written.toList ++ rest)) =
      .ok (some ⟨.value, aliased.written.toList⟩, rest) := by
  let tail : List Char :=
    aliased.gap.toList ++
      (['a', 's', ' '] ++
        (aliased.space.toList ++ (aliased.name.toList ++ rest)))
  have shape :
      aliased.written.toList ++ rest = aliased.path.toList ++ tail := by
    simp [toList_written, tail]
  have unblankPath :
      ∀ character ∈ aliased.path.toList,
        (!Text.isBlank character) = true :=
    fun character member => by simp [writable.unblank_path character member]
  have tailStops :
      ∀ character ∈ tail.head?, (!Text.isBlank character) = false := by
    intro character isFirst
    rw [List.head?_append_of_ne_nil _ (by simpa using writable.separated)]
      at isFirst
    have within := writable.inGap character (List.mem_of_head? isFirst)
    simp [(of_isSpaceOrTab within).1]
  have given : aliased.path.toList.isEmpty = false := by
    simpa using writable.given
  have read :
      readValue (aliased.written.toList ++ rest) =
        .ok (aliased.written.toList, rest) := by
    unfold readValue
    rw [shape]
    dsimp only
    rw [Text.takeWhile_append_of_stops unblankPath tailStops,
      Text.dropWhile_append_of_stops unblankPath tailStops,
      writable.readAlias?_eq blank]
    simp [given, toList_written]
  rw [readBody, read]
  rfl

end Writable

end AliasedClass

/-! ## The reader of references -/

/-- Blanks are passed in front of what does not go on with the word `as`. -/
theorem cutFirst?_blanks
    {blanks rest : List Char}
    (within : ∀ character ∈ blanks, isSpaceOrTab character = true)
    (apart : rest.head? ≠ some 'a') :
    Text.cutFirst? [' ', 'a', 's', ' '] (blanks ++ rest) =
      (Text.cutFirst? [' ', 'a', 's', ' '] rest).map fun parts =>
        (blanks ++ parts.1, parts.2) := by
  apply Text.cutFirst?_append_of_not_follows _ apart
  intro member
  exact absurd (within _ member) (by decide)

/-- A text without spaces is passed. -/
theorem cutFirst?_word
    {word : List Char}
    (absent : ' ' ∉ word)
    (rest : List Char) :
    Text.cutFirst? [' ', 'a', 's', ' '] (word ++ rest) =
      (Text.cutFirst? [' ', 'a', 's', ' '] rest).map fun parts =>
        (word ++ parts.1, parts.2) :=
  Text.cutFirst?_append_of_not_mem absent rest

/-- The word `as` does not stand between blanks and a last text without
spaces. -/
theorem cutFirst?_last
    {blanks word : List Char}
    (within : ∀ character ∈ blanks, isSpaceOrTab character = true)
    (absent : ' ' ∉ word) :
    Text.cutFirst? [' ', 'a', 's', ' '] (blanks ++ word) = none := by
  induction blanks with
  | nil =>
      have passed := cutFirst?_word absent []
      rw [List.append_nil] at passed
      exact passed
  | cons blank blanks inductionHypothesis =>
      have later := inductionHypothesis fun character member =>
        within character (List.mem_cons_of_mem _ member)
      have unmatched :
          [' ', 'a', 's', ' '].isPrefixOf (blank :: (blanks ++ word)) =
            false := by
        by_contra matched
        obtain ⟨behind, shape⟩ :=
          List.isPrefixOf_iff_prefix.mp (Bool.not_eq_false _ ▸ matched)
        obtain ⟨_, shape⟩ := List.cons.inj shape
        cases blanks with
        | nil =>
            rw [List.nil_append] at shape
            exact absent (shape ▸ by simp)
        | cons next others =>
            obtain ⟨rfl, _⟩ := List.cons.inj shape
            exact absurd (within 'a' (by simp)) (by decide)
      rw [List.cons_append, Text.cutFirst?, unmatched, later]
      rfl

namespace AliasedClass.Writable

variable {aliased : AliasedClass} (writable : aliased.Writable)

include writable

theorem not_mem_path : ' ' ∉ aliased.path.toList := fun member =>
  absurd (writable.unblank_path _ member) (by decide)

theorem not_mem_name : ' ' ∉ aliased.name.toList := fun member =>
  absurd (writable.unblank_name _ member) (by decide)

/-- A space in front of the word `as` separates the path from the alias. -/
theorem cutFirst?_of_space
    {front : List Char}
    (spaced : aliased.gap.toList = front ++ [' ']) :
    Text.cutFirst? [' ', 'a', 's', ' '] aliased.written.toList =
      some (aliased.path.toList ++ front,
        aliased.space.toList ++ aliased.name.toList) := by
  have within : ∀ character ∈ front, isSpaceOrTab character = true :=
    fun character member =>
      writable.inGap character (by simp [spaced, member])
  have shape :
      aliased.written.toList =
        aliased.path.toList ++
          (front ++
            ([' ', 'a', 's', ' '] ++
              (aliased.space.toList ++ aliased.name.toList))) := by
    simp [toList_written, spaced]
  rw [shape, cutFirst?_word writable.not_mem_path,
    cutFirst?_blanks within (by simp), Text.cutFirst?_separator]
  simp

/-- Behind a tab, the word `as` separates nothing. -/
theorem cutFirst?_of_tab
    {front : List Char}
    (tabbed : aliased.gap.toList = front ++ ['\t']) :
    Text.cutFirst? [' ', 'a', 's', ' '] aliased.written.toList = none := by
  have within : ∀ character ∈ front, isSpaceOrTab character = true :=
    fun character member =>
      writable.inGap character (by simp [tabbed, member])
  have behind :
      ∀ character ∈ ' ' :: aliased.space.toList,
        isSpaceOrTab character = true := by
    intro character member
    rcases List.mem_cons.mp member with rfl | inSpace
    · rfl
    · exact writable.inSpace character inSpace
  have shape :
      aliased.written.toList =
        aliased.path.toList ++
          (front ++
            (['\t', 'a', 's'] ++
              ((' ' :: aliased.space.toList) ++
                aliased.name.toList))) := by
    simp [toList_written, tabbed]
  rw [shape, cutFirst?_word writable.not_mem_path,
    cutFirst?_blanks within (by simp), cutFirst?_word (by decide),
    cutFirst?_last behind writable.not_mem_name]
  rfl

/-- The gap ends with a space or with a tab. -/
theorem gap_eq :
    ∃ front,
      aliased.gap.toList = front ++ [' '] ∨
        aliased.gap.toList = front ++ ['\t'] := by
  have given : aliased.gap.toList ≠ [] := by simpa using writable.separated
  obtain ⟨front, last, shape⟩ :=
    (List.eq_nil_or_concat' aliased.gap.toList).resolve_left given
  have within := writable.inGap last (by simp [shape])
  rcases isSpaceOrTab_eq_true_iff.mp within with rfl | rfl
  · exact ⟨front, .inl shape⟩
  · exact ⟨front, .inr shape⟩

/-- The reference is read with its alias just if a space stands in front of
the word `as`. -/
theorem readReference_written :
    readReference aliased.written.toList = aliased.reading := by
  have raw : unquote aliased.written.toList = aliased.written.toList :=
    unquote_of_unmarked writable.unmarked writable.unpadded
  unfold readReference
  rw [raw]
  dsimp only
  obtain ⟨front, spaced | tabbed⟩ := writable.gap_eq
  · have within :
        ∀ character ∈ front, Text.isBlank character = true :=
      fun character member =>
        (of_isSpaceOrTab
          (writable.inGap character (by simp [spaced, member]))).1
    have inSpace :
        ∀ character ∈ aliased.space.toList,
          Text.isBlank character = true :=
      fun character member =>
        (of_isSpaceOrTab (writable.inSpace character member)).1
    have path : Text.trim (aliased.path.toList ++ front) =
        aliased.path.toList :=
      Text.trim_padded (fun _ none => (List.not_mem_nil none).elim)
        (Text.unpadded_of_unblank writable.unblank_path) within
    have name :=
      Text.trim_padded inSpace
        (Text.unpadded_of_unblank writable.unblank_name)
        (fun _ none => (List.not_mem_nil none).elim)
    rw [List.append_nil] at name
    rw [writable.cutFirst?_of_space spaced]
    simp [path, name, reading, reference, spaced]
  · rw [writable.cutFirst?_of_tab tabbed]
    simp [reading, tabbed]

end AliasedClass.Writable

/-- A body with one unmarked part holds one reference. -/
theorem readReferences_of_unmarked
    {text : List Char}
    (unmarked : Unmarked text)
    (unblank : text.all Text.isBlank = false)
    (shape : BodyShape) :
    readReferences ⟨shape, text⟩ = [readReference text] := by
  have single : splitTopLevel text = [text] := by
    have parts := splitTopLevel_intercalate (List.cons_ne_nil text [])
      fun part member =>
        List.mem_singleton.mp member ▸ partPasses_of_unmarked unmarked
    rwa [List.intercalate_singleton] at parts
  simp [readReferences, single, unblank]

/-! ## Directives that name a class -/

/-- A directive that names a class, by the part that the class has. -/
inductive ClassRole where
  | trait
  | interface
  | observer
  | factory
  | parent
  deriving Repr, DecidableEq

namespace ClassRole

/-- The tag of a directive. -/
def tag : ClassRole → String
  | trait => "trait"
  | interface => "implements"
  | observer => "observer"
  | factory => "factory"
  | parent => "extends"

/-- The set that holds one reference and nothing else. -/
def only (role : ClassRole) (reference : ClassReference) : Set :=
  match role with
  | trait => { traits := [reference] }
  | interface => { interfaces := [reference] }
  | observer => { observer := some reference }
  | factory => { factory := some reference }
  | parent => { parent := some reference }

/-- A directive puts the one reference of its body into the set. -/
theorem add_tag
    (role : ClassRole)
    {body : Body}
    (given : requireBody (some body) = .ok body)
    (single : readReferences body = [readReference body.text]) :
    Set.add {} role.tag (some body) =
      .ok (role.only (readReference body.text)) := by
  cases role <;> simp [tag, Set.add, given, single, only]

end ClassRole

namespace Set

/--
An alias is parsed where it is scanned, up to the tabs in front of it.

For every directive that names a class, every class with an alias and every
rest without at signs, the directive goes up to the end of the alias, and the
comment is that of the rest.  The reference has its path and its alias just if
the blanks between the path and the word `as` end with a space; if they end
with a tab, all of it is the path.
-/
theorem parse_alias_iff
    (role : ClassRole)
    {aliased : AliasedClass}
    (writable : aliased.Writable)
    {rest : String}
    (blank :
      ∀ character ∈ rest.toList.head?, Text.isBlank character = true)
    (plain : '@' ∉ rest.toList) :
    ∃ (reference : ClassReference) (comment : Option String),
      parse rest = .ok { comment := comment } ∧
        parse ("@" ++ role.tag ++ ":" ++ aliased.written ++ rest) =
          .ok { role.only reference with comment := comment } ∧
        (reference = aliased.reference ↔
          aliased.gap.toList.getLast? = some ' ') ∧
        (aliased.gap.toList.getLast? = some '\t' →
          reference = { path := aliased.written }) := by
  let body : Body := ⟨.value, aliased.written.toList⟩
  let afterTag : List Char :=
    ':' :: (aliased.written.toList ++ rest.toList)
  have restParsed : parse rest = .ok { comment := commentOf rest.toList } := by
    rw [parse, readFrom_of_plain _ (hasTag_of_not_mem plain true)]
    rfl
  have whole : isTag role.tag.toList = true := by
    cases role <;> decide
  have stops :
      ∀ character ∈ afterTag.head?,
        Text.isWordCharacter character = false := by
    rintro character ⟨⟩
    decide
  have bodied : readBody afterTag = .ok (some body, rest.toList) :=
    writable.readBody_written blank
  have unblank : aliased.written.toList.all Text.isBlank = false := by
    apply List.all_eq_false.mpr
    exact ⟨'s', by simp [AliasedClass.toList_written], by decide⟩
  have given : requireBody (some body) = .ok body := by
    simp [requireBody, Body.isBlank, body, unblank]
  have added := role.add_tag given
    (readReferences_of_unmarked writable.unmarked unblank .value)
  rw [writable.readReference_written] at added
  refine ⟨aliased.reading, commentOf rest.toList, restParsed, ?_, ?_, ?_⟩
  · refine parse_tag ?_ whole stops bodied added
      (hasTag_of_not_mem plain false)
    simp [afterTag]
  · unfold AliasedClass.reading
    split
    · rename_i spaced
      exact iff_of_true rfl spaced
    · rename_i tabbed
      refine iff_of_false ?_ tabbed
      intro same
      cases congrArg ClassReference.alternative same
  · intro tabbed
    simp [AliasedClass.reading, tabbed]

/-- A concern under an alias, with a tab and a space in front of `as`. -/
def uuidConcern : AliasedClass where
  path := "App\\Concerns\\HasUuid"
  gap := "\t "
  space := " "
  name := "Uuid"

/-- The alias of a concern is read behind a tab and a space. -/
theorem parse_alias_iff_uuid :
    uuidConcern.Writable ∧
      (∀ character ∈ "\nKept as a key.".toList.head?,
        Text.isBlank character = true) ∧
      '@' ∉ "\nKept as a key.".toList ∧
      parse
          ("@" ++ ClassRole.trait.tag ++ ":" ++ uuidConcern.written ++
            "\nKept as a key.") =
        .ok
          { traits := [⟨"App\\Concerns\\HasUuid", some "Uuid"⟩]
            comment := some "Kept as a key." } := by
  have writable : uuidConcern.Writable := by decide +kernel
  have blank :
      ∀ character ∈ "\nKept as a key.".toList.head?,
        Text.isBlank character = true := by
    rintro character ⟨⟩
    decide
  have plain : '@' ∉ "\nKept as a key.".toList := by decide
  obtain ⟨reference, comment, restParsed, parsed, aliasRead, _⟩ :=
    parse_alias_iff .trait writable blank plain
  have restComment :
      parse "\nKept as a key." = .ok { comment := some "Kept as a key." } := by
    decide +kernel
  have same := Except.ok.inj (restParsed.symm.trans restComment)
  obtain rfl := congrArg Set.comment same
  obtain rfl := aliasRead.mpr (by decide)
  exact ⟨writable, blank, plain, parsed⟩

/-- Behind a tab, an alias is left in the path. -/
theorem exists_alias_in_path :
    parse "@trait:Foo\tas Bar" =
        .ok { traits := [{ path := "Foo\tas Bar" }] } ∧
      ¬ ∀ (role : ClassRole) (aliased : AliasedClass) (rest : String),
        aliased.Writable →
        (∀ character ∈ rest.toList.head?,
          Text.isBlank character = true) →
        '@' ∉ rest.toList →
        ∃ comment : Option String,
          parse rest = .ok { comment := comment } ∧
            parse ("@" ++ role.tag ++ ":" ++ aliased.written ++ rest) =
              .ok { role.only aliased.reference with comment := comment } := by
  have parsed :
      parse "@trait:Foo\tas Bar" =
        .ok { traits := [{ path := "Foo\tas Bar" }] } := by
    decide +kernel
  refine ⟨parsed, fun claimed => ?_⟩
  obtain ⟨_, _, read⟩ :=
    claimed .trait { path := "Foo", gap := "\t", space := "", name := "Bar" }
      "" (by decide +kernel) (by simp) (by decide)
  have same := Except.ok.inj (parsed.symm.trans read)
  have different :
      [{ path := "Foo\tas Bar" }] ≠
        [({ path := "Foo", alternative := some "Bar" } : ClassReference)] := by
    decide
  exact different (congrArg Set.traits same)

end Set

end Tablewright.Directive
