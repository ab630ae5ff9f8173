import Tablewright.Proofs.Directive.Draft
import Tablewright.Proofs.Directive.Entries

namespace Tablewright.Directive

/-!
# Polymorphic declarations

The entries of a polymorphic declaration may come in any order: a declaration
that has every key at most once is read back exactly.  An entry that cannot be
read, or a key that is required and not given, rejects the directive as a
whole.
-/

/-! ## Written declarations -/

/-- The names of keys can be written as keys. -/
theorem MorphKey.of_mem_names
    {key : MorphKey}
    {text : String}
    (isName : text ∈ key.names) :
    text ≠ "" ∧
      ∀ character ∈ text.toList, isNameCharacter character = true := by
  have named :
      ∀ key ∈ all, ∀ text ∈ key.names,
        text ≠ "" ∧ text.toList.all isNameCharacter = true := by
    decide
  obtain ⟨given, inName⟩ := named key key.mem_all text isName
  exact ⟨given, List.all_eq_true.mp inName⟩

/-- A spelling of a declaration: a name for each key, and a spelling of the
cardinality. -/
structure Morph.Spelling (morph : Morph) where
  nameOf : MorphKey → String
  nameOf_mem : ∀ key, nameOf key ∈ key.names
  cardinality : String
  parse?_cardinality :
    Relation.Cardinality.parse? cardinality = some morph.cardinality

/-- Everything in a declaration that is written as it stands. -/
def Morph.texts (morph : Morph) : List String :=
  [morph.name, morph.model] ++ morph.table.toList ++
    morph.accessor.toList ++ morph.chain.toList ++
    morph.idColumn.toList ++ morph.typeColumn.toList

namespace Morph.Spelling

variable {morph : Morph}

/-- What is written under a key. -/
def value? (spelling : morph.Spelling) : MorphKey → Option String
  | .name => some morph.name
  | .cardinality => some spelling.cardinality
  | .model => some morph.model
  | .table => morph.table
  | .accessor => morph.accessor
  | .chain => morph.chain
  | .idColumn => morph.idColumn
  | .typeColumn => morph.typeColumn

/-- An entry for each key that is present. -/
def entries (spelling : morph.Spelling) : List Entry :=
  MorphKey.all.filterMap fun key =>
    (spelling.value? key).map fun value =>
      { key := spelling.nameOf key, value := value }

theorem mem_entries_iff
    {spelling : morph.Spelling}
    {entry : Entry} :
    entry ∈ spelling.entries ↔
      ∃ key value,
        spelling.value? key = some value ∧
          entry = { key := spelling.nameOf key, value := value } := by
  simp only [entries, List.mem_filterMap, Option.map_eq_some_iff]
  constructor
  · rintro ⟨key, _, value, given, rfl⟩
    exact ⟨key, value, given, rfl⟩
  · rintro ⟨key, value, given, rfl⟩
    exact ⟨key, key.mem_all, value, given, rfl⟩

/-- An accepted spelling of a cardinality can be written in quotation
marks. -/
theorem quotable_cardinality
    (spelling : morph.Spelling) :
    Quotable '\'' spelling.cardinality.toList := by
  have accepted :
      ∀ pair ∈ Relation.Cardinality.spellings,
        Quotable '\'' pair.1.toList := by
    decide
  obtain ⟨front, back, shape, blankFront, blankBack⟩ :=
    Text.exists_trim spelling.cardinality.toList
  obtain ⟨before, after, isSpelling, _⟩ :=
    List.lookup_eq_some_iff.mp spelling.parse?_cardinality
  have member : (Text.trimmed spelling.cardinality, morph.cardinality) ∈
      Relation.Cardinality.spellings := by
    simp [isSpelling]
  have trimmed : Quotable '\'' (Text.trim spelling.cardinality.toList) := by
    simpa [Text.trimmed] using accepted _ member
  rw [shape]
  exact ((quotable_of_blank rfl blankFront).append trimmed).append
    (quotable_of_blank rfl blankBack)

/-- What is written under a key is a text of the declaration or the spelling
of its cardinality. -/
theorem mem_texts_of_value?
    {spelling : morph.Spelling}
    {key : MorphKey}
    {value : String}
    (given : spelling.value? key = some value) :
    value = spelling.cardinality ∨ value ∈ morph.texts := by
  cases key <;> simp_all [value?, texts]

/-- The entries of a declaration can be written. -/
theorem writable_of_mem_entries
    {spelling : morph.Spelling}
    (quotable : ∀ text ∈ morph.texts, Quotable '\'' text.toList)
    {entry : Entry}
    (member : entry ∈ spelling.entries) :
    entry.Writable ∧ entry.isBare = true := by
  obtain ⟨key, value, given, rfl⟩ := mem_entries_iff.mp member
  obtain ⟨named, inName⟩ := MorphKey.of_mem_names (spelling.nameOf_mem key)
  have quotableValue : Quotable '\'' value.toList := by
    rcases mem_texts_of_value? given with rfl | isText
    · exact spelling.quotable_cardinality
    · exact quotable value isText
  exact ⟨⟨named, inName, quotableValue⟩, rfl⟩

/-- In every order, the entries of a declaration have its values. -/
theorem lastValue?_of_perm
    {spelling : morph.Spelling}
    {entries : List Entry}
    (permuted : entries.Perm spelling.entries)
    (key : MorphKey) :
    lastValue? key.names (entries.map Entry.pair) = spelling.value? key := by
  apply lastValue?_eq
  · intro pair member isNamed
    obtain ⟨entry, isEntry, rfl⟩ := List.mem_map.mp member
    obtain ⟨other, value, given, rfl⟩ :=
      mem_entries_iff.mp (permuted.mem_iff.mp isEntry)
    obtain rfl :=
      MorphKey.eq_of_mem_names isNamed (spelling.nameOf_mem other)
    exact given
  · intro isGiven
    obtain ⟨value, given⟩ := Option.isSome_iff_exists.mp isGiven
    let entry : Entry := { key := spelling.nameOf key, value := value }
    have isEntry : entry ∈ entries :=
      permuted.mem_iff.mpr (mem_entries_iff.mpr ⟨key, value, given, rfl⟩)
    exact ⟨entry.pair, List.mem_map_of_mem isEntry, spelling.nameOf_mem key⟩

/-- In every order, the entries of a declaration stand for it. -/
theorem ofPairs_of_perm
    {spelling : morph.Spelling}
    {entries : List Entry}
    (permuted : entries.Perm spelling.entries) :
    MorphDraft.ofPairs (entries.map Entry.pair) = morph.draft := by
  simp only [MorphDraft.ofPairs, lastValue?_of_perm permuted, value?,
    Morph.draft, Option.bind_some, spelling.parse?_cardinality]

end Morph.Spelling

/-- A written entry is read as its pair. -/
theorem Entry.Writable.pairOf?_written
    {entry : Entry}
    (writable : entry.Writable)
    (bare : entry.isBare = true) :
    pairOf? entry.written.toList = some entry.pair := by
  have key : Text.trim entry.key.toList = entry.key.toList :=
    Text.trim_of_unpadded writable.unpadded_name
  have value :
      plainText (' ' :: quoted '\'' entry.value.toList) = entry.value :=
    plainText_quoted [' '] (List.forall_mem_singleton.mpr rfl) rfl
      entry.value
  simp [pairOf?, writable.trim_written, writable.splitPair?_written bare,
    key, value, Entry.pair]

namespace Morph.Spelling

variable {morph : Morph} {spelling : morph.Spelling} {entries : List Entry}
variable (permuted : entries.Perm spelling.entries)

include permuted

/-- A declaration has entries. -/
theorem ne_nil_of_perm : entries ≠ [] := by
  have named :
      { key := spelling.nameOf .name, value := morph.name } ∈ entries :=
    permuted.mem_iff.mpr (mem_entries_iff.mpr ⟨.name, _, rfl, rfl⟩)
  exact List.ne_nil_of_mem named

/-- The entries of a declaration are admissible. -/
theorem admissible_of_perm :
    ∀ pair ∈ entries.map Entry.pair, Admissible pair := by
  intro pair member
  obtain ⟨entry, isEntry, rfl⟩ := List.mem_map.mp member
  obtain ⟨key, value, given, rfl⟩ :=
    mem_entries_iff.mp (permuted.mem_iff.mp isEntry)
  apply (admissible_iff (spelling.nameOf_mem key)).mpr
  rintro rfl
  obtain rfl := Option.some.inj given
  exact ⟨morph.cardinality, spelling.parse?_cardinality⟩

/-- In every order, the entries of a declaration are read as it. -/
theorem readMorph_of_perm
    (someName : morph.name ≠ "")
    (someModel : morph.model ≠ "")
    (writable : ∀ entry ∈ entries, entry.Writable ∧ entry.isBare = true)
    (shape : BodyShape) :
    readMorph ⟨shape, (writtenEntries entries).toList⟩ = .ok morph := by
  have pairOf : ∀ entry ∈ entries,
      pairOf? entry.written.toList = some entry.pair :=
    fun entry member =>
      (writable entry member).1.pairOf?_written (writable entry member).2
  have pairs :
      (entries.map fun entry => entry.written.toList).filterMap pairOf? =
        entries.map Entry.pair := by
    rw [List.filterMap_map, ← List.filterMap_eq_map]
    exact List.filterMap_congr pairOf
  have read :
      (splitTopLevel (writtenEntries entries).toList).foldlM
          MorphDraft.add {} =
        .ok morph.draft := by
    rw [foldlM_writtenEntries MorphDraft.add_trim (ne_nil_of_perm permuted)
        fun entry member => (writable entry member).1,
      ← List.foldlM_map, MorphDraft.foldlM_add_eq_ok_iff, pairs,
      ofPairs_of_perm permuted]
    refine ⟨?_, admissible_of_perm permuted, rfl⟩
    intro part member
    obtain ⟨entry, isEntry, rfl⟩ := List.mem_map.mp member
    exact .inr (by rw [pairOf entry isEntry]; rfl)
  rw [readMorph, read, Outcome.ok_bind]
  exact MorphDraft.finish_eq_ok_iff.mpr ⟨rfl, someName, someModel⟩

end Morph.Spelling

/-! ## Directives -/

/-- No set takes in a deficient declaration. -/
theorem Deficient.exists_add_eq_error
    {body : Option Body}
    (deficient : Deficient (partsOf body))
    (set : Set) :
    ∃ cause, set.add "morph" body = .error cause := by
  cases added : set.add "morph" body with
  | error cause => exact ⟨cause, rfl⟩
  | ok result =>
      obtain ⟨given, required, added⟩ := Outcome.bind_eq_ok_iff.mp added
      obtain ⟨morph, read, _⟩ := Outcome.bind_eq_ok_iff.mp added
      obtain rfl : body = some given := by
        unfold requireBody at required
        split at required
        · split at required
          · cases required
          · exact congrArg some (Except.ok.inj required)
        · cases required
      exact (not_deficient_of_readMorph read deficient).elim

/-- A piece fails with the tag of its directive. -/
theorem Piece.eq_directive_of_applyTo
    {set : Set}
    {piece : Piece}
    {failure : Failure}
    (failed : piece.applyTo set = .error failure) :
    ∃ message,
      failure = .directive (String.ofList piece.tag) message := by
  unfold applyTo Reading.forTag at failed
  cases added : set.add (String.ofList piece.tag) piece.body with
  | ok result =>
      rw [added] at failed
      cases failed
  | error cause =>
      rw [added] at failed
      exact ⟨cause.message, (Except.error.inj failed).symm⟩

namespace Set

/-- In every order, the entries of a declaration are parsed as it. -/
theorem parse_of_perm
    {morph : Morph}
    {spelling : morph.Spelling}
    {entries : List Entry}
    (permuted : entries.Perm spelling.entries)
    (someName : morph.name ≠ "")
    (someModel : morph.model ≠ "")
    (quotable : ∀ text ∈ morph.texts, Quotable '\'' text.toList) :
    parse ("@morph(" ++ writtenEntries entries ++ ")") =
      .ok { morphs := [morph] } := by
  have writable :
      ∀ entry ∈ entries, entry.Writable ∧ entry.isBare = true :=
    fun entry member =>
      Morph.Spelling.writable_of_mem_entries quotable
        (permuted.mem_iff.mp member)
  let body : Body := ⟨.arguments, (writtenEntries entries).toList⟩
  let afterTag : List Char :=
    '(' :: ((writtenEntries entries).toList ++ [')'])
  have stops :
      ∀ character ∈ afterTag.head?,
        Text.isWordCharacter character = false := by
    rintro character ⟨⟩
    decide
  have bodied : readBody afterTag = .ok (some body, []) :=
    Delimiters.round.readBody_eq
      (groupPasses_writtenEntries fun entry member =>
        (writable entry member).1) []
  have read : readMorph body = .ok morph :=
    Morph.Spelling.readMorph_of_perm permuted someName someModel writable
      .arguments
  have required : requireBody (some body) = .ok body :=
    requireBody_writtenEntries (Morph.Spelling.ne_nil_of_perm permuted)
      .arguments
  have added : add {} "morph" (some body) = .ok { morphs := [morph] } := by
    simp [add, required, Outcome.ok_bind, read]
  refine parse_tag ?_ (by decide) stops bodied added rfl
  simp [afterTag]

section Deficient

variable {body : Option Body} (deficient : Deficient (partsOf body))

include deficient

/-- A text that starts with a deficient declaration is rejected. -/
theorem parse_of_deficient
    {afterTag rest : List Char}
    (bodied : readBody afterTag = .ok (body, rest))
    (stops :
      ∀ character ∈ afterTag.head?,
        Text.isWordCharacter character = false) :
    ∃ message,
      parse ("@morph" ++ String.ofList afterTag) =
        .error (.directive "morph" message) := by
  have tagged :
      readTag? ("morph".toList ++ afterTag) =
        some ("morph".toList, afterTag) :=
    readTag?_append_of_isTag (by decide) stops
  have shape :
      ("@morph" ++ String.ofList afterTag).toList =
        '@' :: ("morph".toList ++ afterTag) := by
    simp
  obtain ⟨cause, failed⟩ := deficient.exists_add_eq_error {}
  refine ⟨cause.message, ?_⟩
  rw [parse, shape, readFrom_directive {} tagged bodied,
    String.ofList_toList, failed]
  rfl

/-- A text that has a deficient declaration among its directives is
rejected. -/
theorem parse_of_divides_deficient
    {text : String}
    {pieces : List Piece}
    {last : List Char}
    (divides : Divides true text.toList pieces last)
    (given :
      ∃ piece ∈ pieces, piece.tag = "morph".toList ∧ piece.body = body) :
    ∃ tag message, parse text = .error (.directive tag message) := by
  obtain ⟨piece, member, isMorph, rfl⟩ := given
  have fails : ∀ set : Set,
      ∃ failure, piece.applyTo set = .error failure := by
    intro set
    obtain ⟨cause, failed⟩ := deficient.exists_add_eq_error set
    refine ⟨cause.failure "morph", ?_⟩
    rw [Piece.applyTo, isMorph, String.ofList_toList, failed]
    rfl
  -- An earlier directive may fail first, so the tag need not be this one.
  obtain ⟨failing, _, set, failure, failed, ends⟩ :=
    Outcome.exists_foldlM_eq_error member fails {}
  obtain ⟨message, rfl⟩ := Piece.eq_directive_of_applyTo failed
  refine ⟨String.ofList failing.tag, message, ?_⟩
  rw [parse, divides.readFrom_eq, ends]
  rfl

end Deficient

/--
Polymorphic declarations are read back exactly, and deficient ones are
rejected.

A declaration whose texts can stand in single quotes is what its entries are
read as, in every order and with every spelling of its keys and of its
cardinality.  No set takes in a body that lacks a required key, or has an
unknown key or cardinality or a part that is no entry, and every text with
such a directive is rejected as a whole.
-/
theorem parse_morph_exact :
    (∀ (morph : Morph) (spelling : morph.Spelling) (entries : List Entry),
      morph.name ≠ "" →
      morph.model ≠ "" →
      (∀ text ∈ morph.texts, '\'' ∉ text.toList ∧ '\\' ∉ text.toList) →
      entries.Perm spelling.entries →
      parse ("@morph(" ++ writtenEntries entries ++ ")") =
        .ok { morphs := [morph] }) ∧
      ∀ body : Option Body,
        Deficient (partsOf body) →
        (∀ set : Set, ∃ cause, set.add "morph" body = .error cause) ∧
          (∀ afterTag rest : List Char,
            readBody afterTag = .ok (body, rest) →
            (∀ character ∈ afterTag.head?,
              Text.isWordCharacter character = false) →
            ∃ message,
              parse ("@morph" ++ String.ofList afterTag) =
                .error (.directive "morph" message)) ∧
          ∀ (text : String) (pieces : List Piece) (last : List Char),
            Divides true text.toList pieces last →
            (∃ piece ∈ pieces,
              piece.tag = "morph".toList ∧ piece.body = body) →
            ∃ tag message,
              parse text = .error (.directive tag message) := by
  refine ⟨?_, fun body deficient =>
    ⟨deficient.exists_add_eq_error, ?_, ?_⟩⟩
  · intro morph spelling entries someName someModel plain permuted
    exact parse_of_perm permuted someName someModel fun text member =>
      ⟨(plain text member).1, (plain text member).2⟩
  · intro afterTag rest bodied stops
    exact parse_of_deficient deficient bodied stops
  · intro text pieces last divides given
    exact parse_of_divides_deficient deficient divides given

/-- A declaration with marks of all sorts in its texts. -/
def imageMorph : Morph where
  name := "imageable"
  cardinality := .toMany
  model := "Image"
  table := some "imageables"
  chain := some "->latest(\"id\")->where([a: 1], x"
  typeColumn := some "kind"

/-- The declaration with blanks around its cardinality. -/
def imageSpelling : imageMorph.Spelling where
  nameOf
    | .typeColumn => "typeColumn"
    | key => key.names.headD ""
  nameOf_mem := by
    intro key
    cases key <;> decide
  cardinality := " to-many "
  parse?_cardinality := by decide

/-- The entries of the declaration from the last to the first. -/
def imageEntries : List Entry :=
  imageSpelling.entries.reverse

/-- A declaration of an unknown cardinality behind a comment. -/
def fewPiece : Piece where
  kept := "Shown. ".toList
  tag := "morph".toList
  body := some ⟨.arguments, "name: a, model: B, type: 'few'".toList⟩

/-- A declaration is read back, and another one with an unknown cardinality is
rejected. -/
theorem parse_morph_exact_image :
    (imageMorph.name ≠ "" ∧
      imageMorph.model ≠ "" ∧
      (∀ text ∈ imageMorph.texts,
        '\'' ∉ text.toList ∧ '\\' ∉ text.toList) ∧
      imageEntries.Perm imageSpelling.entries ∧
      parse ("@morph(" ++ writtenEntries imageEntries ++ ")") =
        .ok { morphs := [imageMorph] }) ∧
      Deficient (partsOf fewPiece.body) ∧
      readBody (writtenBody fewPiece.body) = .ok (fewPiece.body, []) ∧
      Divides true fewPiece.text [fewPiece] [] ∧
      (∃ message,
        parse ("@morph" ++ String.ofList (writtenBody fewPiece.body)) =
          .error (.directive "morph" message)) ∧
      ∃ tag message,
        parse (String.ofList fewPiece.text) =
          .error (.directive tag message) := by
  have plain :
      ∀ text ∈ imageMorph.texts,
        '\'' ∉ text.toList ∧ '\\' ∉ text.toList := by
    decide
  have permuted : imageEntries.Perm imageSpelling.entries :=
    List.reverse_perm _
  have deficient : Deficient (partsOf fewPiece.body) :=
    @Deficient.unknownCardinality _ ("type", "few") (by decide +kernel)
      (by decide) (by decide)
  have bodied :
      readBody (writtenBody fewPiece.body) = .ok (fewPiece.body, []) := by
    decide
  have divides : Divides true fewPiece.text [fewPiece] [] := by
    have whole : Divides true (fewPiece.text ++ []) [fewPiece] [] :=
      .piece (by decide) (by decide) (by decide) bodied (.last rfl)
    rwa [List.append_nil] at whole
  obtain ⟨exact, rejects⟩ := parse_morph_exact
  obtain ⟨_, alone, within⟩ := rejects fewPiece.body deficient
  refine ⟨⟨by decide, by decide, plain, permuted,
    exact imageMorph imageSpelling imageEntries (by decide) (by decide)
      plain permuted⟩, deficient, bodied, divides, ?_, ?_⟩
  · refine alone _ _ bodied ?_
    rintro character ⟨⟩
    decide
  · refine within _ [fewPiece] [] ?_ ⟨fewPiece, List.mem_cons_self, rfl, rfl⟩
    rwa [String.toList_ofList]

end Set

end Tablewright.Directive
