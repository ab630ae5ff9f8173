import Tablewright.Proofs.Directive.Quoted
import Tablewright.Proofs.Directive.Written

namespace Tablewright.Directive

/-!
# Plain texts

Brackets, quotation marks and commas group a body and divide it into parts.
The readers of groups and of parts pass a text without these marks, and the
reader of pairs passes it up to a colon.  Names and paths are such texts.
-/

/-- The characters that group a body or divide it into parts. -/
def bodyMarks : List Char :=
  ['(', ')', '[', ']', '{', '}', '\'', '"', ',']

/-- No character of a text groups a body or divides it into parts. -/
def Unmarked (text : List Char) : Prop :=
  ∀ character ∈ text, character ∉ bodyMarks

instance (text : List Char) : Decidable (Unmarked text) :=
  List.decidableBAll _ text

theorem Unmarked.append
    {first second : List Char}
    (unmarkedFirst : Unmarked first)
    (unmarkedSecond : Unmarked second) :
    Unmarked (first ++ second) := by
  intro character member
  rcases List.mem_append.mp member with inFirst | inSecond
  · exact unmarkedFirst character inFirst
  · exact unmarkedSecond character inSecond

/-- What the readers see in a character that is no mark. -/
theorem of_not_mem_bodyMarks
    {character : Char}
    (unmarked : character ∉ bodyMarks) :
    isQuote character = false ∧
      closerOf? character = none ∧
      isCloser character = false ∧
      character ≠ ',' := by
  simp only [bodyMarks, List.mem_cons, List.not_mem_nil, or_false,
    not_or] at unmarked
  refine ⟨?_, ?_, ?_, by simp [unmarked]⟩
  · simp [isQuote, unmarked]
  · unfold closerOf?
    split <;> simp_all
  · simp [isCloser, unmarked]

/-- The reader of groups passes a text without marks. -/
theorem groupPasses_of_unmarked
    {text : List Char}
    (unmarked : Unmarked text) :
    GroupPasses text := by
  induction text with
  | nil => exact .nil
  | cons character rest inductionHypothesis =>
      obtain ⟨unquoted, unopened, unclosed, _⟩ :=
        of_not_mem_bodyMarks (unmarked character List.mem_cons_self)
      have first : GroupPasses [character] :=
        groupPasses_singleton unquoted unopened unclosed
      exact first.append (inductionHypothesis fun other member =>
        unmarked other (List.mem_cons_of_mem _ member))

/-- The reader of parts passes a text without marks. -/
theorem partPasses_of_unmarked
    {text : List Char}
    (unmarked : Unmarked text) :
    PartPasses text := by
  induction text with
  | nil => exact .nil
  | cons character rest inductionHypothesis =>
      obtain ⟨unquoted, unopened, unclosed, noComma⟩ :=
        of_not_mem_bodyMarks (unmarked character List.mem_cons_self)
      have first : PartPasses [character] :=
        partPasses_singleton unquoted unopened unclosed noComma
      exact first.append (inductionHypothesis fun other member =>
        unmarked other (List.mem_cons_of_mem _ member))

/-- A part is cut at its first colon, if no mark stands in front and no other
colon behind it. -/
theorem splitPair?_append
    {key rest : List Char}
    (unmarked : Unmarked key)
    (noColon : ':' ∉ key)
    (single : rest.head? ≠ some ':') :
    splitPair? (key ++ ':' :: rest) = some (key, rest) := by
  induction key with
  | nil => simp [splitPair?, closerOf?, isQuote, single]
  | cons character key inductionHypothesis =>
      obtain ⟨unquoted, unopened, _⟩ :=
        of_not_mem_bodyMarks (unmarked character List.mem_cons_self)
      rw [List.mem_cons, not_or] at noColon
      obtain ⟨isOther, later⟩ := noColon
      have found := inductionHypothesis
        (fun other member => unmarked other (List.mem_cons_of_mem _ member))
        later
      simp [splitPair?, unquoted, unopened, Ne.symm isOther, found]

/-- A part that begins with a quotation mark is not cut. -/
theorem splitPair?_quoted
    {mark : Char}
    (isMark : isQuote mark = true)
    (text rest : List Char) :
    splitPair? (quoted mark text ++ rest) = none := by
  simp [quoted, splitPair?, isMark]

/-- A text that does not hold a mark is not enclosed by it. -/
theorem isEnclosedBy_eq_false
    {mark : Char}
    {text : List Char}
    (absent : mark ∉ text) :
    isEnclosedBy mark text = false := by
  by_contra encloses
  simp only [isEnclosedBy, Bool.not_eq_false, Bool.and_eq_true,
    beq_iff_eq] at encloses
  exact absent (List.mem_of_head? encloses.1.2)

/-- A text without marks and without blanks around it is its own name. -/
theorem unquote_of_unmarked
    {text : List Char}
    (unmarked : Unmarked text)
    (unpadded : Text.Unpadded text) :
    unquote text = text := by
  have single : '\'' ∉ text := fun member => unmarked _ member (by decide)
  have double : '"' ∉ text := fun member => unmarked _ member (by decide)
  simp [unquote, Text.trim_of_unpadded unpadded,
    isEnclosedBy_eq_false single, isEnclosedBy_eq_false double]

/-! ## Names -/

/-- A letter or a numeral of any script, or an underscore. -/
def isNameCharacter (character : Char) : Bool :=
  Text.isAlphanumeric character || character == '_'

/-- A character of the path of a class: a name character or a backslash. -/
def isPathCharacter (character : Char) : Bool :=
  isNameCharacter character || character == '\\'

/-- No blank belongs to a path. -/
theorem unblank_of_isPathCharacter
    {character : Char}
    (inPath : isPathCharacter character = true) :
    Text.isBlank character = false := by
  have none :
      ∀ code ∈ blankCodes, isPathCharacter (Char.ofNat code) = false := by
    decide +kernel
  by_contra isBlank
  have outside := none character.toNat
    (toNat_mem_blankCodes (Bool.not_eq_false _ ▸ isBlank))
  rw [Char.ofNat_toNat, inPath] at outside
  cases outside

/-- No mark belongs to a path. -/
theorem unmarked_of_isPathCharacter
    {text : List Char}
    (inPath : ∀ character ∈ text, isPathCharacter character = true) :
    Unmarked text := by
  have none : bodyMarks.any isPathCharacter = false := by decide
  intro character member isMark
  exact List.any_eq_false.mp none character isMark (inPath character member)

/-- A name is a path. -/
theorem isPathCharacter_of_isNameCharacter
    {character : Char}
    (inName : isNameCharacter character = true) :
    isPathCharacter character = true := by
  simp [isPathCharacter, inName]

/-- A character that is no name character does not stand in a name. -/
theorem not_mem_of_isNameCharacter
    {text : List Char}
    (inName : ∀ character ∈ text, isNameCharacter character = true)
    {other : Char}
    (outside : isNameCharacter other = false) :
    other ∉ text := by
  intro member
  rw [inName other member] at outside
  cases outside

end Tablewright.Directive
