import Tablewright.Proofs.Directive.Composition
import Tablewright.Proofs.Directive.Written

namespace Tablewright.Directive

/-!
# Division of a text into directives

Reading divides a text into directives and the parts in front of, between and
behind them, which are kept.  No directive starts in a kept part, and one
starts behind each kept part but the last.  Reading a text applies the
directives of its division in order, and keeps what is outside of them.
-/

/-! ## Where a directive may start -/

/-- Whether a directive may start behind a text. -/
def opensBehind (afterBlank : Bool) : List Char → Bool
  | [] => afterBlank
  | character :: rest => opensBehind (Text.isBlank character) rest

/-- Whether a text starts with an at sign and a tag. -/
def startsTag (text : List Char) : Bool :=
  match text with
  | '@' :: rest => (readTag? rest).isSome
  | _ => false

/-- Whether the tag pattern occurs in a text: an at sign and a tag at a place
where a directive may start. -/
def hasTag (afterBlank : Bool) : List Char → Bool
  | [] => false
  | character :: rest =>
      (afterBlank && startsTag (character :: rest)) ||
        hasTag (Text.isBlank character) rest

theorem opensBehind_append
    (afterBlank : Bool)
    (first second : List Char) :
    opensBehind afterBlank (first ++ second) =
      opensBehind (opensBehind afterBlank first) second := by
  induction first generalizing afterBlank with
  | nil => rfl
  | cons character rest inductionHypothesis =>
      exact inductionHypothesis _

/-- A directive may start behind a text that ends with a blank, and at the
start of a text. -/
theorem opensBehind_true_iff
    {text : List Char} :
    opensBehind true text = true ↔
      ∀ character ∈ text.getLast?, Text.isBlank character = true := by
  rcases List.eq_nil_or_concat' text with rfl | ⟨front, last, rfl⟩
  · simp [opensBehind]
  · simp [opensBehind_append, opensBehind]

/-- Behind a part that does not end with a blank, no directive may start. -/
theorem Ends.opensBehind_eq_false
    {part rest : List Char}
    (ends : Ends part rest)
    (given : part ≠ [])
    (afterBlank : Bool) :
    opensBehind afterBlank part = false := by
  obtain ⟨front, last, rfl⟩ :=
    (List.eq_nil_or_concat' part).resolve_left given
  rw [opensBehind_append]
  exact ends.unblank last (by simp)

/-- A tag starts behind an at sign with a letter or an underscore. -/
theorem startsTag_eq_true_iff
    {text : List Char} :
    startsTag text = true ↔
      ∃ first rest, text = '@' :: first :: rest ∧ isTagStart first = true := by
  unfold startsTag
  split
  · rename_i rest
    cases rest with
    | nil => simp [readTag?]
    | cons first more => simp [readTag?]
  · rename_i other
    constructor
    · intro absent
      cases absent
    · rintro ⟨first, rest, rfl, _⟩
      exact (other _ rfl).elim

/-- No directive starts at a character if none may, or if the character is no
at sign with a tag behind it. -/
theorem startsTag_cons_eq_false_iff
    {afterBlank : Bool}
    {character : Char}
    {rest : List Char} :
    (afterBlank && startsTag (character :: rest)) = false ↔
      (afterBlank = true → character = '@' → readTag? rest = none) := by
  cases afterBlank with
  | false => simp
  | true =>
      by_cases isMark : character = '@'
      · simp [isMark, startsTag]
      · have unmarked : startsTag (character :: rest) = false := by
          unfold startsTag
          split
          · rename_i same
            exact (isMark (List.cons.inj same).1).elim
          · rfl
        simp [isMark, unmarked]

/-- Whether a text starts with a tag is decided by its first two
characters. -/
theorem startsTag_append
    {text : List Char}
    (starts : startsTag text = true)
    (more : List Char) :
    startsTag (text ++ more) = true := by
  obtain ⟨first, rest, rfl, isStart⟩ := startsTag_eq_true_iff.mp starts
  exact startsTag_eq_true_iff.mpr ⟨first, rest ++ more, rfl, isStart⟩

/-- At a character in front of a place where a directive may start, no
directive starts. -/
theorem startsTag_eq_false_of_opensBehind
    {character : Char}
    {kept more : List Char}
    (opens : opensBehind (Text.isBlank character) kept = true)
    (plain : startsTag (character :: kept) = false) :
    startsTag (character :: (kept ++ more)) = false := by
  by_contra starts
  obtain ⟨first, rest, same, isStart⟩ :=
    startsTag_eq_true_iff.mp (Bool.not_eq_false _ ▸ starts)
  obtain ⟨rfl, behind⟩ := List.cons.inj same
  cases kept with
  | nil => exact absurd opens (by decide)
  | cons second others =>
      obtain rfl : second = first := (List.cons.inj behind).1
      have found := startsTag_eq_true_iff.mpr
        ⟨second, others, rfl, isStart⟩
      exact Bool.false_ne_true (plain.symm.trans found)

/-- Without an at sign, no directive starts in a text. -/
theorem hasTag_of_not_mem
    {text : List Char}
    (absent : '@' ∉ text)
    (afterBlank : Bool) :
    hasTag afterBlank text = false := by
  induction text generalizing afterBlank with
  | nil => rfl
  | cons character rest inductionHypothesis =>
      rw [List.mem_cons, not_or] at absent
      have ordinary :
          (afterBlank && startsTag (character :: rest)) = false :=
        startsTag_cons_eq_false_iff.mpr fun _ isMark =>
          (absent.1 isMark.symm).elim
      rw [hasTag, ordinary, Bool.false_or]
      exact inductionHypothesis absent.2 _

/-! ## Divisions -/

/-- A directive with the text that is kept in front of it. -/
structure Piece where
  kept : List Char
  tag : List Char
  body : Option Body
  deriving Repr, DecidableEq

namespace Piece

/-- The directive as it is written. -/
def directive (piece : Piece) : List Char :=
  '@' :: (piece.tag ++ writtenBody piece.body)

/-- Everything that the piece stands for. -/
def text (piece : Piece) : List Char :=
  piece.kept ++ piece.directive

/-- Apply the directive to a set. -/
def applyTo (set : Set) (piece : Piece) : Outcome Set :=
  Reading.forTag (String.ofList piece.tag)
    (set.add (String.ofList piece.tag) piece.body)

end Piece

/-- The text that pieces and a last kept part make up. -/
def wholeText (pieces : List Piece) (last : List Char) : List Char :=
  pieces.flatMap Piece.text ++ last

/-- The text outside the directives. -/
def keptText (pieces : List Piece) (last : List Char) : List Char :=
  pieces.flatMap Piece.kept ++ last

theorem wholeText_cons
    (piece : Piece)
    (pieces : List Piece)
    (last : List Char) :
    wholeText (piece :: pieces) last =
      piece.text ++ wholeText pieces last := by
  simp [wholeText]

theorem keptText_cons
    (piece : Piece)
    (pieces : List Piece)
    (last : List Char) :
    keptText (piece :: pieces) last =
      piece.kept ++ keptText pieces last := by
  simp [keptText]

/--
The division of a text.

The indices are whether a directive may start at the front of the text, the
text, its directives with the parts kept in front of them, and the part kept
behind the last one.
-/
inductive Divides : Bool → List Char → List Piece → List Char → Prop where
  | last
      {afterBlank : Bool}
      {text : List Char}
      (plain : hasTag afterBlank text = false) :
      Divides afterBlank text [] text
  | piece
      {afterBlank : Bool}
      {piece : Piece}
      {rest last : List Char}
      {pieces : List Piece}
      (plain : hasTag afterBlank piece.kept = false)
      (opens : opensBehind afterBlank piece.kept = true)
      (tagged :
        readTag? (piece.tag ++ (writtenBody piece.body ++ rest)) =
          some (piece.tag, writtenBody piece.body ++ rest))
      (bodied :
        readBody (writtenBody piece.body ++ rest) =
          .ok (piece.body, rest))
      (later : Divides false rest pieces last) :
      Divides afterBlank (piece.text ++ rest) (piece :: pieces) last

namespace Divides

variable {afterBlank : Bool} {text last : List Char} {pieces : List Piece}

/-- The pieces make up the text. -/
theorem wholeText_eq
    (divides : Divides afterBlank text pieces last) :
    wholeText pieces last = text := by
  induction divides with
  | last => rfl
  | piece _ _ _ _ _ inductionHypothesis =>
      rw [wholeText_cons, inductionHypothesis]

/-- A character at which no directive starts is kept. -/
theorem keep
    {character : Char}
    (divides : Divides (Text.isBlank character) text pieces last)
    (ordinary :
      (afterBlank && startsTag (character :: text)) = false) :
    ∃ grown rest,
      Divides afterBlank (character :: text) grown rest ∧
        keptText grown rest = character :: keptText pieces last ∧
        ∀ set : Set,
          grown.foldlM Piece.applyTo set =
            pieces.foldlM Piece.applyTo set := by
  cases divides with
  | last plain =>
      refine ⟨[], character :: text, .last ?_, rfl, fun _ => rfl⟩
      simp [hasTag, ordinary, plain]
  | @piece _ piece rest _ pieces plain opens tagged bodied later =>
      have first :
          (afterBlank && startsTag (character :: piece.kept)) = false := by
        by_contra starts
        rw [Bool.not_eq_false, Bool.and_eq_true] at starts
        have further := startsTag_append starts.2 (piece.directive ++ rest)
        rw [List.cons_append, ← List.append_assoc] at further
        rw [starts.1, Bool.true_and] at ordinary
        exact Bool.false_ne_true (ordinary.symm.trans further)
      let grown : Piece := { piece with kept := character :: piece.kept }
      have grownPlain : hasTag afterBlank grown.kept = false := by
        simp [grown, hasTag, first, plain]
      exact ⟨grown :: pieces, last,
        .piece grownPlain opens tagged bodied later, rfl, fun _ => rfl⟩

end Divides

/-- A reading divides the text that it reads. -/
theorem Reads.exists_divides
    {set result : Set}
    {afterBlank : Bool}
    {text kept : List Char}
    (reads : Reads set afterBlank text result kept) :
    ∃ pieces last,
      Divides afterBlank text pieces last ∧
        keptText pieces last = kept ∧
        pieces.foldlM Piece.applyTo set = .ok result := by
  induction reads with
  | done => exact ⟨[], [], .last rfl, rfl, rfl⟩
  | @keep set result afterBlank character rest kept ordinary _
      inductionHypothesis =>
      obtain ⟨pieces, last, divides, isKept, applied⟩ := inductionHypothesis
      have stays := startsTag_cons_eq_false_iff.mpr ordinary
      obtain ⟨grown, behind, divides, grownKept, same⟩ :=
        divides.keep stays
      exact ⟨grown, behind, divides, grownKept.trans (congrArg _ isKept),
        (same set).trans applied⟩
  | @directive set next result rest tag afterTag afterBody kept body tagged
      bodied added _ inductionHypothesis =>
      obtain ⟨pieces, last, divides, isKept, applied⟩ := inductionHypothesis
      obtain ⟨rfl, _, _⟩ := eq_of_readTag? tagged
      obtain ⟨rfl, _⟩ := eq_of_readBody bodied
      refine ⟨⟨[], tag, body⟩ :: pieces, last, ?_, isKept, ?_⟩
      · have whole : Divides true
            (Piece.text ⟨[], tag, body⟩ ++ afterBody)
            (⟨[], tag, body⟩ :: pieces) last :=
          .piece rfl rfl tagged bodied divides
        simpa [Piece.text, Piece.directive] using whole
      · rw [List.foldlM_cons, Piece.applyTo, added]
        exact applied

/-! ## Reading a divided text -/

/-- A character at which no directive starts is kept. -/
theorem readFrom_ordinary
    (set : Set)
    {afterBlank : Bool}
    {character : Char}
    {rest : List Char}
    (ordinary :
      (afterBlank && startsTag (character :: rest)) = false) :
    readFrom set afterBlank (character :: rest) =
      (readFrom set (Text.isBlank character) rest).map
        fun (set, kept) => (set, character :: kept) :=
  readFrom_keep set (startsTag_cons_eq_false_iff.mp ordinary)

/-- A text in which no directive starts is kept. -/
theorem readFrom_of_plain
    (set : Set)
    {afterBlank : Bool}
    {text : List Char}
    (plain : hasTag afterBlank text = false) :
    readFrom set afterBlank text = .ok (set, text) := by
  induction text generalizing afterBlank with
  | nil => rw [readFrom]
  | cons character rest inductionHypothesis =>
      obtain ⟨ordinary, later⟩ := Bool.or_eq_false_iff.mp plain
      rw [readFrom_ordinary set ordinary, inductionHypothesis later]
      rfl

/-- A part in which no directive starts is kept in front of a place where one
may start. -/
theorem readFrom_of_opensBehind
    (set : Set)
    {afterBlank : Bool}
    {kept more : List Char}
    (plain : hasTag afterBlank kept = false)
    (opens : opensBehind afterBlank kept = true) :
    readFrom set afterBlank (kept ++ more) =
      (readFrom set true more).map
        fun (set, others) => (set, kept ++ others) := by
  induction kept generalizing afterBlank with
  | nil =>
      obtain rfl : afterBlank = true := opens
      rw [List.nil_append]
      cases readFrom set true more with
      | error failure => rfl
      | ok pair => rfl
  | cons character rest inductionHypothesis =>
      obtain ⟨ordinary, later⟩ := Bool.or_eq_false_iff.mp plain
      have stays :
          (afterBlank && startsTag (character :: (rest ++ more))) =
            false := by
        cases afterBlank with
        | false => rfl
        | true => exact startsTag_eq_false_of_opensBehind opens ordinary
      rw [List.cons_append, readFrom_ordinary set stays,
        inductionHypothesis later opens]
      cases readFrom set true more with
      | error failure => rfl
      | ok pair => rfl

/-- Reading a text applies the directives of its division in order, and keeps
what is outside of them. -/
theorem Divides.readFrom_eq
    {afterBlank : Bool}
    {text last : List Char}
    {pieces : List Piece}
    (divides : Divides afterBlank text pieces last)
    (set : Set) :
    readFrom set afterBlank text =
      (pieces.foldlM Piece.applyTo set).map
        fun result => (result, keptText pieces last) := by
  induction divides generalizing set with
  | last plain => exact readFrom_of_plain set plain
  | @piece afterBlank piece rest last pieces plain opens tagged bodied _
      inductionHypothesis =>
      have directive : piece.text ++ rest =
          piece.kept ++
            '@' :: (piece.tag ++ (writtenBody piece.body ++ rest)) := by
        simp [Piece.text, Piece.directive]
      rw [directive, readFrom_of_opensBehind set plain opens,
        readFrom_directive set tagged bodied, List.foldlM_cons,
        ← Piece.applyTo]
      cases piece.applyTo set with
      | error failure => rfl
      | ok next =>
          rw [Outcome.ok_bind, Outcome.ok_bind, inductionHypothesis next]
          cases pieces.foldlM Piece.applyTo next with
          | error failure => rfl
          | ok result => simp only [Except.map, keptText_cons]

end Tablewright.Directive
