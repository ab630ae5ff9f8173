import Tablewright.Proofs.Directive.Division

namespace Tablewright.Directive

/-!
# Directives partition their text

A documentation string that can be read is made up of its directives and of
the parts in front of, between and behind them.  Every occurrence of the tag
pattern is the head of a directive or lies within one, so what is kept holds
no directive that has not been applied.
-/

/-! ## Occurrences of the tag pattern -/

/-- An occurrence of the tag pattern: an at sign and a tag at the start of a
text or behind a blank. -/
structure Occurs (text front tag : List Char) : Prop where
  opens : ∀ character ∈ front.getLast?, Text.isBlank character = true
  tagged :
    ∃ rest behind,
      text = front ++ '@' :: rest ∧ readTag? rest = some (tag, behind)

/-- An occurrence of the tag pattern is the head of a directive or lies
within one. -/
def Covered (pieces : List Piece) (front tag : List Char) : Prop :=
  ∃ before piece after,
    pieces = before ++ piece :: after ∧
      (front = wholeText before piece.kept ∧ tag = piece.tag ∨
        (wholeText before piece.kept).length < front.length ∧
          (front ++ '@' :: tag).length ≤
            (wholeText before piece.text).length)

/-- A text begins with an at sign and a tag exactly if both can be read. -/
theorem startsTag_of_readTag?
    {rest tag behind : List Char}
    (tagged : readTag? rest = some (tag, behind)) :
    startsTag ('@' :: rest) = true := by
  simp [startsTag, tagged]

/-- A text with a place where a directive starts holds a tag. -/
theorem hasTag_append
    {afterBlank : Bool}
    {front rest : List Char}
    (opens : opensBehind afterBlank front = true)
    (starts : startsTag rest = true) :
    hasTag afterBlank (front ++ rest) = true := by
  induction front generalizing afterBlank with
  | nil =>
      obtain ⟨first, more, rfl, _⟩ := startsTag_eq_true_iff.mp starts
      obtain rfl : afterBlank = true := opens
      rw [List.nil_append, hasTag, starts]
      rfl
  | cons character front inductionHypothesis =>
      rw [List.cons_append, hasTag, inductionHypothesis opens, Bool.or_true]

/-- An occurrence that starts in a kept part is one of the kept part. -/
theorem hasTag_of_front
    {afterBlank : Bool}
    {front inner more tag behind : List Char}
    (ends : opensBehind afterBlank (front ++ '@' :: inner) = true)
    (opens : opensBehind afterBlank front = true)
    (tagged : readTag? (inner ++ more) = some (tag, behind)) :
    hasTag afterBlank (front ++ '@' :: inner) = true := by
  refine hasTag_append opens ?_
  rw [opensBehind_append] at ends
  by_contra plain
  have unmarked : startsTag ('@' :: (inner ++ more)) = false :=
    startsTag_eq_false_of_opensBehind ends (Bool.not_eq_true _ ▸ plain)
  rw [startsTag_of_readTag? tagged] at unmarked
  cases unmarked

namespace Divides

variable {afterBlank : Bool} {text last : List Char} {pieces : List Piece}

/-- Each piece of a division is a directive at a place where one may start,
with exactly its tag and its body, and what is behind it is divided then. -/
theorem behind
    {before after : List Piece}
    {piece : Piece}
    (divides : Divides afterBlank text (before ++ piece :: after) last) :
    opensBehind afterBlank (wholeText before piece.kept) = true ∧
      readTag?
          (piece.tag ++
            (writtenBody piece.body ++ wholeText after last)) =
        some (piece.tag, writtenBody piece.body ++ wholeText after last) ∧
      readBody (writtenBody piece.body ++ wholeText after last) =
        .ok (piece.body, wholeText after last) ∧
      Divides false (wholeText after last) after last := by
  induction before generalizing afterBlank text with
  | nil =>
      cases divides with
      | piece _ opens tagged bodied later =>
          rw [later.wholeText_eq]
          exact ⟨opens, tagged, bodied, later⟩
  | cons earlier before inductionHypothesis =>
      cases divides with
      | piece _ _ tagged bodied later =>
          obtain ⟨opens, rest⟩ := inductionHypothesis later
          refine ⟨?_, rest⟩
          have ends := (ends_directive tagged bodied).2
          have closed := ends.opensBehind_eq_false (List.cons_ne_nil _ _)
            (opensBehind afterBlank earlier.kept)
          rw [← opensBehind_append] at closed
          rw [wholeText_cons, opensBehind_append, Piece.text,
            Piece.directive, closed]
          exact opens

end Divides

/-- What is covered in a text is covered behind another piece. -/
theorem Covered.cons
    {pieces : List Piece}
    {front tag : List Char}
    (covered : Covered pieces front tag)
    (piece : Piece) :
    Covered (piece :: pieces) (piece.text ++ front) tag := by
  obtain ⟨before, head, after, rfl, isHead | isInner⟩ := covered
  · refine ⟨piece :: before, head, after, rfl, .inl ⟨?_, isHead.2⟩⟩
    rw [wholeText_cons, isHead.1]
  · refine ⟨piece :: before, head, after, rfl, .inr ?_⟩
    simp only [wholeText_cons, List.length_append] at isInner ⊢
    omega

/-- A tag that begins in a directive is covered by it. -/
theorem Covered.of_directive
    {piece : Piece}
    {inside inner rest tag behind : List Char}
    (directive : piece.directive = inside ++ '@' :: inner)
    (ends : Ends piece.directive rest)
    (headTagged :
      readTag? (piece.tag ++ (writtenBody piece.body ++ rest)) =
        some (piece.tag, writtenBody piece.body ++ rest))
    (tagged : readTag? (inner ++ rest) = some (tag, behind))
    (pieces : List Piece) :
    Covered (piece :: pieces) (piece.kept ++ inside) tag := by
  refine ⟨[], piece, pieces, rfl, ?_⟩
  cases inside with
  | nil =>
      obtain rfl := (List.cons.inj directive).2
      rw [List.append_assoc, headTagged] at tagged
      obtain ⟨rfl, _⟩ := Prod.mk.inj (Option.some.inj tagged)
      exact .inl ⟨List.append_nil _, rfl⟩
  | cons mark others =>
      rw [directive] at ends
      have short := (ends.drop (List.cons_ne_nil _ _)).length_tag_le tagged
      refine .inr ⟨by simp [wholeText], ?_⟩
      simp only [wholeText, List.flatMap_nil, List.nil_append, Piece.text,
        directive, List.length_append, List.length_cons]
      omega

/-- Every occurrence of the tag pattern in a divided text is covered. -/
theorem Divides.covered
    {afterBlank : Bool}
    {text last : List Char}
    {pieces : List Piece}
    (divides : Divides afterBlank text pieces last)
    {front rest tag behind : List Char}
    (opens : opensBehind afterBlank front = true)
    (whole : text = front ++ '@' :: rest)
    (tagged : readTag? rest = some (tag, behind)) :
    Covered pieces front tag := by
  induction divides generalizing front with
  | last plain =>
      rw [whole, hasTag_append opens (startsTag_of_readTag? tagged)] at plain
      cases plain
  | @piece afterBlank piece after last pieces plain keptOpens headTagged
      bodied later inductionHypothesis =>
      have ends : Ends piece.directive after :=
        (ends_directive headTagged bodied).2
      have closed (front : List Char) :
          opensBehind afterBlank (front ++ piece.directive) = false := by
        rw [opensBehind_append]
        exact ends.opensBehind_eq_false (List.cons_ne_nil _ _) _
      rw [Piece.text, List.append_assoc] at whole
      rcases List.append_eq_append_iff.mp whole with
        ⟨inside, rfl, shape⟩ | ⟨inner, keptShape, shape⟩
      · rcases List.append_eq_append_iff.mp shape with
          ⟨more, rfl, laterShape⟩ | ⟨inner, directive, shape⟩
        · -- the occurrence is behind the directive
          rw [← List.append_assoc, opensBehind_append, closed] at opens
          have covered := (inductionHypothesis opens laterShape).cons piece
          rwa [Piece.text, List.append_assoc] at covered
        · cases inner with
          | nil =>
              rw [List.append_nil] at directive
              rw [← directive, closed] at opens
              cases opens
          | cons mark inner =>
              obtain ⟨rfl, rfl⟩ := List.cons.inj shape
              exact .of_directive directive ends headTagged tagged pieces
      · cases inner with
        | nil =>
            rw [List.append_nil] at keptShape
            obtain ⟨_, rfl⟩ := List.cons.inj shape
            rw [← keptShape, ← List.append_nil piece.kept]
            exact .of_directive rfl ends headTagged tagged pieces
        | cons mark inner =>
            -- the occurrence is in the kept part, which holds none
            obtain ⟨rfl, rfl⟩ := List.cons.inj shape
            rw [keptShape] at plain keptOpens
            rw [hasTag_of_front keptOpens opens tagged] at plain
            cases plain

/-! ## The partition of a text -/

/--
Directives, each with the part kept in front of it, and a last kept part that
partition a text.

The text is made up of them.  Each directive starts at the start of the text
or behind a blank, and is an at sign, a tag and exactly the body that is read
behind the tag.  An occurrence of the tag pattern is the head of a directive
or lies within one.
-/
structure Partition
    (text : List Char)
    (pieces : List Piece)
    (last : List Char) : Prop where
  whole : text = wholeText pieces last
  opens :
    ∀ before piece after,
      pieces = before ++ piece :: after →
        ∀ character ∈ (wholeText before piece.kept).getLast?,
          Text.isBlank character = true
  tagged :
    ∀ before piece after,
      pieces = before ++ piece :: after →
        readTag?
            (piece.tag ++
              (writtenBody piece.body ++ wholeText after last)) =
          some
            (piece.tag, writtenBody piece.body ++ wholeText after last)
  bodied :
    ∀ before piece after,
      pieces = before ++ piece :: after →
        readBody (writtenBody piece.body ++ wholeText after last) =
          .ok (piece.body, wholeText after last)
  covered :
    ∀ front tag,
      Occurs text front tag →
        Covered pieces front tag

/-- The division of a whole text partitions it. -/
theorem Divides.partition
    {text last : List Char}
    {pieces : List Piece}
    (divides : Divides true text pieces last) :
    Partition text pieces last where
  whole := divides.wholeText_eq.symm
  opens := by
    rintro before piece after rfl
    exact opensBehind_true_iff.mp divides.behind.1
  tagged := by
    rintro before piece after rfl
    exact divides.behind.2.1
  bodied := by
    rintro before piece after rfl
    exact divides.behind.2.2.1
  covered := by
    rintro front tag ⟨opens, rest, behind, whole, tagged⟩
    exact divides.covered (opensBehind_true_iff.mpr opens) whole tagged

end Tablewright.Directive
