import Tablewright.Proofs.Directive.Division
import Tablewright.Proofs.Text.Trim

namespace Tablewright.Directive

/-!
# What is left of a documentation string

The comment of a documentation string is made of the text outside its
directives.  A tag that has nothing but a directive in front of it is no
directive, but the comment may begin with it, or have it behind a blank, once
the directive is taken away.  There is no other way for a directive to come
into the comment, so in all other cases reading the comment finds none and
leaves it as it is.
-/

open Text (isBlank trim cut)

/-- Some directive is directly followed by an at sign and a tag. -/
def RunsOn (pieces : List Piece) (last : List Char) : Prop :=
  ∃ before piece after,
    pieces = before ++ piece :: after ∧
      startsTag (wholeText after last) = true

theorem runsOn_cons_iff
    {piece : Piece}
    {pieces : List Piece}
    {last : List Char} :
    RunsOn (piece :: pieces) last ↔
      startsTag (wholeText pieces last) = true ∨ RunsOn pieces last := by
  constructor
  · rintro ⟨before, runner, after, shape, starts⟩
    cases before with
    | nil =>
        obtain ⟨_, rfl⟩ := List.cons.inj shape
        exact .inl starts
    | cons first before =>
        obtain ⟨_, rfl⟩ := List.cons.inj shape
        exact .inr ⟨before, runner, after, rfl, starts⟩
  · rintro (starts | ⟨before, runner, after, rfl, starts⟩)
    · exact ⟨[], piece, pieces, rfl, starts⟩
    · exact ⟨piece :: before, runner, after, rfl, starts⟩

/-! ## Tags in kept text -/

/-- In front of a place where a directive may start, what follows does not
matter. -/
theorem startsTag_append_of_opensBehind
    {character : Char}
    {kept : List Char}
    (opens : opensBehind (isBlank character) kept = true)
    (more : List Char) :
    startsTag (character :: (kept ++ more)) =
      startsTag (character :: kept) := by
  cases plain : startsTag (character :: kept) with
  | false => exact startsTag_eq_false_of_opensBehind opens plain
  | true => exact startsTag_append plain more

/-- A place where a directive may start divides the tags of a text. -/
theorem hasTag_append_of_opensBehind
    {afterBlank : Bool}
    {kept : List Char}
    (opens : opensBehind afterBlank kept = true)
    (more : List Char) :
    hasTag afterBlank (kept ++ more) =
      (hasTag afterBlank kept || hasTag true more) := by
  induction kept generalizing afterBlank with
  | nil =>
      obtain rfl : afterBlank = true := opens
      rfl
  | cons character kept inductionHypothesis =>
      rw [List.cons_append, hasTag, hasTag, inductionHypothesis opens,
        startsTag_append_of_opensBehind opens, Bool.or_assoc]

/-- Behind a blank, a text may also start with a tag. -/
theorem hasTag_true
    (text : List Char) :
    hasTag true text = (startsTag text || hasTag false text) := by
  cases text with
  | nil => rfl
  | cons character rest => simp [hasTag]

namespace Divides

variable {afterBlank : Bool} {text last : List Char} {pieces : List Piece}

/-- Where no directive may start, the kept text starts with a tag exactly if
the whole text does. -/
theorem startsTag_keptText
    (divides : Divides false text pieces last) :
    startsTag (keptText pieces last) = startsTag text := by
  cases divides with
  | last => rfl
  | @piece _ piece rest _ pieces _ opens _ _ _ =>
      obtain ⟨kept, tag, body⟩ := piece
      cases kept with
      | nil => cases opens
      | cons character kept =>
          have whole := startsTag_append_of_opensBehind opens
            (Piece.directive ⟨character :: kept, tag, body⟩ ++ rest)
          have part := startsTag_append_of_opensBehind opens
            (keptText pieces last)
          rw [keptText_cons, Piece.text, List.append_assoc,
            List.cons_append, List.cons_append, whole, part]

/-- The kept text holds a tag exactly if some directive runs on. -/
theorem hasTag_keptText_iff
    (divides : Divides afterBlank text pieces last) :
    hasTag afterBlank (keptText pieces last) = true ↔
      RunsOn pieces last := by
  induction divides with
  | last plain =>
      refine iff_of_false ?_ ?_
      · rw [keptText, List.flatMap_nil, List.nil_append, plain]
        decide
      · rintro ⟨before, runner, after, shape, _⟩
        cases before <;> cases shape
  | @piece _ piece rest last pieces plain opens _ _ later
      inductionHypothesis =>
      -- without its directive, what follows comes behind the kept part,
      -- where a directive may start
      rw [keptText_cons, hasTag_append_of_opensBehind opens, plain,
        Bool.false_or, hasTag_true, later.startsTag_keptText, Bool.or_eq_true,
        inductionHypothesis, runsOn_cons_iff, later.wholeText_eq]

/-- A text that holds a tag holds a directive. -/
theorem ne_nil_of_hasTag
    (divides : Divides afterBlank text pieces last)
    (tagged : hasTag afterBlank text = true) :
    pieces ≠ [] := by
  cases divides with
  | last plain =>
      rw [tagged] at plain
      cases plain
  | piece => exact List.cons_ne_nil _ _

/-- A directive takes something away. -/
theorem length_keptText_lt
    (divides : Divides afterBlank text pieces last)
    (given : pieces ≠ []) :
    (keptText pieces last).length < text.length := by
  have short :
      ∀ others : List Piece,
        (keptText others last).length ≤ (wholeText others last).length := by
    intro others
    induction others with
    | nil => exact Nat.le_refl _
    | cons piece others inductionHypothesis =>
        rw [keptText_cons, wholeText_cons, Piece.text]
        simp only [List.length_append]
        omega
  rw [← divides.wholeText_eq]
  cases pieces with
  | nil => exact (given rfl).elim
  | cons piece others =>
      have later := short others
      rw [keptText_cons, wholeText_cons, Piece.text, Piece.directive]
      simp only [List.length_append, List.length_cons]
      omega

end Divides

/-! ## Tags in comments -/

/-- Blanks behind a text do not make it start with a tag. -/
theorem startsTag_append_blanks
    {back : List Char}
    (blank : ∀ character ∈ back, isBlank character = true)
    (text : List Char) :
    startsTag (text ++ back) = startsTag text := by
  cases starts : startsTag text with
  | true => exact startsTag_append starts back
  | false =>
      by_contra further
      obtain ⟨first, rest, shape, isStart⟩ :=
        startsTag_eq_true_iff.mp (Bool.not_eq_false _ ▸ further)
      cases text with
      | nil =>
          rw [List.nil_append] at shape
          exact absurd (blank '@' (by simp [shape])) (by decide)
      | cons mark text =>
          obtain ⟨rfl, behind⟩ := List.cons.inj shape
          cases text with
          | nil =>
              have behind : back = first :: rest := behind
              have isWord := isWordCharacter_of_isTagStart isStart
              rw [not_isWordCharacter_of_isBlank
                (blank first (by simp [behind]))] at isWord
              cases isWord
          | cons second others =>
              obtain ⟨rfl, _⟩ := List.cons.inj behind
              have already :=
                startsTag_eq_true_iff.mpr ⟨_, others, rfl, isStart⟩
              exact Bool.false_ne_true (starts.symm.trans already)

/-- Blanks behind a text hold no tag. -/
theorem hasTag_append_blanks
    {back : List Char}
    (blank : ∀ character ∈ back, isBlank character = true)
    (afterBlank : Bool)
    (text : List Char) :
    hasTag afterBlank (text ++ back) = hasTag afterBlank text := by
  induction text generalizing afterBlank with
  | nil =>
      induction back generalizing afterBlank with
      | nil => rfl
      | cons character back inductionHypothesis =>
          have unmarked : startsTag (character :: back) = false :=
            startsTag_append_blanks blank []
          have later : hasTag (isBlank character) back = false :=
            inductionHypothesis
              (fun other member =>
                blank other (List.mem_cons_of_mem _ member))
              (isBlank character)
          simp only [List.nil_append, hasTag, unmarked, later,
            Bool.and_false, Bool.or_false]
  | cons character rest inductionHypothesis =>
      have same := startsTag_append_blanks blank (character :: rest)
      rw [List.cons_append] at same ⊢
      rw [hasTag, hasTag, same, inductionHypothesis]

/-- Blanks in front of a text hold no tag. -/
theorem hasTag_blanks_append
    {front : List Char}
    (blank : ∀ character ∈ front, isBlank character = true)
    (text : List Char) :
    hasTag true (front ++ text) = hasTag true text := by
  have opens : opensBehind true front = true :=
    opensBehind_true_iff.mpr fun character isLast =>
      blank character (List.mem_of_getLast? isLast)
  have plain := hasTag_append_blanks blank true []
  rw [List.nil_append] at plain
  rw [hasTag_append_of_opensBehind opens, plain]
  rfl

/-- Trimming a line does not change whether it holds a tag. -/
theorem hasTag_trim
    (line : List Char) :
    hasTag true (trim line) = hasTag true line := by
  obtain ⟨front, back, shape, blankFront, blankBack⟩ :=
    Text.exists_trim line
  conv_rhs => rw [shape]
  rw [hasTag_append_blanks blankBack, hasTag_blanks_append blankFront]

/-- Lines with a blank between them hold a tag if one of them does. -/
theorem hasTag_intercalate
    {blank : Char}
    (separates : isBlank blank = true)
    (lines : List (List Char)) :
    hasTag true ([blank].intercalate lines) = lines.any (hasTag true) := by
  induction lines with
  | nil => rfl
  | cons line lines inductionHypothesis =>
      cases lines with
      | nil => simp
      | cons next others =>
          have opens : opensBehind true (line ++ [blank]) = true := by
            rw [opensBehind_append]
            exact separates
          rw [List.intercalate_cons_cons, hasTag_append_of_opensBehind opens,
            hasTag_append_blanks (by simpa using separates),
            inductionHypothesis, List.any_cons (l := next :: others)]

/-- A comment is its lines with spaces between them. -/
theorem toList_of_commentOf
    {kept : List Char}
    {comment : String}
    (isComment : commentOf kept = some comment) :
    comment.toList =
        [' '].intercalate
          (((cut '\n' kept).map trim).filter fun line => !line.isEmpty) ∧
      ((cut '\n' kept).map trim).filter (fun line => !line.isEmpty) ≠
        [] := by
  obtain ⟨given, made⟩ := Option.ite_none_left_eq_some.mp isComment
  obtain rfl := Option.some.inj made
  refine ⟨?_, by simpa using given⟩
  rw [String.toList_intercalate, List.map_map]
  simp [Function.comp_def]

/-- The comment holds a tag exactly if the kept text does. -/
theorem hasTag_commentOf
    {kept : List Char}
    {comment : String}
    (isComment : commentOf kept = some comment) :
    hasTag true comment.toList = hasTag true kept := by
  rw [(toList_of_commentOf isComment).1, hasTag_intercalate (by decide),
    List.any_filter, List.any_map]
  conv_rhs =>
    rw [← Text.intercalate_cut '\n' kept, hasTag_intercalate (by decide)]
  refine congrArg ((cut '\n' kept).any ·) (funext fun line => ?_)
  rw [Function.comp_apply, ← hasTag_trim line]
  cases trim line with
  | nil => rfl
  | cons character rest => rfl

/-- Trimming lines and dropping empty ones leaves no more of them. -/
theorem length_trimmed_le
    (lines : List (List Char))
    (separator other : Char) :
    (((lines.map trim).filter fun line => !line.isEmpty).flatMap
        (· ++ [separator])).length ≤
      (lines.flatMap (· ++ [other])).length := by
  induction lines with
  | nil => exact Nat.le_refl _
  | cons line lines inductionHypothesis =>
      obtain ⟨front, back, shape, _, _⟩ := Text.exists_trim line
      have shorter := congrArg List.length shape
      simp only [List.length_append] at shorter
      rw [List.map_cons, List.filter_cons, List.flatMap_cons,
        List.length_append, List.length_append]
      split
      · rw [List.flatMap_cons, List.length_append, List.length_append]
        simp only [List.length_singleton]
        omega
      · omega

/-- A comment is no longer than the kept text. -/
theorem length_commentOf_le
    {kept : List Char}
    {comment : String}
    (isComment : commentOf kept = some comment) :
    comment.toList.length ≤ kept.length := by
  conv_rhs => rw [← Text.intercalate_cut '\n' kept, Text.length_intercalate]
  rw [(toList_of_commentOf isComment).1, Text.length_intercalate]
  exact Nat.sub_le_sub_right (length_trimmed_le _ _ _) 1

/-- The comment of a comment is the comment. -/
theorem commentOf_commentOf
    {kept : List Char}
    {comment : String}
    (isComment : commentOf kept = some comment) :
    commentOf comment.toList = some comment := by
  obtain ⟨shape, given⟩ := toList_of_commentOf isComment
  have clean :
      ∀ line ∈ ((cut '\n' kept).map trim).filter
          fun line => !line.isEmpty,
        Text.Unpadded line ∧ line ≠ [] ∧ '\n' ∉ line := by
    intro line member
    obtain ⟨trimmed, given⟩ := List.mem_filter.mp member
    obtain ⟨piece, isPiece, rfl⟩ := List.mem_map.mp trimmed
    obtain ⟨front, back, whole, _, _⟩ := Text.exists_trim piece
    refine ⟨Text.unpadded_trim piece, by simpa using given, ?_⟩
    intro broken
    refine Text.not_mem_of_mem_cut isPiece ?_
    rw [whole]
    simp [broken]
  obtain ⟨unpadded, some⟩ := Text.unpadded_intercalate given
    (fun line member => ⟨(clean line member).1, (clean line member).2.1⟩) ' '
  have unbroken := Text.not_mem_intercalate
    (fun line member => (clean line member).2.2)
    (show '\n' ≠ ' ' by decide)
  rw [← shape] at unpadded some unbroken
  simp [commentOf, Text.cut_of_not_mem unbroken,
    Text.trim_of_unpadded unpadded, some]

namespace Set

/--
Reading the comment of a text again finds no directive and leaves the comment
as it is, unless some directive of the text is directly followed by an at sign
and a tag.
-/
theorem parse_comment_iff
    {text comment : String}
    {set : Set}
    (parsed : parse text = .ok set)
    (left : set.comment = some comment) :
    ∃ pieces last,
      Divides true text.toList pieces last ∧
        ((∃ again,
            parse comment = .ok again ∧ again.isEmpty = true ∧
              again.comment = some comment) ↔
          ¬ RunsOn pieces last) := by
  obtain ⟨⟨applied, kept⟩, read, rfl⟩ := Outcome.map_eq_ok_iff.mp parsed
  obtain ⟨pieces, last, divides, rfl, _⟩ :=
    (Reads.of_readFrom read).exists_divides
  have isComment : commentOf (keptText pieces last) = some comment := left
  refine ⟨pieces, last, divides, ?_⟩
  rw [← divides.hasTag_keptText_iff, ← hasTag_commentOf isComment]
  constructor
  · rintro ⟨again, reparsed, _, unchanged⟩ tagged
    -- a directive that is read again takes something away from the comment
    obtain ⟨⟨_, others⟩, reread, rfl⟩ := Outcome.map_eq_ok_iff.mp reparsed
    obtain ⟨found, rest, divided, rfl, _⟩ :=
      (Reads.of_readFrom reread).exists_divides
    have shorter := divided.length_keptText_lt
      (divided.ne_nil_of_hasTag tagged)
    exact Nat.not_le.mpr shorter (length_commentOf_le unchanged)
  · intro plain
    have reread := readFrom_of_plain {} (Bool.not_eq_true _ ▸ plain)
    refine ⟨{ comment := some comment }, ?_, rfl, rfl⟩
    rw [parse, reread]
    simp only [Except.map, commentOf_commentOf isComment]

/-- The comment on a name that is hidden and guarded. -/
theorem parse_comment_iff_hidden :
    ∃ set,
      parse "A note @hidden\n@guarded(a) for\tall" = .ok set ∧
        set.comment = some "A note for\tall" ∧
        ∃ pieces last,
          Divides true "A note @hidden\n@guarded(a) for\tall".toList pieces
              last ∧
            ((∃ again,
                parse "A note for\tall" = .ok again ∧
                  again.isEmpty = true ∧
                  again.comment = some "A note for\tall") ↔
              ¬ RunsOn pieces last) := by
  have parsed :
      parse "A note @hidden\n@guarded(a) for\tall" =
        .ok
          { hidden := some []
            guarded := some ["a"]
            comment := some "A note for\tall" } := by
    decide +kernel
  exact ⟨_, parsed, rfl, parse_comment_iff parsed rfl⟩

/-- A directive that is directly followed by another tag leaves this tag as
the comment, where it is read as a directive. -/
theorem parse_comment_run_on :
    parse "@hidden@guarded" =
        .ok { hidden := some [], comment := some "@guarded" } ∧
      parse "@guarded" = .ok { guarded := some [] } ∧
      ¬ ∀ (text comment : String) (set : Set),
        parse text = .ok set →
          set.comment = some comment →
            ∃ again,
              parse comment = .ok again ∧ again.isEmpty = true ∧
                again.comment = some comment := by
  have parsed :
      parse "@hidden@guarded" =
        .ok { hidden := some [], comment := some "@guarded" } := by
    decide +kernel
  have reparsed : parse "@guarded" = .ok { guarded := some [] } := by
    decide +kernel
  refine ⟨parsed, reparsed, fun complete => ?_⟩
  obtain ⟨again, isAgain, _, unchanged⟩ := complete _ _ _ parsed rfl
  obtain rfl := Except.ok.inj (reparsed.symm.trans isAgain)
  cases unchanged

end Set

end Tablewright.Directive
