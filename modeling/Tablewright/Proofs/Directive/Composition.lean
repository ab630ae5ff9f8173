import Tablewright.Proofs.Directive.Line
import Tablewright.Proofs.Directive.Merge
import Tablewright.Proofs.Failure

namespace Tablewright.Directive

/-!
# Directives of several lines

A text whose lines can be read for themselves can be read as a whole, and its
directives are those of the lines, merged in order.  `Reads` records the steps
of a reading, so that readings of successive lines can be put together.
-/

/-! ## Steps of the reader -/

/-- A character at which no directive starts is kept. -/
theorem readFrom_keep
    (set : Set)
    {afterBlank : Bool}
    {character : Char}
    {rest : List Char}
    (ordinary :
      afterBlank = true → character = '@' → readTag? rest = none) :
    readFrom set afterBlank (character :: rest) =
      (readFrom set (Text.isBlank character) rest).map
        fun (set, kept) => (set, character :: kept) := by
  rw [readFrom]
  dsimp only
  split
  · rename_i starts
    rw [Bool.and_eq_true, beq_iff_eq] at starts
    split
    · rfl
    · rename_i tagged
      rw [ordinary starts.1 starts.2] at tagged
      cases tagged
  · rfl

/-- A directive is read and applied, and what is behind it is read then. -/
theorem readFrom_directive
    (set : Set)
    {rest tag afterTag afterBody : List Char}
    {body : Option Body}
    (tagged : readTag? rest = some (tag, afterTag))
    (bodied : readBody afterTag = .ok (body, afterBody)) :
    readFrom set true ('@' :: rest) =
      Reading.forTag (String.ofList tag)
          (set.add (String.ofList tag) body) >>=
        fun set => readFrom set false afterBody := by
  rw [readFrom]
  simp only [BEq.rfl, Bool.and_self, ↓reduceIte]
  split
  · rename_i untagged
    rw [tagged] at untagged
    cases untagged
  · rename_i found
    obtain ⟨rfl, rfl⟩ :=
      Prod.mk.inj (Option.some.inj (tagged.symm.trans found))
    split
    · rename_i rejected
      rw [bodied] at rejected
      cases rejected
    · rename_i read
      obtain ⟨rfl, rfl⟩ :=
        Prod.mk.inj (Except.ok.inj (bodied.symm.trans read))
      split
      · rename_i failed
        rw [failed]
        rfl
      · rename_i added
        rw [added]
        rfl

/-! ## Readings -/

/--
A text is read into a set, step by step.

The indices are the set before, whether a directive may start at the front of
the text, the text, the set after it and the text outside the directives.
-/
inductive Reads : Set → Bool → List Char → Set → List Char → Prop where
  | done
      {set : Set}
      {afterBlank : Bool} :
      Reads set afterBlank [] set []
  | keep
      {set result : Set}
      {afterBlank : Bool}
      {character : Char}
      {rest kept : List Char}
      (ordinary :
        afterBlank = true → character = '@' → readTag? rest = none)
      (later :
        Reads set (Text.isBlank character) rest result kept) :
      Reads set afterBlank (character :: rest) result (character :: kept)
  | directive
      {set next result : Set}
      {rest tag afterTag afterBody kept : List Char}
      {body : Option Body}
      (tagged : readTag? rest = some (tag, afterTag))
      (bodied : readBody afterTag = .ok (body, afterBody))
      (added : set.add (String.ofList tag) body = .ok next)
      (later : Reads next false afterBody result kept) :
      Reads set true ('@' :: rest) result kept

namespace Reads

variable {set result : Set} {afterBlank : Bool} {text kept : List Char}

/-- Every step of a reading is one that the reader takes. -/
theorem readFrom_eq
    (reads : Reads set afterBlank text result kept) :
    readFrom set afterBlank text = .ok (result, kept) := by
  induction reads with
  | done => rw [readFrom]
  | keep ordinary _ inductionHypothesis =>
      rw [readFrom_keep _ ordinary, inductionHypothesis]
      rfl
  | directive tagged bodied added _ inductionHypothesis =>
      rw [readFrom_directive _ tagged bodied, added]
      exact inductionHypothesis

/-- The reader takes no other steps. -/
theorem of_readFrom
    (read : readFrom set afterBlank text = .ok (result, kept)) :
    Reads set afterBlank text result kept := by
  fun_induction readFrom set afterBlank text generalizing result kept
  case case1 =>
      obtain ⟨rfl, rfl⟩ := Prod.mk.inj (Except.ok.inj read)
      exact .done
  case case2 untagged inductionHypothesis =>
      obtain ⟨⟨next, others⟩, found, same⟩ := Outcome.map_eq_ok_iff.mp read
      obtain ⟨rfl, rfl⟩ := Prod.mk.inj same
      exact .keep (fun _ _ => untagged) (inductionHypothesis found)
  case case3 => cases read
  case case4 => cases read
  case case5 set afterBlank character rest starts tag afterTag tagged _ body
      afterBody bodied next outcome _ inductionHypothesis =>
      obtain ⟨rfl, same⟩ := Bool.and_eq_true_iff.mp starts
      obtain rfl := beq_iff_eq.mp same
      refine .directive tagged bodied ?_ (inductionHypothesis read)
      cases added : set.add (String.ofList tag) body with
      | error cause =>
          rw [added] at outcome
          cases outcome
      | ok merged =>
          rw [added] at outcome
          exact congrArg Except.ok (Except.ok.inj outcome)
  case case6 ordinary inductionHypothesis =>
      obtain ⟨⟨next, others⟩, found, same⟩ := Outcome.map_eq_ok_iff.mp read
      obtain ⟨rfl, rfl⟩ := Prod.mk.inj same
      refine .keep ?_ (inductionHypothesis found)
      rintro rfl rfl
      exact (ordinary rfl).elim

/-- A text is read behind a line break as if it stood alone. -/
theorem append
    {middle : Set}
    (first : Reads set afterBlank text middle kept)
    {more others : List Char}
    (second : Reads middle true more result others) :
    Reads set afterBlank (text ++ '\n' :: more) result
      (kept ++ '\n' :: others) := by
  induction first with
  | done => exact .keep (fun _ different => by cases different) second
  | keep ordinary _ inductionHypothesis =>
      refine .keep ?_ (inductionHypothesis second)
      intro starts isMark
      exact (readTag?_append _ more).trans
        (congrArg (Option.map _) (ordinary starts isMark))
  | directive tagged bodied added _ inductionHypothesis =>
      refine .directive ?_ (readBody_append bodied more) added
        (inductionHypothesis second)
      exact (readTag?_append _ more).trans (congrArg (Option.map _) tagged)

/-- Directives that are there before are merged with those that are read. -/
theorem merge
    (earlier : Set)
    (reads : Reads set afterBlank text result kept) :
    Reads (earlier.merge set) afterBlank text (earlier.merge result)
      kept := by
  induction reads with
  | done => exact .done
  | keep ordinary _ inductionHypothesis =>
      exact .keep ordinary inductionHypothesis
  | directive tagged bodied added _ inductionHypothesis =>
      refine .directive tagged bodied ?_ inductionHypothesis
      rw [Set.add_merge, added]
      rfl

end Reads

/-! ## Comments -/

/-- The lines of what is kept, trimmed, without the empty ones. -/
def commentLines (kept : List Char) : List String :=
  (((Text.cut '\n' kept).map Text.trim).filter
    (fun line => !line.isEmpty)).map String.ofList

/-- The comment is made up of these lines, joined by single spaces. -/
theorem commentOf_eq
    (kept : List Char) :
    commentOf kept =
      if commentLines kept = [] then none
      else some (" ".intercalate (commentLines kept)) := by
  simp [commentOf, commentLines]

/-- A comment goes on behind a line break. -/
theorem commentOf_append
    (first second : List Char) :
    commentOf (first ++ '\n' :: second) =
      (commentOf first).merge joinComments (commentOf second) := by
  have lines :
      commentLines (first ++ '\n' :: second) =
        commentLines first ++ commentLines second := by
    simp [commentLines, Text.cut_append]
  simp only [commentOf_eq, lines, List.append_eq_nil_iff]
  by_cases noFirst : commentLines first = []
  · simp [noFirst]
  · by_cases noSecond : commentLines second = []
    · simp [noFirst, noSecond]
    · simp [noFirst, noSecond, joinComments,
        String.intercalate_append_of_ne_nil noFirst noSecond]

/--
Reading directives is compositional over lines: if two texts can be read, so
can the one on successive lines, and its directives are those of the texts,
merged.
-/
theorem Set.parse_append
    {first second : String}
    {earlier later : Set}
    (readFirst : parse first = .ok earlier)
    (readSecond : parse second = .ok later) :
    parse (first ++ "\n" ++ second) = .ok (earlier.merge later) := by
  obtain ⟨⟨held, kept⟩, firstRead, rfl⟩ :=
    Outcome.map_eq_ok_iff.mp readFirst
  obtain ⟨⟨added, others⟩, secondRead, rfl⟩ :=
    Outcome.map_eq_ok_iff.mp readSecond
  have continued := (Reads.of_readFrom secondRead).merge held
  rw [merge_empty] at continued
  have whole := ((Reads.of_readFrom firstRead).append continued).readFrom_eq
  have characters :
      (first ++ "\n" ++ second).toList =
        first.toList ++ '\n' :: second.toList := by
    simp
  rw [parse, characters, whole]
  simp only [Except.map, commentOf_append]
  rfl

/-- What the documentation of a post says on its first line. -/
def postHeading : String :=
  "An entry @fillable(title) @cast(tags: array) @observer:App\\Old as Old"

/-- What the documentation of a post says on its second line. -/
def postDetails : String :=
  "of the journal @fillable(body) @cast(meta: json) @observer:App\\New"

/-- The two lines on a post add up, the later observer replacing the
earlier. -/
theorem Set.parse_append_post :
    ∃ earlier later,
      parse postHeading = .ok earlier ∧
        parse postDetails = .ok later ∧
        parse (postHeading ++ "\n" ++ postDetails) =
          .ok (earlier.merge later) ∧
        (earlier.merge later).fillable = some ["title", "body"] ∧
        (earlier.merge later).cast =
          some { entries := [("tags", "array"), ("meta", "json")] } ∧
        (earlier.merge later).observer = some { path := "App\\New" } ∧
        (earlier.merge later).comment =
          some "An entry of the journal" := by
  have first :
      parse postHeading =
        .ok
          { fillable := some ["title"]
            cast := some { entries := [("tags", "array")] }
            observer :=
              some { path := "App\\Old", alternative := some "Old" }
            comment := some "An entry" } := by
    decide +kernel
  have second :
      parse postDetails =
        .ok
          { fillable := some ["body"]
            cast := some { entries := [("meta", "json")] }
            observer := some { path := "App\\New" }
            comment := some "of the journal" } := by
    decide +kernel
  exact ⟨_, _, first, second, parse_append first second, rfl, rfl, rfl,
    rfl⟩

end Tablewright.Directive
