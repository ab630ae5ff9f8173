import Tablewright.Proofs.Directive.Chunk

namespace Tablewright.Directive

/-!
# Parts between commas

Cutting a body at its commas and joining parts with commas undo each other.
What is cut is joined to the body again, whatever the body is; what is joined
is cut into the same parts, if every part is closed and has no comma outside
its brackets and quotation marks.
-/

/-- An opening and a closing bracket.  The reader of parts counts brackets, so
their kinds do not matter. -/
def AnyKind (opener closer : Char) : Prop :=
  (closerOf? opener).isSome = true ∧ isCloser closer = true

instance (opener closer : Char) : Decidable (AnyKind opener closer) :=
  inferInstanceAs (Decidable (_ ∧ _))

/-- A closed text without a comma outside its brackets and quotation marks: no
chunk of it is a comma. -/
inductive IsPart : List Char → Prop where
  | nil : IsPart []
  | cons {chunk rest : List Char}
      (isChunk : Chunk AnyKind chunk)
      (noComma : chunk ≠ [','])
      (behind : IsPart rest) :
      IsPart (chunk ++ rest)

/-- Loose characters that are no commas in front of a part. -/
theorem IsPart.loose
    {front rest : List Char}
    (areLoose : front.all isLoose = true)
    (noComma : ',' ∉ front)
    (behind : IsPart rest) :
    IsPart (front ++ rest) := by
  induction front with
  | nil => exact behind
  | cons character front inductionHypothesis =>
      obtain ⟨isFirst, areOthers⟩ := Bool.and_eq_true_iff.mp areLoose
      obtain ⟨notFirst, notOthers⟩ :=
        not_or.mp (mt List.mem_cons.mpr noComma)
      have differs : [character] ≠ [','] := fun same =>
        notFirst (List.singleton_inj.mp same).symm
      have whole : IsPart ([character] ++ (front ++ rest)) :=
        .cons (.single isFirst) differs
          (inductionHypothesis areOthers notOthers)
      exact whole

/-! ## Parts are passed -/

/-- What the reader of parts sees in brackets. -/
theorem of_anyKind
    {opener closer : Char}
    (pair : AnyKind opener closer) :
    (isQuote opener = false ∧ opener ≠ ',') ∧
      (isQuote closer = false ∧ closer ≠ ',') ∧
      closerOf? closer = none := by
  obtain ⟨opens, closes⟩ := pair
  refine ⟨?_, ?_⟩
  · unfold closerOf? at opens
    split at opens
    · decide
    · decide
    · decide
    · cases opens
  · simp only [isCloser, Bool.or_eq_true, beq_iff_eq] at closes
    rcases closes with (rfl | rfl) | rfl <;> decide

/-- An opening bracket leads one level down. -/
theorem splitFrom_opening
    {opener closer : Char}
    (pair : AnyKind opener closer)
    (depth : Nat)
    (rest : List Char) :
    splitFrom depth .outside (opener :: rest) =
      consFirst opener (splitFrom (depth + 1) .outside rest) := by
  obtain ⟨⟨unquoted, noComma⟩, _⟩ := of_anyKind pair
  have deeper : depthAfter .outside depth opener = depth + 1 :=
    if_pos pair.1
  rw [splitFrom, if_neg (fun cut => noComma cut.2.2),
    Quoting.next_outside unquoted, deeper]

/-- A closing bracket leads one level up. -/
theorem splitFrom_closing
    {opener closer : Char}
    (pair : AnyKind opener closer)
    (depth : Nat)
    (rest : List Char) :
    splitFrom (depth + 1) .outside (closer :: rest) =
      consFirst closer (splitFrom depth .outside rest) := by
  obtain ⟨_, ⟨unquoted, noComma⟩, unopened⟩ := of_anyKind pair
  have higher : depthAfter .outside (depth + 1) closer = depth := by
    simp [depthAfter, unopened, pair.2]
  rw [splitFrom, if_neg (fun cut => noComma cut.2.2),
    Quoting.next_outside unquoted, higher]

/-- Within brackets, the reader of parts takes chunks as a whole, commas
among them. -/
theorem takesChunks_splitFrom :
    TakesChunks AnyKind (fun depth => splitFrom (depth + 1)) consFirst where
  quoting := fun _ _ _ rest quotes => splitFrom_of_quoting quotes rest
  single := by
    intro depth character rest loose
    obtain ⟨unquoted, unopened, unclosed⟩ := isLoose_eq_true_iff.mp loose
    have level :
        depthAfter .outside (depth + 1) character = depth + 1 := by
      simp [depthAfter, unopened, unclosed]
    rw [splitFrom, if_neg (fun cut => Nat.succ_ne_zero depth cut.2.1),
      Quoting.next_outside unquoted, level]
  brackets := fun depth _ _ pair =>
    ⟨depth + 1, splitFrom_opening pair (depth + 1),
      splitFrom_closing pair (depth + 1)⟩

/-- The reader of parts passes a chunk that is no comma. -/
theorem partPasses_of_chunk
    {chunk : List Char}
    (isChunk : Chunk AnyKind chunk)
    (noComma : chunk ≠ [',']) :
    PartPasses chunk := by
  cases isChunk with
  | single loose =>
      obtain ⟨unquoted, unopened, unclosed⟩ := isLoose_eq_true_iff.mp loose
      exact partPasses_singleton unquoted unopened unclosed
        fun isComma => noComma (congrArg ([·]) isComma)
  | quoted isMark guarded => exact partPasses_quoted isMark guarded
  | @group opener closer chunks pair inside =>
      intro depth rest
      have inner := takesChunks_splitFrom.read_closed ⟨chunks, inside, rfl⟩
        depth (closer :: rest)
      rw [List.cons_append, splitFrom_opening pair, List.append_assoc,
        List.singleton_append, inner, splitFrom_closing pair,
        List.foldr_cons, List.foldr_append]
      rfl

theorem IsPart.passes
    {part : List Char}
    (isPart : IsPart part) :
    PartPasses part := by
  induction isPart with
  | nil => exact .nil
  | cons isChunk noComma _ inductionHypothesis =>
      exact (partPasses_of_chunk isChunk noComma).append inductionHypothesis

/-! ## Cutting and joining -/

/-- A character in front of the first part is in front of the joined text. -/
theorem joinWithCommas_consFirst
    (character : Char)
    (parts : List (List Char)) :
    joinWithCommas (consFirst character parts) =
      character :: joinWithCommas parts := by
  cases parts with
  | nil => rfl
  | cons part others => cases others <;> rfl

theorem joinWithCommas_eq_intercalate
    (parts : List (List Char)) :
    joinWithCommas parts = [','].intercalate parts := by
  induction parts with
  | nil => rfl
  | cons part others inductionHypothesis =>
      cases others with
      | nil => simp [joinWithCommas]
      | cons next others =>
          rw [joinWithCommas, inductionHypothesis,
            List.intercalate_cons_cons, List.append_assoc,
            List.singleton_append]
          exact List.cons_ne_nil _ _

/-- There is always a part, if an empty one. -/
theorem splitFrom_ne_nil
    (depth : Nat)
    (quoting : Quoting)
    (text : List Char) :
    splitFrom depth quoting text ≠ [] := by
  cases text with
  | nil => exact List.cons_ne_nil _ _
  | cons character rest =>
      rw [splitFrom]
      split
      · exact List.cons_ne_nil _ _
      · unfold consFirst
        split <;> exact List.cons_ne_nil _ _

/-- Whatever state the cutting begins in, joining the parts gives the text
back. -/
theorem joinWithCommas_splitFrom
    (depth : Nat)
    (quoting : Quoting)
    (text : List Char) :
    joinWithCommas (splitFrom depth quoting text) = text := by
  induction text generalizing depth quoting with
  | nil => rfl
  | cons character rest inductionHypothesis =>
      rw [splitFrom]
      split
      · rename_i isComma
        obtain rfl := isComma.2.2
        obtain ⟨part, others, shape⟩ :=
          List.exists_cons_of_ne_nil (splitFrom_ne_nil 0 .outside rest)
        have joined := inductionHypothesis 0 .outside
        rw [shape] at joined ⊢
        exact congrArg (',' :: ·) joined
      · rw [joinWithCommas_consFirst, inductionHypothesis]

/--
Cutting at commas and joining with commas undo each other.

The parts of every text, joined, are the text.  Parts that are closed and have
no comma outside their brackets and quotation marks, at least one of them, are
what their joined text is cut into.
-/
theorem splitTopLevel_inverse :
    (∀ text, joinWithCommas (splitTopLevel text) = text) ∧
      ∀ parts, parts ≠ [] → (∀ part ∈ parts, IsPart part) →
        splitTopLevel (joinWithCommas parts) = parts := by
  refine ⟨joinWithCommas_splitFrom 0 .outside, ?_⟩
  intro parts given areParts
  rw [joinWithCommas_eq_intercalate]
  exact splitTopLevel_intercalate given fun part member =>
    (areParts part member).passes

/-- Parts with a comma and a mark in quotes, with nothing in them, and with
brackets of two kinds around a comma. -/
def unusualParts : List (List Char) :=
  ["name: 'a\\', b'".toList, [], "(x, [y)]".toList]

theorem isPart_of_mem_unusualParts :
    ∀ part ∈ unusualParts, IsPart part := by
  have text : Guarded '\'' "a\\', b".toList :=
    .plain (by decide) (.escape '\'' (.plain (by decide)
      (.plain (by decide) (.plain (by decide) .nil))))
  have named : IsPart ("name: ".toList ++ (quoted '\'' _ ++ [])) :=
    .loose (by decide) (by decide) (.cons (.quoted rfl text) (by decide) .nil)
  have inner : Closed AnyKind (['y'] ++ []) := .loose (by decide) .nil
  have listed : Chunk AnyKind "[y)".toList := inner.chunk (by decide)
  have outer : Closed AnyKind ("x, ".toList ++ ("[y)".toList ++ [])) :=
    .loose (by decide) (.prepend listed .nil)
  have called : Chunk AnyKind "(x, [y)]".toList := outer.chunk (by decide)
  have whole : IsPart ("(x, [y)]".toList ++ []) :=
    .cons called (by decide) .nil
  simp only [unusualParts, List.forall_mem_cons]
  exact ⟨named, .nil, whole, fun _ none => (List.not_mem_nil none).elim⟩

/-- Unusual parts are found again, and so is a text that closes nothing. -/
theorem splitTopLevel_inverse_unusual :
    (unusualParts ≠ [] ∧ ∀ part ∈ unusualParts, IsPart part) ∧
      splitTopLevel (joinWithCommas unusualParts) = unusualParts ∧
      joinWithCommas (splitTopLevel "a), (b, 'c".toList) =
        "a), (b, 'c".toList := by
  have given : unusualParts ≠ [] := List.cons_ne_nil _ _
  obtain ⟨joins, cuts⟩ := splitTopLevel_inverse
  exact ⟨⟨given, isPart_of_mem_unusualParts⟩,
    cuts unusualParts given isPart_of_mem_unusualParts, joins _⟩

end Tablewright.Directive
