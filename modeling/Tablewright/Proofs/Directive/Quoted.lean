import Tablewright.Directive.Content
import Tablewright.Proofs.Text.Trim

namespace Tablewright.Directive

/-!
# Quoted texts

A quoted text is opaque: whatever stands between the quotation marks, the
readers of groups, of parts and of names pass it as one.  Parts that are joined
by commas are the parts that a body is cut into, if the readers pass each of
them.
-/

/-- A text in quotation marks. -/
def quoted (mark : Char) (text : List Char) : List Char :=
  mark :: (text ++ [mark])

/-- Between quotation marks, a text without this mark and without a backslash
stands as it is. -/
structure Quotable (mark : Char) (text : List Char) : Prop where
  unmarked : mark ∉ text
  unescaped : '\\' ∉ text

instance (mark : Char) (text : List Char) : Decidable (Quotable mark text) :=
  decidable_of_iff (mark ∉ text ∧ '\\' ∉ text)
    ⟨fun ⟨unmarked, unescaped⟩ => ⟨unmarked, unescaped⟩,
      fun quotable => ⟨quotable.unmarked, quotable.unescaped⟩⟩

theorem quotable_cons_iff
    {mark character : Char}
    {text : List Char} :
    Quotable mark (character :: text) ↔
      (character ≠ mark ∧ character ≠ '\\') ∧ Quotable mark text := by
  constructor
  · rintro ⟨unmarked, unescaped⟩
    rw [List.mem_cons, not_or] at unmarked unescaped
    exact ⟨⟨Ne.symm unmarked.1, Ne.symm unescaped.1⟩,
      unmarked.2, unescaped.2⟩
  · rintro ⟨⟨noMark, noEscape⟩, unmarked, unescaped⟩
    constructor
    · exact List.not_mem_cons_of_ne_of_not_mem (Ne.symm noMark) unmarked
    · exact List.not_mem_cons_of_ne_of_not_mem (Ne.symm noEscape) unescaped

theorem Quotable.append
    {mark : Char}
    {first second : List Char}
    (quotableFirst : Quotable mark first)
    (quotableSecond : Quotable mark second) :
    Quotable mark (first ++ second) where
  unmarked := by
    simp [quotableFirst.unmarked, quotableSecond.unmarked]
  unescaped := by
    simp [quotableFirst.unescaped, quotableSecond.unescaped]

theorem isQuote_eq_true_iff
    {mark : Char} :
    isQuote mark = true ↔ mark = '\'' ∨ mark = '"' := by
  simp [isQuote]

/-- Blanks stand as they are between quotation marks. -/
theorem quotable_of_blank
    {mark : Char}
    (isMark : isQuote mark = true)
    {text : List Char}
    (blank : ∀ character ∈ text, Text.isBlank character = true) :
    Quotable mark text := by
  constructor
  · intro member
    have isBlank := blank mark member
    rcases isQuote_eq_true_iff.mp isMark with rfl | rfl <;>
      exact absurd isBlank (by decide)
  · intro member
    exact absurd (blank _ member) (by decide)

/-- Outside quotation marks, a character that is no mark changes nothing. -/
theorem Quoting.next_outside
    {character : Char}
    (unquoted : isQuote character = false) :
    Quoting.next .outside character = .outside := by
  simp [Quoting.next, unquoted]

/-- A mark begins a quoted text. -/
theorem Quoting.next_outside_mark
    {mark : Char}
    (isMark : isQuote mark = true) :
    Quoting.next .outside mark = .inside mark := by
  simp [Quoting.next, isMark]

/-- Within quotation marks, an ordinary character changes nothing. -/
theorem Quoting.next_inside
    {mark character : Char}
    (ordinary : character ≠ mark ∧ character ≠ '\\') :
    Quoting.next (.inside mark) character = .inside mark := by
  simp [Quoting.next, ordinary]

/-- The same mark ends a quoted text. -/
theorem Quoting.next_inside_self
    {mark : Char}
    (isMark : isQuote mark = true) :
    Quoting.next (.inside mark) mark = .outside := by
  rcases isQuote_eq_true_iff.mp isMark with rfl | rfl <;> rfl

/-- What may stand between two quotation marks of one kind: a backslash
protects the character behind it, and an unprotected mark is not among them. -/
inductive Guarded (mark : Char) : List Char → Prop where
  | nil : Guarded mark []
  | plain {character : Char} {rest : List Char}
      (ordinary : character ≠ mark ∧ character ≠ '\\')
      (behind : Guarded mark rest) :
      Guarded mark (character :: rest)
  | escape (character : Char) {rest : List Char}
      (behind : Guarded mark rest) :
      Guarded mark ('\\' :: character :: rest)

/-- A text without the mark and without a backslash needs no protection. -/
theorem Quotable.guarded
    {mark : Char}
    {text : List Char}
    (quotable : Quotable mark text) :
    Guarded mark text := by
  induction text with
  | nil => exact .nil
  | cons character text inductionHypothesis =>
      obtain ⟨ordinary, later⟩ := quotable_cons_iff.mp quotable
      exact .plain ordinary (inductionHypothesis later)

/-- A reader that takes every character within quotation marks, and the marks
themselves, takes a quoted text as a whole. -/
theorem read_quoted
    {Result : Type}
    {read : Quoting → List Char → Result}
    {take : Char → Result → Result}
    (takes :
      ∀ quoting character rest,
        quoting ≠ .outside ∨ isQuote character = true →
          read quoting (character :: rest) =
            take character (read (quoting.next character) rest))
    {mark : Char}
    {text : List Char}
    (isMark : isQuote mark = true)
    (guarded : Guarded mark text)
    (rest : List Char) :
    read .outside (quoted mark text ++ rest) =
      (quoted mark text).foldr take (read .outside rest) := by
  have inside :
      read (.inside mark) (text ++ mark :: rest) =
        (text ++ [mark]).foldr take (read .outside rest) := by
    induction guarded with
    | nil =>
        rw [List.nil_append, takes _ _ _ (.inr isMark),
          Quoting.next_inside_self isMark]
        rfl
    | plain ordinary _ inductionHypothesis =>
        rw [List.cons_append, takes _ _ _ (.inl (by simp)),
          Quoting.next_inside ordinary, inductionHypothesis]
        rfl
    | escape character _ inductionHypothesis =>
        have opened : Quoting.next (.inside mark) '\\' = .escaped mark := rfl
        have closed : Quoting.next (.escaped mark) character =
            .inside mark := rfl
        rw [List.cons_append, takes _ _ _ (.inl (by simp)), opened,
          List.cons_append, takes _ _ _ (.inl (by simp)), closed,
          inductionHypothesis]
        rfl
  have shape : quoted mark text ++ rest = mark :: (text ++ mark :: rest) := by
    simp [quoted]
  rw [shape, takes _ _ _ (.inr isMark), Quoting.next_outside_mark isMark,
    inside]
  rfl

/-! ## Groups -/

/-- The reader of groups passes a text and goes on behind it. -/
def GroupPasses (text : List Char) : Prop :=
  ∀ closers rest,
    readGroup closers .outside (text ++ rest) =
      (readGroup closers .outside rest).map fun (inner, behind) =>
        (text ++ inner, behind)

namespace GroupPasses

theorem nil : GroupPasses [] := by
  intro closers rest
  rw [List.nil_append]
  cases readGroup closers .outside rest <;> rfl

theorem append
    {first second : List Char}
    (passesFirst : GroupPasses first)
    (passesSecond : GroupPasses second) :
    GroupPasses (first ++ second) := by
  intro closers rest
  rw [List.append_assoc, passesFirst, passesSecond]
  cases readGroup closers .outside rest with
  | error cause => rfl
  | ok pair => simp [Except.map]

/-- Parts and a separator that are passed are passed together. -/
theorem intercalate
    {separator : List Char}
    (passes : GroupPasses separator)
    {parts : List (List Char)}
    (passesParts : ∀ part ∈ parts, GroupPasses part) :
    GroupPasses (separator.intercalate parts) := by
  induction parts with
  | nil => exact .nil
  | cons part parts inductionHypothesis =>
      have first := passesParts part List.mem_cons_self
      cases parts with
      | nil => simpa using first
      | cons next others =>
          rw [List.intercalate_cons_cons]
          exact (first.append passes).append (inductionHypothesis
            fun other member =>
              passesParts other (List.mem_cons_of_mem _ member))

/-- A group ends behind a text that is passed. -/
theorem readGroup_eq
    {text : List Char}
    (passes : GroupPasses text)
    {closer : Char}
    (unquoted : isQuote closer = false)
    (unopened : closerOf? closer = none)
    (closes : isCloser closer = true)
    (rest : List Char) :
    readGroup [closer] .outside (text ++ closer :: rest) =
      .ok (text, rest) := by
  have last :
      readGroup [closer] .outside (closer :: rest) = .ok ([], rest) := by
    simp [readGroup, unquoted, unopened, closes]
  rw [passes, last]
  simp [Except.map]

end GroupPasses

/-- Within quotation marks, and at a mark, every character belongs to the
group. -/
theorem readGroup_of_quoting
    {quoting : Quoting}
    {character : Char}
    (within : quoting ≠ .outside ∨ isQuote character = true)
    (closers rest : List Char) :
    readGroup closers quoting (character :: rest) =
      (readGroup closers (quoting.next character) rest).map
        fun (inner, behind) => (character :: inner, behind) := by
  simp only [readGroup, if_pos within]

/-- Put a character in front of the inner text of a group. -/
def takeInGroup (character : Char) (reading : Reading (List Char × List Char)) :
    Reading (List Char × List Char) :=
  reading.map fun (inner, behind) => (character :: inner, behind)

/-- Putting characters in front of the inner text, one by one. -/
theorem foldr_takeInGroup
    (characters : List Char)
    (reading : Reading (List Char × List Char)) :
    characters.foldr takeInGroup reading =
      reading.map fun (inner, behind) => (characters ++ inner, behind) := by
  induction characters with
  | nil => cases reading <;> rfl
  | cons character characters inductionHypothesis =>
      rw [List.foldr_cons, inductionHypothesis]
      cases reading <;> rfl

/-- A group goes on behind a quoted text. -/
theorem groupPasses_quoted
    {mark : Char}
    {text : List Char}
    (isMark : isQuote mark = true)
    (guarded : Guarded mark text) :
    GroupPasses (quoted mark text) := by
  intro closers rest
  rw [← foldr_takeInGroup]
  exact read_quoted
    (fun _ _ rest within => readGroup_of_quoting within closers rest)
    isMark guarded rest

/-- A character that is neither a bracket nor a quotation mark is passed. -/
theorem groupPasses_singleton
    {character : Char}
    (unquoted : isQuote character = false)
    (unopened : closerOf? character = none)
    (unclosed : isCloser character = false) :
    GroupPasses [character] := by
  intro closers rest
  simp [readGroup, unquoted, unopened, unclosed,
    Quoting.next_outside unquoted]

/-- Parts with commas and spaces between them are passed together. -/
theorem groupPasses_separated
    {parts : List (List Char)}
    (passes : ∀ part ∈ parts, GroupPasses part) :
    GroupPasses ([',', ' '].intercalate parts) := by
  have separator : GroupPasses ([','] ++ [' ']) :=
    (groupPasses_singleton rfl rfl rfl).append
      (groupPasses_singleton rfl rfl rfl)
  exact separator.intercalate passes

/-! ## Parts -/

/-- The reader of parts takes a text as one and goes on behind it. -/
def PartPasses (text : List Char) : Prop :=
  ∀ depth rest,
    splitFrom depth .outside (text ++ rest) =
      text.foldr consFirst (splitFrom depth .outside rest)

namespace PartPasses

theorem nil : PartPasses [] := by
  intro depth rest
  rfl

theorem append
    {first second : List Char}
    (passesFirst : PartPasses first)
    (passesSecond : PartPasses second) :
    PartPasses (first ++ second) := by
  intro depth rest
  rw [List.append_assoc, passesFirst, passesSecond, List.foldr_append]

end PartPasses

/-- Putting characters in front of the first part, one by one. -/
theorem foldr_consFirst
    (characters part : List Char)
    (parts : List (List Char)) :
    characters.foldr consFirst (part :: parts) =
      (characters ++ part) :: parts := by
  induction characters with
  | nil => rfl
  | cons character characters inductionHypothesis =>
      rw [List.foldr_cons, inductionHypothesis]
      rfl

/-- Parts that are passed are those that a body is cut into. -/
theorem splitTopLevel_intercalate
    {parts : List (List Char)}
    (given : parts ≠ [])
    (passes : ∀ part ∈ parts, PartPasses part) :
    splitTopLevel ([','].intercalate parts) = parts := by
  induction parts with
  | nil => exact (given rfl).elim
  | cons part parts inductionHypothesis =>
      have first := passes part List.mem_cons_self 0
      cases parts with
      | nil =>
          have last := first []
          rw [List.append_nil, splitFrom, foldr_consFirst,
            List.append_nil] at last
          simpa [splitTopLevel] using last
      | cons next others =>
          have later := inductionHypothesis (List.cons_ne_nil _ _)
            fun other member => passes other (List.mem_cons_of_mem _ member)
          rw [splitTopLevel] at later
          rw [List.intercalate_cons_cons, List.append_assoc, splitTopLevel,
            first, List.singleton_append, splitFrom,
            if_pos ⟨rfl, rfl, rfl⟩, later, foldr_consFirst, List.append_nil]

/-- Parts with a comma and a space between them are parts with a comma
between them, all but the first with a space in front. -/
theorem intercalate_comma_space
    (part : List Char)
    (parts : List (List Char)) :
    [',', ' '].intercalate (part :: parts) =
      [','].intercalate (part :: parts.map (' ' :: ·)) := by
  induction parts generalizing part with
  | nil => simp
  | cons next others inductionHypothesis =>
      rw [List.intercalate_cons_cons, inductionHypothesis, List.map_cons,
        List.intercalate_cons_cons]
      cases others <;> simp

/-- Within quotation marks, and at a mark, every character belongs to the
part. -/
theorem splitFrom_of_quoting
    {depth : Nat}
    {quoting : Quoting}
    {character : Char}
    (within : quoting ≠ .outside ∨ isQuote character = true)
    (rest : List Char) :
    splitFrom depth quoting (character :: rest) =
      consFirst character
        (splitFrom depth (quoting.next character) rest) := by
  have level : depthAfter quoting depth character = depth := by
    cases quoting with
    | outside =>
        rcases isQuote_eq_true_iff.mp (within.resolve_left (by simp)) with
          rfl | rfl <;> rfl
    | inside mark => rfl
    | escaped mark => rfl
  have uncut : ¬ (quoting = .outside ∧ depth = 0 ∧ character = ',') := by
    rintro ⟨isOutside, _, rfl⟩
    exact within.elim (fun inside => inside isOutside) (by decide)
  rw [splitFrom, if_neg uncut, level]

/-- A part goes on behind a quoted text. -/
theorem partPasses_quoted
    {mark : Char}
    {text : List Char}
    (isMark : isQuote mark = true)
    (guarded : Guarded mark text) :
    PartPasses (quoted mark text) := by
  intro depth rest
  exact read_quoted (fun _ _ rest within => splitFrom_of_quoting within rest)
    isMark guarded rest

/-- A character that is neither a comma, a bracket nor a quotation mark is
passed. -/
theorem partPasses_singleton
    {character : Char}
    (unquoted : isQuote character = false)
    (unopened : closerOf? character = none)
    (unclosed : isCloser character = false)
    (noComma : character ≠ ',') :
    PartPasses [character] := by
  intro depth rest
  simp [splitFrom, noComma, depthAfter, unopened, unclosed,
    Quoting.next_outside unquoted]

/-- Parts with commas and spaces between them are those that a body is cut
into, all but the first with a space in front. -/
theorem splitTopLevel_separated
    {part : List Char}
    {parts : List (List Char)}
    (passes : ∀ other ∈ part :: parts, PartPasses other) :
    splitTopLevel ([',', ' '].intercalate (part :: parts)) =
      part :: parts.map (' ' :: ·) := by
  rw [intercalate_comma_space]
  apply splitTopLevel_intercalate (List.cons_ne_nil _ _)
  intro other member
  rcases List.mem_cons.mp member with isFirst | later
  · exact isFirst ▸ passes part List.mem_cons_self
  · obtain ⟨next, isNext, rfl⟩ := List.mem_map.mp later
    have space : PartPasses [' '] :=
      partPasses_singleton rfl rfl rfl (by decide)
    exact space.append (passes next (List.mem_cons_of_mem _ isNext))

/-- Up to the blanks around them, the parts that a body is cut into are those
that were written with commas and spaces between them. -/
theorem map_trim_splitTopLevel
    {parts : List (List Char)}
    (given : parts ≠ [])
    (passes : ∀ part ∈ parts, PartPasses part) :
    (splitTopLevel ([',', ' '].intercalate parts)).map Text.trim =
      parts.map Text.trim := by
  cases parts with
  | nil => exact (given rfl).elim
  | cons part parts =>
      have spaced :
          ∀ next ∈ parts, Text.trim (' ' :: next) = Text.trim next :=
        fun next _ => Text.trim_cons_of_blank (by decide) next
      rw [splitTopLevel_separated passes, List.map_cons, List.map_cons,
        List.map_map]
      exact congrArg _ (List.map_congr_left spaced)

/-! ## Names -/

/-- The blanks around a part do not belong to its name. -/
theorem plainText_trim
    (part : List Char) :
    plainText (Text.trim part) = plainText part := by
  simp [plainText, unquote, Text.trim_trim]

/-- A text in quotation marks neither begins nor ends with a blank. -/
theorem unpadded_quoted
    {mark : Char}
    (isMark : isQuote mark = true)
    (text : List Char) :
    Text.Unpadded (quoted mark text) := by
  have unblank : Text.isBlank mark = false := by
    rcases isQuote_eq_true_iff.mp isMark with rfl | rfl <;> decide
  constructor <;> simp [quoted, List.getLast?_cons, unblank]

/-- A quoted text with blanks in front of it stands for the text. -/
theorem unquote_quoted
    {front : List Char}
    {mark : Char}
    (blank : ∀ character ∈ front, Text.isBlank character = true)
    (isMark : isQuote mark = true)
    (text : List Char) :
    unquote (front ++ quoted mark text) = text := by
  have trimmed : Text.trim (front ++ quoted mark text) =
      quoted mark text := by
    have padded := Text.trim_padded blank (unpadded_quoted isMark text)
      (fun _ none => (List.not_mem_nil none).elim)
    rwa [List.append_nil] at padded
  have enclosed : isEnclosedBy mark (quoted mark text) = true := by
    simp [isEnclosedBy, quoted, List.getLast?_cons]
  have marked :
      (isEnclosedBy '\'' (quoted mark text) ||
        isEnclosedBy '"' (quoted mark text)) = true := by
    rcases isQuote_eq_true_iff.mp isMark with rfl | rfl
    · rw [enclosed, Bool.true_or]
    · rw [enclosed, Bool.or_true]
  rw [unquote, trimmed, if_pos marked]
  simp [quoted]

/-- The name of a quoted text is the text. -/
theorem plainText_quoted
    (front : List Char)
    {mark : Char}
    (blank : ∀ character ∈ front, Text.isBlank character = true)
    (isMark : isQuote mark = true)
    (name : String) :
    plainText (front ++ quoted mark name.toList) = name := by
  rw [plainText, unquote_quoted blank isMark, String.ofList_toList]

end Tablewright.Directive
