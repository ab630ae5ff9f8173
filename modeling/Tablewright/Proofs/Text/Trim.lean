import Mathlib.Data.List.DropRight
import Tablewright.Proofs.Text.Lines

namespace Tablewright.Text

/-!
# Trimmed texts and lines

Trimming removes blanks from both ends of a text and nothing else, and keeps a
text that has none there.  Cutting a text at a separator is undone by putting
the separator between the pieces.
-/

/-! ## Trimming -/

/-- A text neither begins nor ends with a blank. -/
structure Unpadded (text : List Char) : Prop where
  first : ∀ character ∈ text.head?, isBlank character = false
  last : ∀ character ∈ text.getLast?, isBlank character = false

/-- Two unpadded texts and anything between them are unpadded. -/
theorem Unpadded.append
    {first second : List Char}
    (unpaddedFirst : Unpadded first)
    (unpaddedSecond : Unpadded second)
    (someFirst : first ≠ [])
    (someSecond : second ≠ [])
    (between : List Char) :
    Unpadded (first ++ between ++ second) where
  first := by
    cases first with
    | nil => exact (someFirst rfl).elim
    | cons character rest => exact unpaddedFirst.first
  last := by
    rw [List.getLast?_append_of_ne_nil _ someSecond]
    exact unpaddedSecond.last

/-- A text that does not begin with a blank is not shortened in front. -/
theorem trimStart_of_unblank
    {text : List Char}
    (unblank : ∀ character ∈ text.head?, isBlank character = false) :
    trimStart text = text := by
  cases text with
  | nil => rfl
  | cons character rest =>
      simp [trimStart, unblank character rfl]

/-- A text that does not end with a blank is not shortened at the end. -/
theorem trimEnd_of_unblank
    {text : List Char}
    (unblank : ∀ character ∈ text.getLast?, isBlank character = false) :
    trimEnd text = text := by
  rcases List.eq_nil_or_concat' text with rfl | ⟨front, last, rfl⟩
  · rfl
  · have notBlank := unblank last (by simp)
    simp [trimEnd, notBlank]

/-- Blanks in front are dropped. -/
theorem trimStart_append
    {front : List Char}
    (blank : ∀ character ∈ front, isBlank character = true)
    (text : List Char) :
    trimStart (front ++ text) = trimStart text :=
  List.dropWhile_append_of_pos blank

/-- Blanks at the end are dropped. -/
theorem trimEnd_append
    {back : List Char}
    (blank : ∀ character ∈ back, isBlank character = true)
    (text : List Char) :
    trimEnd (text ++ back) = trimEnd text := by
  rw [trimEnd, List.reverse_append, List.dropWhile_append_of_pos, trimEnd]
  simpa using blank

/-- Trimming removes the blanks around an unpadded text. -/
theorem trim_padded
    {front text back : List Char}
    (blankFront : ∀ character ∈ front, isBlank character = true)
    (unpadded : Unpadded text)
    (blankBack : ∀ character ∈ back, isBlank character = true) :
    trim (front ++ text ++ back) = text := by
  rw [trim, List.append_assoc, trimStart_append blankFront]
  cases text with
  | nil =>
      have none : trimStart ([] ++ back) = [] := by
        simpa [trimStart] using blankBack
      rw [none]
      rfl
  | cons character rest =>
      have kept : trimStart (character :: (rest ++ back)) = _ :=
        trimStart_of_unblank unpadded.first
      rw [List.cons_append, kept, ← List.cons_append,
        trimEnd_append blankBack, trimEnd_of_unblank unpadded.last]

/-- An unpadded text is not changed by trimming. -/
theorem trim_of_unpadded
    {text : List Char}
    (unpadded : Unpadded text) :
    trim text = text := by
  rw [trim, trimStart_of_unblank unpadded.first,
    trimEnd_of_unblank unpadded.last]

/-- What trimming leaves of a text has blanks around it there. -/
theorem exists_trim
    (text : List Char) :
    ∃ front back,
      text = front ++ trim text ++ back ∧
        (∀ character ∈ front, isBlank character = true) ∧
        ∀ character ∈ back, isBlank character = true := by
  have start : text.takeWhile isBlank ++ trimStart text = text :=
    List.takeWhile_append_dropWhile
  have stop :
      trim text ++ (trimStart text).rtakeWhile isBlank =
        trimStart text :=
    List.rdropWhile_append_rtakeWhile
  refine ⟨text.takeWhile isBlank, (trimStart text).rtakeWhile isBlank,
    ?_, fun _ member => List.mem_takeWhile_imp member,
    fun _ member => List.mem_rtakeWhile_imp member⟩
  rw [List.append_assoc, stop, start]

/-- What trimming leaves is unpadded. -/
theorem unpadded_trim
    (text : List Char) :
    Unpadded (trim text) where
  first := by
    intro character isFirst
    obtain ⟨behind, shape⟩ :=
      List.rdropWhile_prefix isBlank (trimStart text)
    have isStart : character ∈ (trimStart text).head? := by
      rw [← shape, List.head?_append]
      exact Option.or_eq_some_iff.mpr (.inl isFirst)
    have stops := List.head?_dropWhile_not isBlank text
    rw [trimStart] at isStart
    rw [Option.mem_def.mp isStart] at stops
    simpa using stops
  last := by
    intro character isLast
    obtain ⟨given, rfl⟩ := List.mem_getLast?_eq_getLast isLast
    exact Bool.not_eq_true _ ▸
      List.rdropWhile_last_not isBlank (trimStart text) given

/-- Trimming twice is trimming once. -/
theorem trim_trim
    (text : List Char) :
    trim (trim text) = trim text :=
  trim_of_unpadded (unpadded_trim text)

/-- A blank in front of a text is dropped. -/
theorem trim_cons_of_blank
    {blank : Char}
    (isBlank : isBlank blank = true)
    (text : List Char) :
    trim (blank :: text) = trim text := by
  simp [trim, trimStart, isBlank]

/-- A text without blanks is unpadded. -/
theorem unpadded_of_unblank
    {text : List Char}
    (unblank : ∀ character ∈ text, isBlank character = false) :
    Unpadded text where
  first := fun character isFirst =>
    unblank character (List.mem_of_head? isFirst)
  last := fun character isLast =>
    unblank character (List.mem_of_getLast? isLast)

/-! ## Pieces -/

/-- Cutting at a separator is splitting there. -/
theorem cut_eq_splitOn
    (separator : Char)
    (text : List Char) :
    cut separator text = text.splitOn separator := by
  induction text with
  | nil => rfl
  | cons character rest inductionHypothesis =>
      rw [List.splitOn_cons_eq_if_modifyHead, ← inductionHypothesis, cut]
      cases found : cut separator rest with
      | nil => exact (cut_ne_nil separator rest found).elim
      | cons piece pieces => simp

/-- The separator between the pieces of a text makes it up again. -/
theorem intercalate_cut
    (separator : Char)
    (text : List Char) :
    [separator].intercalate (cut separator text) = text := by
  rw [cut_eq_splitOn, List.intercalate_splitOn]

/-- A text without the separator is one piece. -/
theorem cut_of_not_mem
    {separator : Char}
    {text : List Char}
    (absent : separator ∉ text) :
    cut separator text = [text] := by
  rw [cut_eq_splitOn, List.splitOn_eq_singleton absent]

/-- No piece holds the separator. -/
theorem not_mem_of_mem_cut
    {separator : Char}
    {text piece : List Char}
    (member : piece ∈ cut separator text) :
    separator ∉ piece := by
  induction text generalizing piece with
  | nil =>
      obtain rfl := List.mem_singleton.mp member
      exact List.not_mem_nil
  | cons character rest inductionHypothesis =>
      rw [cut_cons] at member
      split at member
      · rcases List.mem_cons.mp member with rfl | later
        · exact List.not_mem_nil
        · exact inductionHypothesis later
      · rename_i different
        rcases List.mem_cons.mp member with rfl | later
        · have absent := inductionHypothesis
            (List.head_mem (cut_ne_nil separator rest))
          simp [absent, Ne.symm different]
        · exact inductionHypothesis (List.mem_of_mem_tail later)

/-- Pieces with separators between them are shorter by one than pieces with
separators behind each of them. -/
theorem length_intercalate
    (separator : Char)
    (pieces : List (List Char)) :
    ([separator].intercalate pieces).length =
      (pieces.flatMap (· ++ [separator])).length - 1 := by
  induction pieces with
  | nil => rfl
  | cons piece pieces inductionHypothesis =>
      cases pieces with
      | nil => simp
      | cons next others =>
          rw [List.intercalate_cons_cons, List.length_append,
            List.length_append, inductionHypothesis]
          simp only [List.flatMap_cons, List.length_append,
            List.length_singleton]
          omega

/-- Unpadded pieces make up an unpadded text. -/
theorem unpadded_intercalate
    {pieces : List (List Char)}
    (given : pieces ≠ [])
    (unpadded : ∀ piece ∈ pieces, Unpadded piece ∧ piece ≠ [])
    (separator : Char) :
    Unpadded ([separator].intercalate pieces) ∧
      [separator].intercalate pieces ≠ [] := by
  induction pieces with
  | nil => exact (given rfl).elim
  | cons piece pieces inductionHypothesis =>
      obtain ⟨isUnpadded, isGiven⟩ := unpadded piece List.mem_cons_self
      cases pieces with
      | nil =>
          rw [List.intercalate_singleton]
          exact ⟨isUnpadded, isGiven⟩
      | cons next others =>
          obtain ⟨later, more⟩ := inductionHypothesis (List.cons_ne_nil _ _)
            fun other member => unpadded other (List.mem_cons_of_mem _ member)
          rw [List.intercalate_cons_cons]
          exact ⟨isUnpadded.append later isGiven more _, by simp⟩

/-- What neither a piece nor the separator holds is not in the text that they
make up. -/
theorem not_mem_intercalate
    {character separator : Char}
    {pieces : List (List Char)}
    (absent : ∀ piece ∈ pieces, character ∉ piece)
    (different : character ≠ separator) :
    character ∉ [separator].intercalate pieces := by
  induction pieces with
  | nil => exact List.not_mem_nil
  | cons piece pieces inductionHypothesis =>
      have isAbsent := absent piece List.mem_cons_self
      cases pieces with
      | nil => simpa using isAbsent
      | cons next others =>
          have later := inductionHypothesis fun other member =>
            absent other (List.mem_cons_of_mem _ member)
          rw [List.intercalate_cons_cons]
          simp [isAbsent, different, later]

end Tablewright.Text
