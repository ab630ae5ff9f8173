import Tablewright.Text.Pieces

namespace Tablewright.Text

/-!
# Endings and separators

A text without its ending is what stands in front of the ending.  A text is
cut at the first place where a whole separator stands, so whatever cannot
begin the separator is passed.
-/

/-! ## Endings -/

/-- Dropping an ending undoes appending it. -/
theorem withoutEnding?_eq_some_iff
    {ending text base : String} :
    withoutEnding? ending text = some base ↔ text = base ++ ending := by
  simp only [withoutEnding?, List.isSuffixOf_iff_suffix]
  constructor
  · intro dropped
    split at dropped
    · rename_i ends
      obtain ⟨front, shape⟩ := ends
      obtain rfl := Option.some.inj dropped
      apply String.toList_inj.mp
      simp [← shape]
    · cases dropped
  · rintro rfl
    simp

/-- A text without an ending does not end that way. -/
theorem withoutEnding?_eq_none_iff
    {ending text : String} :
    withoutEnding? ending text = none ↔
      ∀ base, text ≠ base ++ ending := by
  constructor
  · intro absent base same
    rw [withoutEnding?_eq_some_iff.mpr same] at absent
    cases absent
  · intro never
    cases dropped : withoutEnding? ending text with
    | none => rfl
    | some base =>
        exact (never base
          (withoutEnding?_eq_some_iff.mp dropped)).elim

/-! ## Separators -/

section Separator

variable {first second : Char} {more : List Char}

/-- A text in which the separator does not begin is passed. -/
theorem cutFirst?_append_of_not_mem
    {front : List Char}
    (absent : first ∉ front)
    (rest : List Char) :
    cutFirst? (first :: more) (front ++ rest) =
      (cutFirst? (first :: more) rest).map fun parts =>
        (front ++ parts.1, parts.2) := by
  induction front with
  | nil => simp
  | cons character front inductionHypothesis =>
      rw [List.mem_cons, not_or] at absent
      obtain ⟨different, later⟩ := absent
      rw [List.cons_append, cutFirst?, inductionHypothesis later]
      simp [different, Function.comp_def]

/-- A text is passed if the second character of the separator does not follow
any of its characters. -/
theorem cutFirst?_append_of_not_follows
    {front : List Char}
    (absent : second ∉ front)
    {rest : List Char}
    (apart : rest.head? ≠ some second) :
    cutFirst? (first :: second :: more) (front ++ rest) =
      (cutFirst? (first :: second :: more) rest).map fun parts =>
        (front ++ parts.1, parts.2) := by
  induction front with
  | nil => simp
  | cons character front inductionHypothesis =>
      have later : second ∉ front := fun member =>
        absent (List.mem_cons_of_mem _ member)
      have follows : (front ++ rest).head? ≠ some second := by
        cases front with
        | nil => exact apart
        | cons next others => simpa using fun same => later (by simp [same])
      have unmatched :
          (first :: second :: more).isPrefixOf
            (character :: (front ++ rest)) = false := by
        cases behind : front ++ rest with
        | nil => simp [List.isPrefixOf]
        | cons next others =>
            rw [behind] at follows
            have different : second ≠ next := fun same =>
              follows (congrArg some same.symm)
            simp [List.isPrefixOf, different]
      rw [List.cons_append, cutFirst?, unmatched,
        inductionHypothesis later]
      simp [Function.comp_def]

/-- A text is cut at a separator in front. -/
theorem cutFirst?_separator
    (separator rest : List Char) :
    cutFirst? separator (separator ++ rest) = some ([], rest) := by
  cases separator with
  | nil => cases rest <;> simp [cutFirst?]
  | cons first more => simp [cutFirst?]

end Separator

end Tablewright.Text
