import Mathlib.Data.List.Nodup
import Mathlib.Data.List.Sort
import Mathlib.Data.String.Basic
import Tablewright.Text.Order

namespace Tablewright.Text

/-!
# Sorted and distinct texts

`sortedDistinct` lists the members of a list in strictly increasing order,
and `firstOccurrences` lists them without repetition.  Both keep exactly the
members of their argument.
-/

/-- A sorted list holds the inserted text and what it held before. -/
@[simp]
theorem mem_insertSorted
    {text member : String}
    {sorted : List String} :
    member ∈ insertSorted text sorted ↔
      member = text ∨ member ∈ sorted := by
  induction sorted with
  | nil =>
      simp [insertSorted]
  | cons first rest inductionHypothesis =>
      simp only [insertSorted]
      split
      · simp
      · split
        · rename_i same
          subst same
          simp
        · simp only [List.mem_cons, inductionHypothesis]
          tauto

/-- Insertion keeps a list strictly increasing. -/
theorem pairwise_insertSorted
    (text : String)
    {sorted : List String}
    (increasing : sorted.Pairwise (· < ·)) :
    (insertSorted text sorted).Pairwise (· < ·) := by
  induction sorted with
  | nil =>
      simp [insertSorted]
  | cons first rest inductionHypothesis =>
      obtain ⟨firstLess, restIncreasing⟩ :=
        List.pairwise_cons.mp increasing
      simp only [insertSorted]
      split
      · rename_i textLess
        refine List.pairwise_cons.mpr ⟨?_, increasing⟩
        intro member memberOf
        rcases List.mem_cons.mp memberOf with isFirst | inRest
        · subst isFirst
          exact textLess
        · exact textLess.trans (firstLess member inRest)
      · rename_i notLess
        split
        · exact increasing
        · rename_i different
          have firstLessText : first < text :=
            lt_of_le_of_ne (not_lt.mp notLess) (Ne.symm different)
          refine List.pairwise_cons.mpr
            ⟨?_, inductionHypothesis restIncreasing⟩
          intro member memberOf
          rcases mem_insertSorted.mp memberOf with isText | inRest
          · subst isText
            exact firstLessText
          · exact firstLess member inRest

/-- Inserting one text after the other adds exactly these texts. -/
private theorem mem_foldl_insertSorted
    {member : String}
    (texts : List String)
    (sorted : List String) :
    member ∈ texts.foldl
        (fun sorted text => insertSorted text sorted) sorted ↔
      member ∈ texts ∨ member ∈ sorted := by
  induction texts generalizing sorted with
  | nil =>
      simp
  | cons text rest inductionHypothesis =>
      simp only [List.foldl_cons, inductionHypothesis,
        mem_insertSorted, List.mem_cons]
      tauto

/-- Sorting keeps exactly the members of a list. -/
@[simp]
theorem mem_sortedDistinct
    {member : String}
    {texts : List String} :
    member ∈ sortedDistinct texts ↔ member ∈ texts := by
  simp [sortedDistinct, mem_foldl_insertSorted]

/-- Inserting one text after the other keeps a list strictly increasing. -/
private theorem pairwise_foldl_insertSorted
    (texts : List String)
    {sorted : List String}
    (increasing : sorted.Pairwise (· < ·)) :
    (texts.foldl (fun sorted text => insertSorted text sorted)
      sorted).Pairwise (· < ·) := by
  induction texts generalizing sorted with
  | nil =>
      exact increasing
  | cons text rest inductionHypothesis =>
      exact inductionHypothesis (pairwise_insertSorted text increasing)

/-- The sorted members of a list increase strictly. -/
theorem pairwise_sortedDistinct
    (texts : List String) :
    (sortedDistinct texts).Pairwise (· < ·) :=
  pairwise_foldl_insertSorted texts List.Pairwise.nil

/-- Two lists with the same members have the same sorted members. -/
theorem sortedDistinct_congr
    {first second : List String}
    (same : ∀ text, text ∈ first ↔ text ∈ second) :
    sortedDistinct first = sortedDistinct second :=
  (pairwise_sortedDistinct first).eq_of_mem_iff
    (pairwise_sortedDistinct second)
    (fun text => by simp only [mem_sortedDistinct, same])

section FirstOccurrences

variable [DecidableEq α]

/-- Collecting first occurrences onto a list adds the members that are not
there yet. -/
private theorem mem_foldl_firstOccurrences
    {member : α}
    (items kept : List α) :
    member ∈ items.foldl
        (fun kept item =>
          if item ∈ kept then kept else kept ++ [item]) kept ↔
      member ∈ kept ∨ member ∈ items := by
  induction items generalizing kept with
  | nil =>
      simp
  | cons item rest inductionHypothesis =>
      simp only [List.foldl_cons, inductionHypothesis, List.mem_cons]
      split
      · rename_i known
        constructor
        · tauto
        · intro given
          rcases given with inKept | isItem | inRest
          · exact Or.inl inKept
          · subst isItem
            exact Or.inl known
          · exact Or.inr inRest
      · simp only [List.mem_append, List.mem_singleton]
        tauto

/-- The first occurrences are exactly the members of a list. -/
@[simp]
theorem mem_firstOccurrences
    {member : α}
    {items : List α} :
    member ∈ firstOccurrences items ↔ member ∈ items := by
  simp [firstOccurrences, mem_foldl_firstOccurrences]

/-- Collecting first occurrences never repeats a member. -/
private theorem nodup_foldl_firstOccurrences
    (items : List α)
    {kept : List α}
    (noDuplicates : kept.Nodup) :
    (items.foldl
      (fun kept item =>
        if item ∈ kept then kept else kept ++ [item]) kept).Nodup := by
  induction items generalizing kept with
  | nil =>
      exact noDuplicates
  | cons item rest inductionHypothesis =>
      rw [List.foldl_cons]
      apply inductionHypothesis
      split
      · exact noDuplicates
      · rename_i fresh
        exact noDuplicates.append (List.nodup_singleton item)
          (List.disjoint_singleton.mpr fresh)

/-- First occurrences do not repeat. -/
theorem nodup_firstOccurrences
    (items : List α) :
    (firstOccurrences items).Nodup :=
  nodup_foldl_firstOccurrences items List.nodup_nil

/-- Collecting first occurrences keeps the order of the items. -/
private theorem foldl_firstOccurrences_sublist
    (items kept : List α) :
    (items.foldl
        (fun kept item =>
          if item ∈ kept then kept else kept ++ [item]) kept).Sublist
      (kept ++ items) := by
  induction items generalizing kept with
  | nil =>
      simp
  | cons item rest inductionHypothesis =>
      rw [List.foldl_cons]
      split
      · exact (inductionHypothesis kept).trans
          ((List.sublist_cons_self item rest).append_left kept)
      · simpa using inductionHypothesis (kept ++ [item])

/-- First occurrences keep the order of a list. -/
theorem firstOccurrences_sublist
    (items : List α) :
    (firstOccurrences items).Sublist items :=
  foldl_firstOccurrences_sublist items []

end FirstOccurrences

end Tablewright.Text
