namespace Tablewright.Text

/-!
# Sorted texts

Texts are ordered by code point. A sorted list without repetition stands for
a finite set of texts, so two sets are equal exactly when their lists are.
-/

/-- Put a text into a sorted list unless it is there already. -/
def insertSorted (text : String) : List String → List String
  | [] => [text]
  | first :: rest =>
      if text < first then text :: first :: rest
      else if text = first then first :: rest
      else first :: insertSorted text rest

/-- The distinct members of a list in increasing order. -/
def sortedDistinct (texts : List String) : List String :=
  texts.foldl (fun sorted text => insertSorted text sorted) []

/-- The members of a list without those that occurred before. -/
def firstOccurrences [DecidableEq α] (items : List α) : List α :=
  items.foldl
    (fun kept item => if item ∈ kept then kept else kept ++ [item]) []

end Tablewright.Text
