import Tablewright.Text.Pieces

namespace Tablewright.Text

/-!
# Texts of several lines

What is read up to a certain character is the same whatever follows that
character, and a text is cut at a separator on each side of it for itself.
-/

section Stop

variable (keep : Char → Bool) {stop : Char} (stops : keep stop = false)

include stops

/-- Reading stops in front of a character that is not kept. -/
theorem takeWhile_append_stop
    (text more : List Char) :
    (text ++ stop :: more).takeWhile keep = text.takeWhile keep := by
  induction text with
  | nil => simp [stops]
  | cons first rest inductionHypothesis =>
      cases kept : keep first with
      | false => simp [kept]
      | true => simp [kept, inductionHypothesis]

/-- What follows a character that is not kept is left over. -/
theorem dropWhile_append_stop
    (text more : List Char) :
    (text ++ stop :: more).dropWhile keep =
      text.dropWhile keep ++ stop :: more := by
  induction text with
  | nil => simp [stops]
  | cons first rest inductionHypothesis =>
      cases kept : keep first with
      | false => simp [kept]
      | true => simp [kept, inductionHypothesis]

end Stop

section Stops

variable {keep : Char → Bool} {front rest : List Char}
variable (keeps : ∀ character ∈ front, keep character = true)
variable (stops : ∀ character ∈ rest.head?, keep character = false)

include keeps stops

/-- What is kept is read up to what is not. -/
theorem takeWhile_append_of_stops :
    (front ++ rest).takeWhile keep = front := by
  rw [List.takeWhile_append_of_pos keeps]
  cases rest with
  | nil => simp
  | cons next others => simp [stops next rfl]

/-- What is left over starts where nothing is kept. -/
theorem dropWhile_append_of_stops :
    (front ++ rest).dropWhile keep = rest := by
  rw [List.dropWhile_append_of_pos keeps]
  cases rest with
  | nil => simp
  | cons next others => simp [stops next rfl]

end Stops

/-- A text is cut into at least one piece. -/
theorem cut_ne_nil
    (separator : Char)
    (text : List Char) :
    cut separator text ≠ [] := by
  cases text with
  | nil => simp [cut]
  | cons first rest =>
      unfold cut
      split
      · simp
      · split <;> simp

/-- A character in front goes to the first piece, or begins the pieces
anew. -/
theorem cut_cons
    (separator character : Char)
    (text : List Char) :
    cut separator (character :: text) =
      if character = separator then [] :: cut separator text
      else
        (character :: (cut separator text).head
          (cut_ne_nil separator text)) :: (cut separator text).tail := by
  rw [cut]
  split
  · rename_i none
    exact (cut_ne_nil separator text none).elim
  · rename_i piece pieces found
    simp [found]

/-- The two sides of a separator are cut for themselves. -/
theorem cut_append
    (separator : Char)
    (first second : List Char) :
    cut separator (first ++ separator :: second) =
      cut separator first ++ cut separator second := by
  induction first with
  | nil => simp [cut_cons, cut]
  | cons character rest inductionHypothesis =>
      have pieces := cut_ne_nil separator rest
      rw [List.cons_append, cut_cons, cut_cons]
      split
      · rw [inductionHypothesis, List.cons_append]
      · simp only [inductionHypothesis]
        rw [List.head_append_of_ne_nil pieces,
          List.tail_append_of_ne_nil pieces, List.cons_append]

end Tablewright.Text
