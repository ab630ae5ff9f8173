import Tablewright.Directive.Parse
import Tablewright.Proofs.Failure
import Tablewright.Proofs.Text.Lines

namespace Tablewright.Directive

/-!
# Directives on one line

Tags, values and aliases end at a line break at the latest, and a group ends
at its own bracket.  So whatever has been read in front of a line break stays
the same with more lines behind it, and these are left over.
-/

/-- The text up to the next blank ends in front of a line break. -/
theorem takeWhile_append_newline
    (text more : List Char) :
    (text ++ '\n' :: more).takeWhile (fun c => !Text.isBlank c) =
      text.takeWhile (fun c => !Text.isBlank c) :=
  Text.takeWhile_append_stop _ (by decide) text more

/-- What follows the text up to the next blank reaches the next lines. -/
theorem dropWhile_append_newline
    (text more : List Char) :
    (text ++ '\n' :: more).dropWhile (fun c => !Text.isBlank c) =
      text.dropWhile (fun c => !Text.isBlank c) ++ '\n' :: more :=
  Text.dropWhile_append_stop _ (by decide) text more

/-- A tag ends at the line break. -/
theorem readTag?_append
    (text more : List Char) :
    readTag? (text ++ '\n' :: more) =
      (readTag? text).map
        fun (tag, rest) => (tag, rest ++ '\n' :: more) := by
  have stops : Text.isWordCharacter '\n' = false := by decide
  cases text with
  | nil => rfl
  | cons first rest =>
      simp only [List.cons_append, readTag?,
        Text.takeWhile_append_stop _ stops,
        Text.dropWhile_append_stop _ stops]
      split <;> rfl

/-- A group that is closed is the same with more text behind it. -/
theorem readGroup_append
    {closers : List Char}
    {quoting : Quoting}
    {text inner rest : List Char}
    (read : readGroup closers quoting text = .ok (inner, rest))
    (more : List Char) :
    readGroup closers quoting (text ++ more) =
      .ok (inner, rest ++ more) := by
  induction text generalizing closers quoting inner rest with
  | nil => cases read
  | cons character tail inductionHypothesis =>
      have continued
          {outer inner rest : List Char}
          (read :
            (readGroup outer (quoting.next character) tail).map
              (fun (inner, rest) => (character :: inner, rest)) =
                .ok (inner, rest)) :
          (readGroup outer (quoting.next character) (tail ++ more)).map
              (fun (inner, rest) => (character :: inner, rest)) =
            .ok (inner, rest ++ more) := by
        obtain ⟨pair, found, same⟩ := Outcome.map_eq_ok_iff.mp read
        obtain ⟨rfl, rfl⟩ := Prod.mk.inj same
        rw [inductionHypothesis found]
        rfl
      rw [List.cons_append]
      unfold readGroup at read ⊢
      dsimp only at read ⊢
      split at read
      · rename_i quoted
        rw [if_pos quoted]
        exact continued read
      · rename_i unquoted
        rw [if_neg unquoted]
        split at read
        · exact continued read
        · split at read
          · rename_i closes
            rw [if_pos closes]
            split at read
            · cases read
            · split at read
              · cases read
              · rename_i expected
                rw [if_neg expected]
                split at read
                · rename_i last
                  rw [if_pos last]
                  obtain ⟨rfl, rfl⟩ := Prod.mk.inj (Except.ok.inj read)
                  rfl
                · rename_i nested
                  rw [if_neg nested]
                  exact continued read
          · rename_i ordinary
            rw [if_neg ordinary]
            exact continued read

/-- Whether an alias follows a value is decided on the line of the value. -/
theorem readAlias?_append
    (text more : List Char) :
    readAlias? (text ++ '\n' :: more) =
      (readAlias? text).map
        fun (tail, rest) => (tail, rest ++ '\n' :: more) := by
  have spaces : isSpaceOrTab '\n' = false := by decide
  simp only [readAlias?, Text.takeWhile_append_stop _ spaces,
    Text.dropWhile_append_stop _ spaces]
  generalize text.dropWhile isSpaceOrTab = word
  split
  · rename_i afterAs found
    -- The word `as` and the space behind it stand in front of the line break.
    obtain ⟨after, rfl⟩ : ∃ after, word = 'a' :: 's' :: ' ' :: after := by
      rcases word with _ | ⟨first, _ | ⟨second, _ | ⟨third, after⟩⟩⟩
      · simp at found
      · simp at found
      · simp at found
      · simp only [List.cons_append, List.cons.injEq] at found
        obtain ⟨rfl, rfl, rfl, _⟩ := found
        exact ⟨after, rfl⟩
    obtain rfl : after ++ '\n' :: more = afterAs := by simpa using found
    simp only [Text.takeWhile_append_stop _ spaces,
      Text.dropWhile_append_stop _ spaces, takeWhile_append_newline,
      dropWhile_append_newline]
    split
    · rfl
    · rfl
  · rename_i absent
    split
    · rename_i after
      exact (absent _ rfl).elim
    · rfl

/-- A value ends at the line break. -/
theorem readValue_append
    {text value rest : List Char}
    (read : readValue text = .ok (value, rest))
    (more : List Char) :
    readValue (text ++ '\n' :: more) =
      .ok (value, rest ++ '\n' :: more) := by
  simp only [readValue, takeWhile_append_newline,
    dropWhile_append_newline, readAlias?_append] at read ⊢
  split at read
  · cases read
  · rename_i given
    rw [if_neg given]
    split at read
    · rename_i found
      obtain ⟨rfl, rfl⟩ := Prod.mk.inj (Except.ok.inj read)
      simp [found]
    · rename_i found
      obtain ⟨rfl, rfl⟩ := Prod.mk.inj (Except.ok.inj read)
      simp [found]

/-- The body of a directive ends before the next line does. -/
theorem readBody_append
    {text rest : List Char}
    {body : Option Body}
    (read : readBody text = .ok (body, rest))
    (more : List Char) :
    readBody (text ++ '\n' :: more) =
      .ok (body, rest ++ '\n' :: more) := by
  have delimited
      {shape : BodyShape}
      {reading extended : Reading (List Char × List Char)}
      (reaches :
        ∀ {inner left : List Char},
          reading = .ok (inner, left) →
          extended = .ok (inner, left ++ '\n' :: more))
      (read :
        reading.map
            (fun (inner, rest) => (some (Body.mk shape inner), rest)) =
          .ok (body, rest)) :
      extended.map
          (fun (inner, rest) => (some (Body.mk shape inner), rest)) =
        .ok (body, rest ++ '\n' :: more) := by
    obtain ⟨pair, found, same⟩ := Outcome.map_eq_ok_iff.mp read
    obtain ⟨rfl, rfl⟩ := Prod.mk.inj same
    rw [reaches found]
    rfl
  unfold readBody at read
  split at read
  · exact delimited (fun found => readGroup_append found _) read
  · exact delimited (fun found => readGroup_append found _) read
  · exact delimited (fun found => readValue_append found _) read
  · rename_i noArguments noBlock noValue
    obtain ⟨rfl, rfl⟩ := Prod.mk.inj (Except.ok.inj read)
    -- Without a delimiter in front, only an empty text changes its front.
    cases text with
    | nil => rfl
    | cons first tail =>
        rw [List.cons_append]
        unfold readBody
        split
        · rename_i same
          exact (noArguments tail
            (by rw [(List.cons.inj same).1])).elim
        · rename_i same
          exact (noBlock tail (by rw [(List.cons.inj same).1])).elim
        · rename_i same
          exact (noValue tail (by rw [(List.cons.inj same).1])).elim
        · rfl

end Tablewright.Directive
