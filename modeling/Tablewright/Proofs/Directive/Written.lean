import Mathlib.Data.List.TakeWhile
import Tablewright.Directive.Parse
import Tablewright.Proofs.Failure
import Tablewright.Proofs.Text.Lines

namespace Tablewright.Directive

/-!
# Directives as they are written

A tag or a body is read off the front of a text: what is read, written out
with its delimiters, and what is left make up the text.  A directive never
ends with a blank, and no tag that begins in it goes on behind it.
-/

/-! ## Blanks and word characters -/

/-- The code points of the blanks. -/
def blankCodes : List Nat :=
  [0x85, 0xa0, 0x1680, 0x2028, 0x2029, 0x202f, 0x205f, 0x3000, 0x20] ++
    List.range' 0x09 5 ++ List.range' 0x2000 11

theorem toNat_mem_blankCodes
    {character : Char}
    (isBlank : Text.isBlank character = true) :
    character.toNat ∈ blankCodes := by
  simp only [Text.isBlank, Bool.or_eq_true, Bool.and_eq_true,
    decide_eq_true_eq, beq_iff_eq] at isBlank
  simp only [blankCodes, List.mem_append, List.mem_range'_1,
    List.mem_cons, List.not_mem_nil, or_false]
  omega

/-- No blank continues a tag. -/
theorem not_isWordCharacter_of_isBlank
    {character : Char}
    (isBlank : Text.isBlank character = true) :
    Text.isWordCharacter character = false := by
  have none :
      ∀ code ∈ blankCodes,
        Text.isWordCharacter (Char.ofNat code) = false := by
    decide +kernel
  rw [← Char.ofNat_toNat character]
  exact none character.toNat (toNat_mem_blankCodes isBlank)

/-- What begins a tag also continues it. -/
theorem isWordCharacter_of_isTagStart
    {character : Char}
    (starts : isTagStart character = true) :
    Text.isWordCharacter character = true := by
  rw [isTagStart, Bool.or_eq_true, beq_iff_eq] at starts
  rcases starts with isAlpha | rfl
  · have small : character.toNat < 0x80 := by
      rcases Bool.or_eq_true_iff.mp isAlpha with upper | lower
      · have bound := UInt32.le_iff_toNat_le.mp (of_decide_eq_true upper).2
        exact Nat.lt_of_le_of_lt bound (by decide)
      · obtain ⟨_, last⟩ := Bool.and_eq_true_iff.mp lower
        have bound := UInt32.le_iff_toNat_le.mp (of_decide_eq_true last)
        exact Nat.lt_of_le_of_lt bound (by decide)
    simp [Text.isWordCharacter, small, Char.isAlphanum, isAlpha]
  · decide

/-! ## Ends of directives -/

/-- A part of a text does not end with a blank, and no tag goes on from it
into the rest. -/
structure Ends (part rest : List Char) : Prop where
  unblank : ∀ last ∈ part.getLast?, Text.isBlank last = false
  apart :
    ∀ last ∈ part.getLast?, ∀ next ∈ rest.head?,
      Text.isWordCharacter next = true →
        Text.isWordCharacter last = false ∧ last ≠ '@'

/-- Only the last character decides whether a part ends. -/
theorem Ends.prepend
    {part rest : List Char}
    (ends : Ends part rest)
    (given : part ≠ [])
    (before : List Char) :
    Ends (before ++ part) rest := by
  have last := List.getLast?_append_of_ne_nil before given
  exact ⟨last ▸ ends.unblank, last ▸ ends.apart⟩

/-- What stops reading is not kept. -/
theorem head?_dropWhile
    {keep : Char → Bool}
    {text : List Char} :
    ∀ next ∈ (text.dropWhile keep).head?, keep next = false := by
  intro next isNext
  have stops := List.head?_dropWhile_not keep text
  rw [Option.mem_def.mp isNext] at stops
  simpa using stops

/-- Only the last characters of a part decide whether it ends. -/
theorem Ends.drop
    {before part rest : List Char}
    (ends : Ends (before ++ part) rest)
    (given : part ≠ []) :
    Ends part rest := by
  have last := List.getLast?_append_of_ne_nil before given
  exact ⟨last ▸ ends.unblank, last ▸ ends.apart⟩

/-! ## Tags -/

/-- Every character of a tag continues tags. -/
theorem isWordCharacter_of_mem_tag
    {text tag rest : List Char}
    (read : readTag? text = some (tag, rest))
    {character : Char}
    (member : character ∈ tag) :
    Text.isWordCharacter character = true := by
  cases text with
  | nil => cases read
  | cons first more =>
      obtain ⟨starts, found⟩ := Option.ite_none_right_eq_some.mp read
      obtain ⟨rfl, rfl⟩ := Prod.mk.inj (Option.some.inj found)
      rcases List.mem_cons.mp member with rfl | later
      · exact isWordCharacter_of_isTagStart starts
      · exact List.mem_takeWhile_imp later

/-- A tag is read off the front of a text. -/
theorem eq_of_readTag?
    {text tag rest : List Char}
    (read : readTag? text = some (tag, rest)) :
    text = tag ++ rest ∧ tag ≠ [] ∧ Ends tag rest := by
  have isWord := fun {character} (member : character ∈ tag) =>
    isWordCharacter_of_mem_tag read member
  cases text with
  | nil => cases read
  | cons first more =>
      obtain ⟨starts, found⟩ := Option.ite_none_right_eq_some.mp read
      obtain ⟨rfl, rfl⟩ := Prod.mk.inj (Option.some.inj found)
      refine ⟨by simp, List.cons_ne_nil _ _, ?_, ?_⟩
      · intro last isLast
        by_contra isBlank
        have notWord := not_isWordCharacter_of_isBlank
          (Bool.not_eq_false _ ▸ isBlank)
        rw [isWord (List.mem_of_getLast? isLast)] at notWord
        cases notWord
      · intro _ _ next isNext isWord
        rw [head?_dropWhile next isNext] at isWord
        cases isWord

/-- Characters that make up a tag are read as one, up to a character that does
not continue it. -/
theorem readTag?_append_of_word
    {first : Char}
    {more rest : List Char}
    (starts : isTagStart first = true)
    (words :
      ∀ character ∈ more, Text.isWordCharacter character = true)
    (stops :
      ∀ character ∈ rest.head?, Text.isWordCharacter character = false) :
    readTag? (first :: more ++ rest) = some (first :: more, rest) := by
  rw [List.cons_append, readTag?, if_pos starts,
    Text.takeWhile_append_of_stops words stops,
    Text.dropWhile_append_of_stops words stops]

/-- Whether a text is a tag as a whole. -/
def isTag : List Char → Bool
  | [] => false
  | first :: more => isTagStart first && more.all Text.isWordCharacter

/-- A tag is read up to a character that does not continue it. -/
theorem readTag?_append_of_isTag
    {tag rest : List Char}
    (whole : isTag tag = true)
    (stops :
      ∀ character ∈ rest.head?, Text.isWordCharacter character = false) :
    readTag? (tag ++ rest) = some (tag, rest) := by
  cases tag with
  | nil => cases whole
  | cons first more =>
      obtain ⟨starts, words⟩ := Bool.and_eq_true_iff.mp whole
      exact readTag?_append_of_word starts (List.all_eq_true.mp words) stops

/-- A tag that begins behind an at sign in a part does not go on behind the
end of the part. -/
theorem Ends.length_tag_le
    {part rest tag behind : List Char}
    (ends : Ends ('@' :: part) rest)
    (read : readTag? (part ++ rest) = some (tag, behind)) :
    tag.length ≤ part.length := by
  by_contra longer
  have whole := (eq_of_readTag? read).1
  obtain ⟨more, rfl, restShape⟩ :
      ∃ more, tag = part ++ more ∧ rest = more ++ behind := by
    rcases List.append_eq_append_iff.mp whole with
      ⟨more, tagShape, restShape⟩ | ⟨less, partShape, _⟩
    · exact ⟨more, tagShape, restShape⟩
    · rw [partShape, List.length_append] at longer
      omega
  cases more with
  | nil => simp at longer
  | cons next others =>
      have isNext : next ∈ rest.head? := by
        simp [restShape]
      have isWord : Text.isWordCharacter next = true :=
        isWordCharacter_of_mem_tag read (by simp)
      rcases List.eq_nil_or_concat' part with rfl | ⟨front, last, rfl⟩
      · exact (ends.apart '@' rfl next isNext isWord).2 rfl
      · have lastWord : Text.isWordCharacter last = true :=
          isWordCharacter_of_mem_tag read (by simp)
        have isLast : last ∈ ('@' :: (front ++ [last])).getLast? := by
          simp [List.getLast?_cons]
        rw [(ends.apart last isLast next isNext isWord).1] at lastWord
        cases lastWord

/-! ## Groups, values and bodies -/

/-- A group is read up to the outermost of the brackets to come. -/
theorem eq_of_readGroup
    {closers : List Char}
    {closer : Char}
    {quoting : Quoting}
    {text inner rest : List Char}
    (read : readGroup closers quoting text = .ok (inner, rest))
    (outermost : closers.getLast? = some closer) :
    text = inner ++ closer :: rest := by
  induction text generalizing closers quoting inner rest with
  | nil => cases read
  | cons character tail inductionHypothesis =>
      have continued
          {outer inner rest : List Char}
          (read :
            (readGroup outer (quoting.next character) tail).map
                (fun pair => (character :: pair.1, pair.2)) =
              .ok (inner, rest))
          (outermost : outer.getLast? = some closer) :
          character :: tail = inner ++ closer :: rest := by
        obtain ⟨pair, found, same⟩ := Outcome.map_eq_ok_iff.mp read
        obtain ⟨rfl, rfl⟩ := Prod.mk.inj same
        rw [inductionHypothesis found outermost]
        rfl
      unfold readGroup at read
      dsimp only at read
      split at read
      · exact continued read outermost
      · split at read
        · refine continued read ?_
          rw [List.getLast?_cons, outermost]
          rfl
        · split at read
          · split at read
            · cases read
            · rename_i expected outer
              split at read
              · cases read
              · rename_i isExpected
                obtain rfl := not_not.mp isExpected
                split at read
                · rename_i isLast
                  obtain rfl := List.isEmpty_iff.mp isLast
                  obtain ⟨rfl, rfl⟩ := Prod.mk.inj (Except.ok.inj read)
                  obtain rfl := Option.some.inj outermost
                  rfl
                · rename_i nested
                  refine continued read ?_
                  rw [← outermost, List.getLast?_cons,
                    List.getLast?_eq_getLast_of_ne_nil
                      (by simpa using nested)]
                  rfl
          · exact continued read outermost

/-- A part that ends in front of a blank. -/
theorem Ends.of_blank
    {part rest : List Char}
    (unblank : ∀ last ∈ part.getLast?, Text.isBlank last = false)
    (blank : ∀ next ∈ rest.head?, Text.isBlank next = true) :
    Ends part rest where
  unblank := unblank
  apart := by
    intro _ _ next isNext isWord
    rw [not_isWordCharacter_of_isBlank (blank next isNext)] at isWord
    cases isWord

/-- What is read up to the next blank ends in front of it. -/
theorem ends_takeWhile
    (text : List Char) :
    Ends (text.takeWhile fun c => !Text.isBlank c)
      (text.dropWhile fun c => !Text.isBlank c) := by
  refine .of_blank ?_ ?_
  · intro last isLast
    have kept := List.mem_takeWhile_imp (List.mem_of_getLast? isLast)
    simpa using kept
  · intro next isNext
    simpa using head?_dropWhile next isNext

/-- An alias is read off the front of a text. -/
theorem eq_of_readAlias?
    {text tail rest : List Char}
    (read : readAlias? text = some (tail, rest)) :
    text = tail ++ rest ∧ tail ≠ [] ∧ Ends tail rest := by
  unfold readAlias? at read
  dsimp only at read
  split at read
  · rename_i afterAs found
    obtain ⟨named, made⟩ := Option.ite_none_left_eq_some.mp read
    obtain ⟨rfl, rfl⟩ := Prod.mk.inj (Option.some.inj made)
    refine ⟨?_, by simp, ?_⟩
    · have spaces := List.takeWhile_append_dropWhile (p := isSpaceOrTab)
        (l := text)
      have gap := List.takeWhile_append_dropWhile (p := isSpaceOrTab)
        (l := afterAs)
      have name := List.takeWhile_append_dropWhile
        (p := fun c => !Text.isBlank c)
        (l := afterAs.dropWhile isSpaceOrTab)
      rw [found] at spaces
      simp [spaces, gap, name]
    · exact (ends_takeWhile _).prepend (by simpa using named) _
  · cases read

/-- A value is read off the front of a text. -/
theorem eq_of_readValue
    {text value rest : List Char}
    (read : readValue text = .ok (value, rest)) :
    text = value ++ rest ∧ value ≠ [] ∧ Ends value rest := by
  have parts := List.takeWhile_append_dropWhile
    (p := fun c => !Text.isBlank c) (l := text)
  unfold readValue at read
  dsimp only at read
  split at read
  · cases read
  · rename_i given
    have given : text.takeWhile (fun c => !Text.isBlank c) ≠ [] := by
      simpa using given
    split at read
    · rename_i tail left found
      obtain ⟨rfl, rfl⟩ := Prod.mk.inj (Except.ok.inj read)
      obtain ⟨whole, some, ends⟩ := eq_of_readAlias? found
      exact ⟨by rw [List.append_assoc, ← whole, parts], by simp [some],
        ends.prepend some _⟩
    · obtain ⟨rfl, rfl⟩ := Prod.mk.inj (Except.ok.inj read)
      exact ⟨parts.symm, given, ends_takeWhile text⟩

/-- A body with its delimiters. -/
def Body.written (body : Body) : List Char :=
  match body.shape with
  | .arguments => '(' :: body.text ++ [')']
  | .block => '{' :: body.text ++ ['}']
  | .value => ':' :: body.text

/-- A body that may be missing, with its delimiters. -/
def writtenBody (body : Option Body) : List Char :=
  (body.map Body.written).getD []

theorem Body.written_ne_nil
    (body : Body) :
    body.written ≠ [] := by
  unfold Body.written
  split <;> simp

/-- A part that ends with a closing bracket. -/
theorem Ends.of_closer
    {inner rest : List Char}
    {closer : Char}
    (unblank : Text.isBlank closer = false)
    (apart : Text.isWordCharacter closer = false ∧ closer ≠ '@') :
    Ends (inner ++ [closer]) rest where
  unblank := by simpa using unblank
  apart := by simpa using fun _ _ _ => apart

/-- A body is read off the front of a text; if there is none, nothing is. -/
theorem eq_of_readBody
    {text rest : List Char}
    {body : Option Body}
    (read : readBody text = .ok (body, rest)) :
    text = writtenBody body ++ rest ∧
      ∀ given ∈ body, Ends given.written rest := by
  unfold readBody at read
  split at read
  · obtain ⟨⟨inner, left⟩, found, same⟩ := Outcome.map_eq_ok_iff.mp read
    obtain ⟨rfl, rfl⟩ := Prod.mk.inj same
    rw [eq_of_readGroup found rfl]
    refine ⟨by simp [writtenBody, Body.written], ?_⟩
    rintro _ ⟨⟩
    exact Ends.of_closer (by decide) (by decide)
  · obtain ⟨⟨inner, left⟩, found, same⟩ := Outcome.map_eq_ok_iff.mp read
    obtain ⟨rfl, rfl⟩ := Prod.mk.inj same
    rw [eq_of_readGroup found rfl]
    refine ⟨by simp [writtenBody, Body.written], ?_⟩
    rintro _ ⟨⟩
    exact Ends.of_closer (by decide) (by decide)
  · obtain ⟨⟨value, left⟩, found, same⟩ := Outcome.map_eq_ok_iff.mp read
    obtain ⟨rfl, rfl⟩ := Prod.mk.inj same
    obtain ⟨whole, given, ends⟩ := eq_of_readValue found
    rw [whole]
    refine ⟨by simp [writtenBody, Body.written], ?_⟩
    rintro _ ⟨⟩
    exact ends.prepend given [':']
  · obtain ⟨rfl, rfl⟩ := Prod.mk.inj (Except.ok.inj read)
    exact ⟨rfl, fun _ absent => by cases absent⟩

/-- A directive is read off the front of a text. -/
theorem ends_directive
    {text tag afterTag rest : List Char}
    {body : Option Body}
    (tagged : readTag? text = some (tag, afterTag))
    (bodied : readBody afterTag = .ok (body, rest)) :
    text = tag ++ writtenBody body ++ rest ∧
      Ends ('@' :: (tag ++ writtenBody body)) rest := by
  obtain ⟨rfl, named, tagEnds⟩ := eq_of_readTag? tagged
  obtain ⟨rfl, bodyEnds⟩ := eq_of_readBody bodied
  refine ⟨by rw [List.append_assoc], ?_⟩
  cases body with
  | none =>
      rw [writtenBody, Option.map_none, Option.getD_none, List.append_nil]
      exact tagEnds.prepend named ['@']
  | some given =>
      exact (bodyEnds given rfl).prepend given.written_ne_nil ('@' :: tag)

end Tablewright.Directive
