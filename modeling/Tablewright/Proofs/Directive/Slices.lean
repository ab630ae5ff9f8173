import Tablewright.Proofs.Directive.Quoted
import Tablewright.Proofs.Text.Slice

namespace Tablewright.Directive

/-!
# Slices of a body

The parts of a body can also be found by their byte positions: the commas
between them, the colon behind a key, the quotation marks around a name.
Every position found this way is in range and between two characters, and the
slices at these positions are the parts that are read.
-/

open Text (byteLength slice? sliceFrom?)

/-! ## Parts between commas -/

/-- The byte positions of the commas outside brackets and quotes. -/
def commasFrom (depth : Nat) (quoting : Quoting) (index : Nat) :
    List Char → List Nat
  | [] => []
  | character :: rest =>
      if quoting = .outside ∧ depth = 0 ∧ character = ',' then
        index :: commasFrom 0 .outside (index + 1) rest
      else
        commasFrom (depthAfter quoting depth character)
          (quoting.next character) (index + character.utf8Size) rest

/-- The slices of a string between commas at byte positions. -/
def slicesBetween? (text : String) (start : Nat) :
    List Nat → Option (List (List Char))
  | [] => (sliceFrom? text start).map fun part => [part]
  | index :: commas => do
      let part ← slice? text start index
      let parts ← slicesBetween? text (index + 1) commas
      return part :: parts

/-- The slices of a body between its commas outside brackets and quotes. -/
def topLevelSlices? (text : List Char) : Option (List (List Char)) :=
  slicesBetween? (String.ofList text) 0 (commasFrom 0 .outside 0 text)

/-- The slices between commas are the parts between them, when a first part
has been begun. -/
theorem slicesBetween?_commasFrom
    (depth : Nat)
    (quoting : Quoting)
    (before part rest : List Char) :
    slicesBetween? (String.ofList (before ++ part ++ rest))
        (byteLength before)
        (commasFrom depth quoting (byteLength (before ++ part)) rest) =
      some (part.foldr consFirst (splitFrom depth quoting rest)) := by
  induction rest generalizing depth quoting before part with
  | nil =>
      rw [List.append_nil, commasFrom, slicesBetween?,
        Text.sliceFrom?_append, splitFrom, foldr_consFirst, List.append_nil]
      rfl
  | cons character rest inductionHypothesis =>
      rw [commasFrom, splitFrom]
      split
      · rename_i isComma
        obtain rfl := isComma.2.2
        have later := inductionHypothesis 0 .outside
          (before ++ part ++ [',']) []
        have width : byteLength [','] = 1 := rfl
        rw [List.append_nil, List.append_assoc, List.singleton_append,
          Text.byteLength_append _ [','], width] at later
        rw [slicesBetween?, Text.byteLength_append before part,
          Text.slice?_append, ← Text.byteLength_append, later,
          foldr_consFirst, List.append_nil]
        rfl
      · have later := inductionHypothesis (depthAfter quoting depth character)
          (quoting.next character) before (part ++ [character])
        rw [← List.append_assoc, Text.byteLength_append _ [character],
          List.append_assoc, List.singleton_append,
          List.foldr_append] at later
        exact later

/-- The slices of a body between its commas are its parts. -/
theorem topLevelSlices?_eq
    (text : List Char) :
    topLevelSlices? text = some (splitTopLevel text) :=
  slicesBetween?_commasFrom 0 .outside [] [] text

/-! ## Keys and values -/

/-- The bytes of a text. -/
def bytesOf (text : List Char) : List UInt8 :=
  text.flatMap String.utf8EncodeChar

/-- The byte position of the colon between a key and a value. -/
def colonFrom? (index : Nat) : List UInt8 → Option Nat
  | [] => none
  | byte :: rest =>
      -- opening brackets and quotation marks
      if byte ∈ [40, 91, 123, 39, 34] then none
      else if byte = 58 then
        if rest.head? = some 58 then none else some index
      else colonFrom? (index + 1) rest

/-- The slices of a part around the colon between its key and its value. -/
def pairSlices? (part : List Char) :
    Option (Option (List Char × List Char)) :=
  match colonFrom? 0 (bytesOf part) with
  | none => some none
  | some index => do
      let key ← slice? (String.ofList part) 0 index
      let value ← sliceFrom? (String.ofList part) (index + 1)
      return some (key, value)

/-- A character in the range of ASCII is one byte. -/
theorem utf8EncodeChar_of_lt
    {character : Char}
    (small : character.toNat < 128) :
    String.utf8EncodeChar character = [UInt8.ofNat character.toNat] := by
  have bound : character.val.toNat ≤ 127 := Nat.le_of_lt_succ small
  exact if_pos bound

/-- The bytes of a character out of the range of ASCII are out of it, too. -/
theorem le_of_mem_utf8EncodeChar
    {character : Char}
    (large : 128 ≤ character.toNat)
    {byte : UInt8}
    (member : byte ∈ String.utf8EncodeChar character) :
    128 ≤ byte.toNat := by
  have bound : ¬ character.val.toNat ≤ 127 := Nat.not_le.mpr large
  simp only [String.utf8EncodeChar, bound, ↓reduceIte] at member
  split at member
  · simp at member
    rcases member with rfl | rfl <;> simp <;> omega
  · split at member
    · simp at member
      rcases member with rfl | rfl | rfl <;> simp <;> omega
    · simp at member
      rcases member with rfl | rfl | rfl | rfl <;> simp <;> omega

/-- A byte is one of the stopping bytes if its character stops the search, and
a colon if its character is one. -/
theorem stops_iff
    {character : Char}
    (small : character.toNat < 128) :
    (UInt8.ofNat character.toNat ∈ ([40, 91, 123, 39, 34] : List UInt8) ↔
        ((closerOf? character).isSome || isQuote character) = true) ∧
      (UInt8.ofNat character.toNat = 58 ↔ character = ':') := by
  have all :
      ∀ code ∈ List.range 128,
        (UInt8.ofNat code ∈ ([40, 91, 123, 39, 34] : List UInt8) ↔
            ((closerOf? (Char.ofNat code)).isSome ||
              isQuote (Char.ofNat code)) = true) ∧
          (UInt8.ofNat code = 58 ↔ Char.ofNat code = ':') := by
    decide +kernel
  have found := all character.toNat (List.mem_range.mpr small)
  rwa [Char.ofNat_toNat] at found

/-- A character out of the range of ASCII does not stop the search, and is no
colon. -/
theorem not_stops
    {character : Char}
    (large : 128 ≤ character.toNat) :
    ((closerOf? character).isSome || isQuote character) = false ∧
      character ≠ ':' := by
  have distinct (other : Char) (small : other.toNat < 128) :
      character ≠ other := by
    rintro rfl
    omega
  constructor
  · simp [closerOf?, isQuote, distinct]
  · exact distinct ':' (by decide)

/-- Bytes out of the range of ASCII are passed. -/
theorem colonFrom?_append
    {bytes : List UInt8}
    (high : ∀ byte ∈ bytes, 128 ≤ byte.toNat)
    (index : Nat)
    (rest : List UInt8) :
    colonFrom? index (bytes ++ rest) =
      colonFrom? (index + bytes.length) rest := by
  induction bytes generalizing index with
  | nil => rfl
  | cons byte bytes inductionHypothesis =>
      have isHigh := high byte List.mem_cons_self
      have distinct (other : UInt8) (small : other.toNat < 128) :
          byte ≠ other := by
        rintro rfl
        omega
      have passed : byte ∉ ([40, 91, 123, 39, 34] : List UInt8) := by
        simp [distinct]
      have noColon : byte ≠ 58 := distinct 58 (by decide)
      rw [List.cons_append, colonFrom?, if_neg passed, if_neg noColon,
        inductionHypothesis fun other isOther =>
          high other (List.mem_cons_of_mem _ isOther),
        List.length_cons, Nat.add_assoc, Nat.add_comm 1]

/-- A text starts with a colon if its bytes do. -/
theorem head?_bytesOf_iff
    (text : List Char) :
    (bytesOf text).head? = some 58 ↔ text.head? = some ':' := by
  cases text with
  | nil => simp [bytesOf]
  | cons character rest =>
      rw [bytesOf, List.flatMap_cons, List.head?_cons, Option.some_inj]
      rcases Nat.lt_or_ge character.toNat 128 with small | large
      · rw [utf8EncodeChar_of_lt small, List.singleton_append,
          List.head?_cons, Option.some_inj]
        exact (stops_iff small).2
      · refine iff_of_false ?_ (not_stops large).2
        intro isColon
        have given : 0 < (String.utf8EncodeChar character).length := by
          rw [String.length_utf8EncodeChar]
          exact character.utf8Size_pos
        obtain ⟨byte, more, shape⟩ := List.exists_cons_of_length_pos given
        rw [shape] at isColon
        obtain rfl := Option.some.inj isColon
        have high : 128 ≤ (58 : UInt8).toNat :=
          le_of_mem_utf8EncodeChar large (by simp [shape])
        exact absurd high (by decide)

/-- The colon that is found by its byte position is the one behind the
key. -/
theorem colonFrom?_bytesOf
    (index : Nat)
    (text : List Char) :
    colonFrom? index (bytesOf text) =
      (splitPair? text).map fun (key, _) => index + byteLength key := by
  induction text generalizing index with
  | nil => rfl
  | cons character rest inductionHypothesis =>
      have continued :
          colonFrom? (index + character.utf8Size) (bytesOf rest) =
            ((splitPair? rest).map fun (key, value) =>
                (character :: key, value)).map
              fun (key, _) => index + byteLength key := by
        rw [inductionHypothesis, Option.map_map]
        refine congrArg (Option.map · _) (funext fun pair => ?_)
        exact Nat.add_assoc _ _ _
      rw [splitPair?, bytesOf, List.flatMap_cons, ← bytesOf]
      rcases Nat.lt_or_ge character.toNat 128 with small | large
      · have width : character.utf8Size = 1 := by
          rw [← String.length_utf8EncodeChar, utf8EncodeChar_of_lt small]
          rfl
        rw [width] at continued
        rw [utf8EncodeChar_of_lt small, List.singleton_append, colonFrom?]
        simp only [stops_iff small, head?_bytesOf_iff, continued]
        split
        · rfl
        · split
          · split <;> rfl
          · rfl
      · rw [colonFrom?_append
          (fun _ member => le_of_mem_utf8EncodeChar large member),
          String.length_utf8EncodeChar, continued]
        simp [not_stops large]

/-- A part is its key and its value around a colon. -/
theorem eq_of_splitPair?
    {text key value : List Char}
    (found : splitPair? text = some (key, value)) :
    text = key ++ ':' :: value := by
  induction text generalizing key with
  | nil => cases found
  | cons character rest inductionHypothesis =>
      rw [splitPair?] at found
      split at found
      · cases found
      · split at found
        · rename_i isColon
          obtain ⟨_, made⟩ := Option.ite_none_left_eq_some.mp found
          obtain ⟨rfl, rfl⟩ := Prod.mk.inj (Option.some.inj made)
          rw [isColon]
          rfl
        · obtain ⟨⟨inner, _⟩, later, made⟩ := Option.map_eq_some_iff.mp found
          obtain ⟨rfl, rfl⟩ := Prod.mk.inj made
          rw [inductionHypothesis later]
          rfl

/-- The slices around the colon are the key and the value. -/
theorem pairSlices?_eq
    (part : List Char) :
    pairSlices? part = some (splitPair? part) := by
  rw [pairSlices?, colonFrom?_bytesOf]
  cases found : splitPair? part with
  | none => rfl
  | some pair =>
      obtain ⟨key, value⟩ := pair
      obtain rfl := eq_of_splitPair? found
      have width : byteLength [':'] = 1 := rfl
      have front := Text.slice?_append [] key (':' :: value)
      have back := Text.sliceFrom?_append (key ++ [':']) value
      rw [Text.byteLength_append, width, List.append_assoc,
        List.singleton_append] at back
      rw [List.nil_append, Nat.add_comm] at front
      simp only [Option.map_some, Nat.zero_add]
      rw [show slice? _ 0 (byteLength key) = _ from front, back]
      rfl

/-! ## Quotation marks -/

/-- Whether a text of at least two bytes starts and ends with a mark. -/
def hasMarks (mark : Char) (text : List Char) : Bool :=
  2 ≤ byteLength text && text.head? == some mark &&
    text.getLast? == some mark

/-- The slice of a trimmed part between its quotation marks. -/
def unquotedSlice? (text : List Char) : Option (List Char) :=
  let trimmed := Text.trim text
  if hasMarks '\'' trimmed || hasMarks '"' trimmed then
    slice? (String.ofList trimmed) 1 (byteLength trimmed - 1)
  else some trimmed

/-- A text of at least two bytes that starts and ends with a mark of one byte
has two marks. -/
theorem hasMarks_eq
    {mark : Char}
    (width : mark.utf8Size = 1)
    (text : List Char) :
    hasMarks mark text = isEnclosedBy mark text := by
  rcases text with _ | ⟨first, _ | ⟨second, rest⟩⟩
  · rfl
  · by_cases isMark : first = mark
    · simp [hasMarks, isEnclosedBy, byteLength, isMark, width]
    · simp [hasMarks, isEnclosedBy, isMark]
  · have positive := first.utf8Size_pos
    have further := second.utf8Size_pos
    have wide : 2 ≤ byteLength (first :: second :: rest) := by
      simp only [byteLength]
      omega
    simp [hasMarks, isEnclosedBy, wide]

/-- A text with two marks is what is between them, and the marks. -/
theorem eq_of_isEnclosedBy
    {mark : Char}
    {text : List Char}
    (enclosed : isEnclosedBy mark text = true) :
    text = [mark] ++ (text.drop 1).dropLast ++ [mark] := by
  simp only [isEnclosedBy, Bool.and_eq_true, decide_eq_true_eq,
    beq_iff_eq] at enclosed
  obtain ⟨⟨long, first⟩, last⟩ := enclosed
  obtain ⟨rest, rfl⟩ := List.head?_eq_some_iff.mp first
  obtain ⟨inner, shape⟩ := List.getLast?_eq_some_iff.mp last
  cases inner with
  | nil =>
      rw [shape] at long
      exact absurd long (by simp)
  | cons other inner =>
      obtain ⟨_, rfl⟩ := List.cons.inj shape
      simp

/-- The slice between the quotation marks of a part is the part without
them. -/
theorem unquotedSlice?_eq
    (text : List Char) :
    unquotedSlice? text = some (unquote text) := by
  rw [unquotedSlice?, unquote, hasMarks_eq rfl, hasMarks_eq rfl]
  have between
      {mark : Char}
      (width : mark.utf8Size = 1)
      (enclosed : isEnclosedBy mark (Text.trim text) = true) :
      slice? (String.ofList (Text.trim text)) 1
          (byteLength (Text.trim text) - 1) =
        some ((Text.trim text).drop 1).dropLast := by
    have shape := eq_of_isEnclosedBy enclosed
    generalize ((Text.trim text).drop 1).dropLast = inner at shape ⊢
    have sliced := Text.slice?_append [mark] inner [mark]
    have total : byteLength (Text.trim text) - 1 = 1 + byteLength inner := by
      rw [shape]
      simp [byteLength, width, Nat.add_comm]
    rw [← shape] at sliced
    rw [total]
    simpa [byteLength, width] using sliced
  split
  · rename_i marked
    rcases Bool.or_eq_true_iff.mp marked with single | double
    · exact between rfl single
    · exact between rfl double
  · rfl

end Tablewright.Directive
