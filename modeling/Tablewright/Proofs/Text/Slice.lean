import Tablewright.Proofs.Text.Lines

namespace Tablewright.Text

/-!
# Slices by byte positions

A string is sliced at positions in its bytes.  A slice exists only between
two positions that are in range, in order and between characters.  The byte
lengths of the parts of a text are such positions, and the slices at them are
these parts.
-/

/-- The number of bytes of a text. -/
def byteLength : List Char → Nat
  | [] => 0
  | character :: rest => character.utf8Size + byteLength rest

/-- The slice of a string between two byte positions, if it has one. -/
def slice? (text : String) (start stop : Nat) : Option (List Char) :=
  if valid :
      start ≤ stop ∧ (⟨start⟩ : String.Pos.Raw).IsValid text ∧
        (⟨stop⟩ : String.Pos.Raw).IsValid text then
    some (text.extract (text.pos ⟨start⟩ valid.2.1)
      (text.pos ⟨stop⟩ valid.2.2)).toList
  else none

/-- The slice of a string from a byte position to its end. -/
def sliceFrom? (text : String) (start : Nat) : Option (List Char) :=
  slice? text start text.utf8ByteSize

@[simp]
theorem byteLength_append
    (first second : List Char) :
    byteLength (first ++ second) = byteLength first + byteLength second := by
  induction first with
  | nil => simp [byteLength]
  | cons character rest inductionHypothesis =>
      simp [byteLength, inductionHypothesis, Nat.add_assoc]

theorem byteLength_eq_utf8ByteSize
    (text : List Char) :
    byteLength text = (String.ofList text).utf8ByteSize := by
  induction text with
  | nil => simp [byteLength]
  | cons character rest inductionHypothesis =>
      rw [← List.singleton_append, String.ofList_append,
        String.utf8ByteSize_append, ← inductionHypothesis]
      simp [byteLength]

/-- Only the empty text has no bytes. -/
theorem byteLength_eq_zero_iff
    {text : List Char} :
    byteLength text = 0 ↔ text = [] := by
  cases text with
  | nil => simp [byteLength]
  | cons character rest =>
      have positive := character.utf8Size_pos
      simp [byteLength]
      omega

/-- The byte length of an initial part is a position between characters. -/
theorem isValid_byteLength
    (before after : List Char) :
    (⟨byteLength before⟩ : String.Pos.Raw).IsValid
      (String.ofList (before ++ after)) := by
  refine String.Pos.Raw.isValid_iff_exists_append.mpr
    ⟨String.ofList before, String.ofList after, String.ofList_append, ?_⟩
  rw [byteLength_eq_utf8ByteSize]
  rfl

/-- The slice between the byte lengths of two initial parts of a text is what
the longer has more than the shorter. -/
theorem slice?_append
    (before inner after : List Char) :
    slice? (String.ofList (before ++ inner ++ after)) (byteLength before)
        (byteLength before + byteLength inner) =
      some inner := by
  have starts := isValid_byteLength before (inner ++ after)
  have stops := isValid_byteLength (before ++ inner) after
  rw [← List.append_assoc] at starts
  rw [byteLength_append] at stops
  rw [slice?, dif_pos ⟨Nat.le_add_right _ _, starts, stops⟩]
  refine congrArg some ?_
  have extracted :
      (String.ofList (before ++ inner ++ after)).extract
          (String.pos _ ⟨byteLength before⟩ starts)
          (String.pos _ ⟨byteLength before + byteLength inner⟩ stops) =
        String.ofList inner := by
    apply String.toByteArray_inj.mp
    rw [String.toByteArray_extract]
    simp [byteLength_eq_utf8ByteSize, ← String.size_toByteArray]
    have behind :=
      ByteArray.extract_append_size_add (a := before.utf8Encode)
        (b := inner.utf8Encode ++ after.utf8Encode) (i := 0)
        (j := inner.utf8Encode.size)
    rw [Nat.add_zero] at behind
    rw [behind, ByteArray.extract_append_eq_left rfl]
  rw [extracted, String.toList_ofList]

/-- The slice from the byte length of an initial part to the end is the rest
of a text. -/
theorem sliceFrom?_append
    (before rest : List Char) :
    sliceFrom? (String.ofList (before ++ rest)) (byteLength before) =
      some rest := by
  have whole := slice?_append before rest []
  rwa [List.append_nil, ← byteLength_append,
    byteLength_eq_utf8ByteSize (before ++ rest)] at whole

end Tablewright.Text
