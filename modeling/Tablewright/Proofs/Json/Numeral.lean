import Tablewright.Proofs.Code.Numeral
import Tablewright.Proofs.Decimal.Shortest

namespace Tablewright

/-!
# Numbers of a document in the generated code

The text of a number is a number of the generated code as well: an integer has
no zero in front, and a double always has a point or an exponent.
-/

open Code

namespace Code

/-- A digit is no sign. -/
theorem withoutSign_of_digit
    {text : List Char}
    (digit :
      ∀ character, text.head? = some character →
        character.isDigit = true) :
    withoutSign text = text := by
  unfold withoutSign
  split
  · cases digit '+' rfl
  · cases digit '-' rfl
  · rfl

theorem isDigit_toDigits
    (number : Nat) :
    ∀ character ∈ Nat.toDigits 10 number, character.isDigit = true :=
  fun _ member => Nat.isDigit_of_mem_toDigits (by decide) (by decide) member

/-- A number that begins with a digit may have a minus sign. -/
theorem isNumeral_append
    {sign text : List Char}
    (isSign : sign = [] ∨ sign = ['-'])
    (digit :
      ∀ character, text.head? = some character →
        character.isDigit = true)
    (magnitude :
      isWhole text = true ∨ isPointed text = true ∨
        isScientific text = true) :
    isNumeral (sign ++ text) = true := by
  have unsigned : withoutSign (sign ++ text) = text := by
    rcases isSign with rfl | rfl
    · exact withoutSign_of_digit digit
    · rfl
  simpa [isNumeral, unsigned, or_assoc] using magnitude

/-- The digits of a natural number are a whole number. -/
theorem isWhole_toDigits
    (number : Nat) :
    isWhole (Nat.toDigits 10 number) = true := by
  refine isWhole_digits (isDigit_toDigits number) Nat.toDigits_ne_nil ?_
  intro zero
  rw [Json.Parser.head?_toDigits_eq_zero zero]
  decide

/-- The digits of an exponent, with or without a sign. -/
theorem isDigitGroup_withoutSign
    (sign : List Char)
    (isSign : sign = [] ∨ sign = ['+'] ∨ sign = ['-'])
    (number : Nat) :
    isDigitGroup Char.isDigit
      (withoutSign (sign ++ Nat.toDigits 10 number)) = true := by
  have digits := isDigit_toDigits number
  have group := isDigitGroup_digits digits Nat.toDigits_ne_nil
  rcases isSign with rfl | rfl | rfl
  · rw [List.nil_append, withoutSign_of_digit]
    · exact group
    · exact fun character isHead =>
        digits character (List.mem_of_head? isHead)
  · exact group
  · exact group

end Code

namespace Decimal

namespace Digits

variable {written : Digits}
variable (isDigits : ∀ character ∈ written.digits, character.isDigit = true)

include isDigits

/-- A plain decimal has digits around its point. -/
theorem exists_of_plain :
    ∃ whole fraction,
      written.plain = whole ++ '.' :: fraction ∧
        whole ≠ [] ∧
        (∀ character ∈ whole, character.isDigit = true) ∧
        ∀ character ∈ fraction, character.isDigit = true := by
  have zeros :
      ∀ count, ∀ character ∈ List.replicate count '0',
        character.isDigit = true := by
    intro count character member
    rw [List.eq_of_mem_replicate member]
    decide
  unfold plain
  split
  · refine ⟨['0'], _, rfl, List.cons_ne_nil _ _,
      List.forall_mem_singleton.mpr rfl, ?_⟩
    intro character member
    rcases List.mem_append.mp member with inZeros | inDigits
    · exact zeros _ character inZeros
    · exact isDigits character inDigits
  · have padded :
        ∀ character ∈
            written.digits ++
              List.replicate
                (written.order.toNat + 1 - written.digits.length) '0',
          character.isDigit = true := by
      intro character member
      rcases List.mem_append.mp member with inDigits | inZeros
      · exact isDigits character inDigits
      · exact zeros _ character inZeros
    dsimp only
    rw [List.append_assoc, List.singleton_append]
    refine ⟨_, _, rfl, ?_, ?_, ?_⟩
    · apply List.ne_nil_of_length_pos
      simp only [List.length_take, List.length_append,
        List.length_replicate]
      omega
    · exact fun character member =>
        padded character (List.mem_of_mem_take member)
    · split
      · exact List.forall_mem_singleton.mpr rfl
      · exact fun character member =>
          padded character (List.mem_of_mem_drop member)

/-- A decimal with an exponent begins with a digit. -/
theorem isDigit_head?_scientific
    (nonempty : written.digits ≠ [])
    (exponentSign : Bool)
    {character : Char}
    (isHead :
      (written.scientific exponentSign).head? = some character) :
    character.isDigit = true := by
  obtain ⟨first, rest, same⟩ := List.exists_cons_of_ne_nil nonempty
  rw [same] at isDigits
  simp only [scientific, same, List.take_succ_cons, List.cons_append,
    List.head?_cons, Option.some.injEq] at isHead
  exact isHead ▸ isDigits first List.mem_cons_self

/-- A decimal with an exponent has digits in front. -/
theorem isScientific_scientific
    (nonempty : written.digits ≠ [])
    (exponentSign : Bool) :
    isScientific (written.scientific exponentSign) = true := by
  obtain ⟨first, rest, same⟩ := List.exists_cons_of_ne_nil nonempty
  rw [same] at isDigits
  obtain ⟨isFirst, isRest⟩ := List.forall_mem_cons.mp isDigits
  have front : ∀ character ∈ [first], character.isDigit = true := by
    simpa using isFirst
  have sign :
      (if written.order < 0 then ['-']
        else if exponentSign then ['+'] else []) = [] ∨
      (if written.order < 0 then ['-']
        else if exponentSign then ['+'] else []) = ['+'] ∨
      (if written.order < 0 then ['-']
        else if exponentSign then ['+'] else []) = ['-'] := by
    split
    · simp
    · split <;> simp
  have power :=
    isDigitGroup_withoutSign _ sign written.order.natAbs
  have isMark : isExponentMark 'e' = true := by decide
  unfold scientific
  simp only [same, List.drop_succ_cons, List.drop_zero, List.take_succ_cons,
    List.take_zero, List.append_assoc, List.singleton_append]
  cases rest with
  | nil =>
      exact isScientific_digits front isMark power (List.cons_ne_nil _ _)
  | cons second more =>
      exact isScientific_pointed front isMark power isRest
        (Or.inl (List.cons_ne_nil _ _))

end Digits

/-- The text of a double is a number of the code. -/
theorem Double.isNumeral_text
    {value : Double}
    (fits : value.Fits)
    (layout : Layout) :
    isNumeral (value.text layout) = true := by
  have sign :
      (if value.negative then ['-'] else []) = [] ∨
        (if value.negative then ['-'] else []) = ['-'] := by
    split <;> simp
  unfold text
  dsimp only
  split
  · exact isNumeral_append sign (by rintro _ ⟨⟩; decide) (by decide)
  · rename_i nonzero
    obtain ⟨nonempty, isDigits⟩ := digits_shortest fits nonzero
    split
    · obtain ⟨whole, fraction, shape, some, isWhole, isFraction⟩ :=
        Digits.exists_of_plain isDigits
      rw [shape]
      refine isNumeral_append sign ?_
        (Or.inr (Or.inl (isPointed_digits isWhole isFraction
          (Or.inl some))))
      intro character isHead
      rw [List.head?_append_of_ne_nil _ some] at isHead
      exact isWhole character (List.mem_of_head? isHead)
    · exact isNumeral_append sign
        (fun _ => Digits.isDigit_head?_scientific isDigits nonempty _)
        (Or.inr (Or.inr
          (Digits.isScientific_scientific isDigits nonempty _)))

end Decimal

namespace Json

/-- A number that can be stored: the significand of a double has 53 bits. -/
def Number.Fits : Number → Prop
  | .integer _ => True
  | .double value => value.Fits

/-- The text of a number is a number of the code. -/
theorem Number.isNumeral_text
    {number : Number}
    (fits : number.Fits) :
    isNumeral number.text = true := by
  have wholeDigits :
      ∀ value sign, sign = [] ∨ sign = ['-'] →
        isNumeral (sign ++ Nat.toDigits 10 value) = true :=
    fun value sign isSign =>
      isNumeral_append isSign
        (fun character isHead =>
          isDigit_toDigits value character (List.mem_of_head? isHead))
        (Or.inl (isWhole_toDigits value))
  match number with
  | .integer (.ofNat value) => exact wholeDigits value [] (Or.inl rfl)
  | .integer (.negSucc value) =>
      exact wholeDigits (value + 1) ['-'] (Or.inr rfl)
  | .double value => exact Decimal.Double.isNumeral_text fits _

/-! ## Numbers that are read -/

namespace Parser

variable {negative : Bool} {number : Number}

/-- A number without point and exponent can be stored. -/
theorem fits_of_wholeNumber?
    {collected : Collected}
    (read : wholeNumber? negative collected = some number) :
    number.Fits := by
  unfold wholeNumber? at read
  dsimp only at read
  split at read
  · obtain ⟨double, rounded, rfl⟩ := Option.map_eq_some_iff.mp read
    exact Decimal.Double.fits_of_ofDecimal? rounded
  · obtain rfl := Option.some.inj read
    trivial

/-- A number whose sign has been read can be stored. -/
theorem fits_of_unsignedNumber?
    {input rest : List Char}
    (read : unsignedNumber? negative input = some (number, rest)) :
    number.Fits := by
  unfold unsignedNumber? at read
  split at read
  · cases read
  · dsimp only at read
    split at read
    · cases read
    · obtain ⟨⟨fraction, afterFraction⟩, _, read⟩ :=
        Option.bind_eq_some_iff.mp read
      obtain ⟨⟨exponent, afterExponent⟩, _, read⟩ :=
        Option.bind_eq_some_iff.mp read
      dsimp only at read
      split at read
      · obtain ⟨whole, isWhole, same⟩ := Option.map_eq_some_iff.mp read
        obtain ⟨rfl, rfl⟩ := Prod.mk.inj same
        exact fits_of_wholeNumber? isWhole
      · obtain ⟨double, rounded, same⟩ := Option.map_eq_some_iff.mp read
        obtain ⟨rfl, rfl⟩ := Prod.mk.inj same
        exact Decimal.Double.fits_of_ofDecimal? rounded

/-- Every number that is read can be stored. -/
theorem fits_of_number?
    {input rest : List Char}
    (read : number? input = some (number, rest)) :
    number.Fits := by
  unfold number? at read
  split at read
  · exact fits_of_unsignedNumber? read
  · exact fits_of_unsignedNumber? read

end Parser

end Json

end Tablewright
