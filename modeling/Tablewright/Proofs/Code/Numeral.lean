import Mathlib.Data.List.Basic
import Tablewright.Column.Creation
import Tablewright.Proofs.Text.Lines

namespace Tablewright.Code

/-!
# Numbers in the generated code

What may stand in the generated code as a number.  Digits may be parted by
single underscores.  A whole number with a zero in front is octal, unless a
letter says that it is hexadecimal, binary or octal; every other number is
decimal and may have a point and an exponent.  A sign may precede the number.
-/

/-- Digits, with single underscores between them. -/
def isDigitGroup (isDigit : Char → Bool) : List Char → Bool
  | [] => false
  | [digit] => isDigit digit
  | digit :: '_' :: rest => isDigit digit && isDigitGroup isDigit rest
  | digit :: rest => isDigit digit && isDigitGroup isDigit rest

def isBinaryDigit (character : Char) : Bool :=
  ['0', '1'].contains character

def isOctalDigit (character : Char) : Bool :=
  ['0', '1', '2', '3', '4', '5', '6', '7'].contains character

def isHexDigit (character : Char) : Bool :=
  character.isDigit ||
    ['a', 'b', 'c', 'd', 'e', 'f'].contains character.toLower

/-- A whole number. -/
def isWhole : List Char → Bool
  | ['0'] => true
  | '0' :: mark :: digits =>
      if ['x', 'X'].contains mark then isDigitGroup isHexDigit digits
      else if ['b', 'B'].contains mark then
        isDigitGroup isBinaryDigit digits
      else if ['o', 'O'].contains mark then
        isDigitGroup isOctalDigit digits
      else isDigitGroup isOctalDigit ('0' :: mark :: digits)
  | text => isDigitGroup Char.isDigit text

/-- What precedes the first of some characters, and what follows it. -/
def cutAt? (stops : Char → Bool) :
    List Char → Option (List Char × List Char)
  | [] => none
  | character :: rest =>
      if stops character then some ([], rest)
      else
        (cutAt? stops rest).map
          fun (before, after) => (character :: before, after)

/-- A decimal number with a point, which has digits on one side at least. -/
def isPointed (text : List Char) : Bool :=
  match cutAt? (· == '.') text with
  | none => false
  | some ([], fraction) => isDigitGroup Char.isDigit fraction
  | some (whole, []) => isDigitGroup Char.isDigit whole
  | some (whole, fraction) =>
      isDigitGroup Char.isDigit whole && isDigitGroup Char.isDigit fraction

def withoutSign : List Char → List Char
  | '+' :: rest => rest
  | '-' :: rest => rest
  | text => text

def isExponentMark (character : Char) : Bool :=
  ['e', 'E'].contains character

/-- A decimal number with an exponent. -/
def isScientific (text : List Char) : Bool :=
  match cutAt? isExponentMark text with
  | none => false
  | some (mantissa, power) =>
      (isPointed mantissa || isDigitGroup Char.isDigit mantissa) &&
        isDigitGroup Char.isDigit (withoutSign power)

/-- A number, with or without a sign in front. -/
def isNumeral (text : List Char) : Bool :=
  isWhole (withoutSign text) || isPointed (withoutSign text) ||
    isScientific (withoutSign text)

example : isNumeral "-1.5e+10".toList = true := by decide
example : isNumeral "0x1F".toList = true := by decide
example : isNumeral "08".toList = false := by decide
example : isNumeral "inf".toList = false := by decide

/-! ## Cutting -/

theorem eq_append_of_cutAt?
    {stops : Char → Bool}
    {text before after : List Char}
    (found : cutAt? stops text = some (before, after)) :
    ∃ stop, stops stop = true ∧ text = before ++ stop :: after := by
  induction text generalizing before with
  | nil => cases found
  | cons first rest inductionHypothesis =>
      rw [cutAt?] at found
      split at found
      · rename_i stop
        cases found
        exact ⟨first, stop, rfl⟩
      · obtain ⟨⟨inside, behind⟩, inRest, same⟩ :=
          Option.map_eq_some_iff.mp found
        cases same
        obtain ⟨stop, stops, rfl⟩ := inductionHypothesis inRest
        exact ⟨stop, stops, rfl⟩

theorem cutAt?_append
    {stops : Char → Bool}
    {before : List Char}
    (inside : ∀ character ∈ before, stops character = false)
    {stop : Char}
    (isStop : stops stop = true)
    (after : List Char) :
    cutAt? stops (before ++ stop :: after) = some (before, after) := by
  induction before with
  | nil => simp [cutAt?, isStop]
  | cons first rest inductionHypothesis =>
      obtain ⟨notFirst, notRest⟩ := List.forall_mem_cons.mp inside
      simp [cutAt?, notFirst, inductionHypothesis notRest]

/-! ## Groups of digits -/

/-- Nothing but digits is a group of digits. -/
theorem isDigitGroup_of_forall
    {isDigit : Char → Bool}
    (noUnderscore : isDigit '_' = false)
    {text : List Char}
    (nonempty : text ≠ [])
    (digits : ∀ character ∈ text, isDigit character = true) :
    isDigitGroup isDigit text = true := by
  induction text with
  | nil => exact (nonempty rfl).elim
  | cons first rest inductionHypothesis =>
      obtain ⟨isFirst, inRest⟩ := List.forall_mem_cons.mp digits
      cases rest with
      | nil => exact isFirst
      | cons second more =>
          have noPart : second ≠ '_' := by
            rintro rfl
            rw [inRest '_' List.mem_cons_self] at noUnderscore
            cases noUnderscore
          rw [isDigitGroup]
          · rw [isFirst, inductionHypothesis (List.cons_ne_nil _ _) inRest]
            rfl
          · exact List.cons_ne_nil _ _
          · rintro _ ⟨⟩
            exact noPart rfl

/-- A group of digits is made of digits and underscores. -/
theorem mem_isDigitGroup
    {isDigit : Char → Bool}
    {text : List Char}
    (group : isDigitGroup isDigit text = true) :
    ∀ character ∈ text, isDigit character = true ∨ character = '_' := by
  fun_induction isDigitGroup isDigit text with
  | case1 => cases group
  | case2 digit => simpa using Or.inl group
  | case3 digit rest inductionHypothesis =>
      obtain ⟨isFirst, isRest⟩ := Bool.and_eq_true_iff.mp group
      have inRest := inductionHypothesis isRest
      rintro character (_ | ⟨_, _ | ⟨_, member⟩⟩)
      · exact Or.inl isFirst
      · exact Or.inr rfl
      · exact inRest character member
  | case4 digit rest _ _ inductionHypothesis =>
      obtain ⟨isFirst, isRest⟩ := Bool.and_eq_true_iff.mp group
      have inRest := inductionHypothesis isRest
      rintro character (_ | ⟨_, member⟩)
      · exact Or.inl isFirst
      · exact inRest character member

theorem ne_nil_of_isDigitGroup
    {isDigit : Char → Bool}
    {text : List Char}
    (group : isDigitGroup isDigit text = true) :
    text ≠ [] := by
  rintro rfl
  cases group

/-! ## Characters of a number -/

/-- The brackets, the comma and the semicolon. -/
def marks : List Char := ['(', ')', '[', ']', ',', ';']

/-- The marks, the quote and the blank. -/
def specials : List Char := marks ++ ['\'', ' ']

/-- No character of a text is special, as can be computed. -/
theorem not_mem_specials
    {text : List Char}
    (none : text.any specials.contains = false) :
    ∀ character ∈ text, character ∉ specials := by
  intro character member special
  exact List.any_eq_false.mp none character member
    (List.contains_iff_mem.mpr special)

/-- A text that has characters, none of which is special. -/
def Plain (text : List Char) : Prop :=
  text ≠ [] ∧ ∀ character ∈ text, character ∉ specials

instance : DecidablePred Plain := fun text =>
  decidable_of_iff (text ≠ [] ∧ text.any specials.contains = false)
    (and_congr_right fun _ =>
      ⟨not_mem_specials, fun plain =>
        List.any_eq_false.mpr fun character member special =>
          plain character member (List.contains_iff_mem.mp special)⟩)

namespace Plain

theorem append
    {first second : List Char}
    (isFirst : Plain first)
    (inSecond : ∀ character ∈ second, character ∉ specials) :
    Plain (first ++ second) := by
  refine ⟨List.append_ne_nil_of_left_ne_nil isFirst.1 _, ?_⟩
  intro character member
  rcases List.mem_append.mp member with inFirst | inRest
  · exact isFirst.2 character inFirst
  · exact inSecond character inRest

theorem cons
    {first : Char}
    {rest : List Char}
    (isFirst : first ∉ specials)
    (inRest : ∀ character ∈ rest, character ∉ specials) :
    Plain (first :: rest) :=
  ⟨List.cons_ne_nil _ _, List.forall_mem_cons.mpr ⟨isFirst, inRest⟩⟩

/-- A group of digits is plain, whatever its digits are. -/
theorem of_isDigitGroup
    {isDigit : Char → Bool}
    (noSpecial : specials.any isDigit = false)
    {text : List Char}
    (group : isDigitGroup isDigit text = true) :
    Plain text := by
  refine ⟨ne_nil_of_isDigitGroup group, ?_⟩
  intro character member special
  rcases mem_isDigitGroup group character member with digit | rfl
  · exact List.any_eq_false.mp noSpecial character special digit
  · revert special
    decide

theorem of_isDigits
    {text : List Char}
    (group : isDigitGroup Char.isDigit text = true) :
    Plain text :=
  of_isDigitGroup (by decide) group

theorem of_isWhole
    {text : List Char}
    (whole : isWhole text = true) :
    Plain text := by
  have zero : '0' ∉ specials := by decide
  have prefixed :
      ∀ letters : List Char, letters.any specials.contains = false →
        ∀ mark, letters.contains mark = true →
          ∀ digits, Plain digits → Plain ('0' :: mark :: digits) := by
    intro letters noSpecial mark isLetter digits plain
    have notSpecial : mark ∉ specials :=
      not_mem_specials noSpecial mark (List.contains_iff_mem.mp isLetter)
    exact cons zero (cons notSpecial plain.2).2
  unfold isWhole at whole
  split at whole
  · exact cons zero (by simp)
  · split at whole
    · exact prefixed ['x', 'X'] (by decide) _ ‹_› _
        (of_isDigitGroup (by decide) whole)
    · split at whole
      · exact prefixed ['b', 'B'] (by decide) _ ‹_› _
          (of_isDigitGroup (by decide) whole)
      · split at whole
        · exact prefixed ['o', 'O'] (by decide) _ ‹_› _
            (of_isDigitGroup (by decide) whole)
        · exact of_isDigitGroup (by decide) whole
  · exact of_isDigits whole

theorem of_isPointed
    {text : List Char}
    (pointed : isPointed text = true) :
    Plain text := by
  have point : '.' ∉ specials := by decide
  unfold isPointed at pointed
  split at pointed
  · cases pointed
  · rename_i found
    obtain ⟨stop, isPoint, rfl⟩ := eq_append_of_cutAt? found
    obtain rfl := beq_iff_eq.mp isPoint
    exact cons point (of_isDigits pointed).2
  · rename_i found
    obtain ⟨stop, isPoint, rfl⟩ := eq_append_of_cutAt? found
    obtain rfl := beq_iff_eq.mp isPoint
    exact (of_isDigits pointed).append (cons point (by simp)).2
  · rename_i found
    obtain ⟨stop, isPoint, rfl⟩ := eq_append_of_cutAt? found
    obtain rfl := beq_iff_eq.mp isPoint
    obtain ⟨whole, fraction⟩ := Bool.and_eq_true_iff.mp pointed
    exact (of_isDigits whole).append
      (cons point (of_isDigits fraction).2).2

/-- A sign is not special. -/
theorem of_withoutSign
    {text : List Char}
    (plain : Plain (withoutSign text)) :
    Plain text := by
  unfold withoutSign at plain
  split at plain
  · exact cons (by decide) plain.2
  · exact cons (by decide) plain.2
  · exact plain

theorem of_isScientific
    {text : List Char}
    (scientific : isScientific text = true) :
    Plain text := by
  unfold isScientific at scientific
  split at scientific
  · cases scientific
  · rename_i mantissa power found
    obtain ⟨stop, marks, rfl⟩ := eq_append_of_cutAt? found
    have noSpecial : stop ∉ specials := by
      rcases List.mem_pair.mp (List.contains_iff_mem.mp marks) with
          rfl | rfl <;> decide
    obtain ⟨isMantissa, isPower⟩ := Bool.and_eq_true_iff.mp scientific
    have behind := of_withoutSign (of_isDigits isPower)
    have front : Plain mantissa := by
      rcases Bool.or_eq_true_iff.mp isMantissa with pointed | digits
      · exact of_isPointed pointed
      · exact of_isDigits digits
    exact front.append (cons noSpecial behind.2).2

/-- No special character stands in a number. -/
theorem of_isNumeral
    {text : List Char}
    (numeral : isNumeral text = true) :
    Plain text := by
  refine of_withoutSign ?_
  simp only [isNumeral, Bool.or_eq_true] at numeral
  rcases numeral with (whole | pointed) | scientific
  · exact of_isWhole whole
  · exact of_isPointed pointed
  · exact of_isScientific scientific

end Plain

/-! ## Texts that are numbers -/

section Digits

variable {digits : List Char}
variable (isDigits : ∀ character ∈ digits, character.isDigit = true)

include isDigits

theorem isDigitGroup_digits
    (nonempty : digits ≠ []) :
    isDigitGroup Char.isDigit digits = true :=
  isDigitGroup_of_forall (by decide) nonempty isDigits

/-- Digits are a whole number, unless the zero in front makes them octal and
one of them is not. -/
theorem isWhole_digits
    (nonempty : digits ≠ [])
    (octal :
      digits.head? = some '0' → digits.all isOctalDigit = true) :
    isWhole digits = true := by
  unfold isWhole
  split
  · rfl
  · rename_i second rest
    have isDigit : second.isDigit = true := isDigits second (by simp)
    have noLetter :
        ∀ letters : List Char,
          letters.any Char.isDigit = false →
            letters.contains second = false := by
      intro letters noDigit
      rw [Bool.eq_false_iff]
      intro member
      exact List.any_eq_false.mp noDigit second
        (List.contains_iff_mem.mp member) isDigit
    rw [noLetter ['x', 'X'] (by decide), noLetter ['b', 'B'] (by decide),
      noLetter ['o', 'O'] (by decide)]
    exact isDigitGroup_of_forall (by decide) nonempty
      (List.all_eq_true.mp (octal rfl))
  · exact isDigitGroup_digits isDigits nonempty

/-- Digits around a point are a number, if there are any. -/
theorem isPointed_digits
    {fraction : List Char}
    (isFraction : ∀ character ∈ fraction, character.isDigit = true)
    (nonempty : digits ≠ [] ∨ fraction ≠ []) :
    isPointed (digits ++ '.' :: fraction) = true := by
  have noPoint :
      ∀ character ∈ digits, (character == '.') = false := by
    intro character member
    rw [beq_eq_false_iff_ne]
    rintro rfl
    exact absurd (isDigits '.' member) (by decide)
  rw [isPointed, cutAt?_append noPoint (by decide)]
  split
  · rename_i empty
    cases empty
  · rename_i same
    cases same
    exact isDigitGroup_digits isFraction (nonempty.resolve_left (· rfl))
  · rename_i same
    cases same
    exact isDigitGroup_digits isDigits ‹_›
  · rename_i same
    cases same
    rw [isDigitGroup_digits isDigits ‹_›,
      isDigitGroup_digits isFraction ‹_›]
    rfl

end Digits

/-! ## Exponents -/

theorem isExponentMark_eq_false_of_digit
    {character : Char}
    (digit : character.isDigit = true) :
    isExponentMark character = false := by
  rw [Bool.eq_false_iff]
  intro mark
  rcases List.mem_pair.mp (List.contains_iff_mem.mp mark) with rfl | rfl
  · cases digit
  · cases digit

section Exponent

variable {whole fraction power : List Char} {mark : Char}
variable (isWhole : ∀ character ∈ whole, character.isDigit = true)
variable (isMark : isExponentMark mark = true)
variable (isPower : isDigitGroup Char.isDigit (withoutSign power) = true)

include isWhole isMark isPower

/-- Digits in front of an exponent are a number. -/
theorem isScientific_digits
    (nonempty : whole ≠ []) :
    isScientific (whole ++ mark :: power) = true := by
  have noMark :
      ∀ character ∈ whole, isExponentMark character = false :=
    fun character member =>
      isExponentMark_eq_false_of_digit (isWhole character member)
  rw [isScientific, cutAt?_append noMark isMark]
  simp [isDigitGroup_digits isWhole nonempty, isPower]

/-- Digits around a point, in front of an exponent, are a number. -/
theorem isScientific_pointed
    (isFraction : ∀ character ∈ fraction, character.isDigit = true)
    (nonempty : whole ≠ [] ∨ fraction ≠ []) :
    isScientific (whole ++ '.' :: (fraction ++ mark :: power)) = true := by
  have noMark :
      ∀ character ∈ whole ++ '.' :: fraction,
        isExponentMark character = false := by
    intro character member
    rcases List.mem_append.mp member with inWhole | inRest
    · exact isExponentMark_eq_false_of_digit (isWhole character inWhole)
    · rcases List.mem_cons.mp inRest with rfl | inFraction
      · decide
      · exact isExponentMark_eq_false_of_digit
          (isFraction character inFraction)
  have shape :
      whole ++ '.' :: (fraction ++ mark :: power) =
        (whole ++ '.' :: fraction) ++ mark :: power := by
    simp
  rw [shape, isScientific, cutAt?_append noMark isMark]
  simp [isPointed_digits isWhole isFraction nonempty, isPower]

end Exponent

/-! ## Widths that are copied -/

/-- Digits that are octal because of the zero in front, although one of them
is no octal digit. -/
def isMisreadOctal (text : List Char) : Bool :=
  text.head? == some '0' && text.all Char.isDigit &&
    !text.all isOctalDigit

theorem isNumber_eq
    (text : List Char) :
    isNumber text =
      (isNumberWord (withoutSign text) ||
        isUnsignedNumber (withoutSign text)) := by
  rcases text with _ | ⟨first, rest⟩
  · rfl
  · by_cases plus : first = '+'
    · subst plus
      rfl
    · by_cases minus : first = '-'
      · subst minus
        rfl
      · simp [isNumber, withoutSign, plus, minus]

/-- An exponent with its mark and its digits. -/
theorem exists_of_isExponent
    {text : List Char}
    (exponent : isExponent text = true)
    (nonempty : text ≠ []) :
    ∃ mark power,
      text = mark :: power ∧
        isExponentMark mark = true ∧
        isDigitGroup Char.isDigit (withoutSign power) = true := by
  cases text with
  | nil => exact (nonempty rfl).elim
  | cons mark power =>
      simp only [isExponent, Bool.and_eq_true, Bool.or_eq_true,
        Bool.not_eq_true', List.isEmpty_eq_false_iff, List.all_eq_true]
        at exponent
      obtain ⟨⟨marks, some⟩, digits⟩ := exponent
      refine ⟨mark, power, rfl, by simpa [isExponentMark] using marks, ?_⟩
      exact isDigitGroup_digits digits some

/-- A decimal number has digits in front, or around a point, and may have an
exponent. -/
theorem isUnsignedNumber_cases
    {text : List Char}
    (number : isUnsignedNumber text = true) :
    ∃ whole exponent,
      (∀ character ∈ whole, character.isDigit = true) ∧
        isExponent exponent = true ∧
        (text = whole ++ exponent ∧ whole ≠ [] ∨
          ∃ fraction,
            (∀ character ∈ fraction, character.isDigit = true) ∧
              text = whole ++ '.' :: (fraction ++ exponent) ∧
              (whole ≠ [] ∨ fraction ≠ [])) := by
  have front :
      ∀ text : List Char, ∀ character ∈ text.takeWhile Char.isDigit,
        character.isDigit = true :=
    fun _ => List.all_eq_true.mp List.all_takeWhile
  have parts :
      text.takeWhile Char.isDigit ++ text.dropWhile Char.isDigit = text :=
    List.takeWhile_append_dropWhile
  unfold isUnsignedNumber at number
  dsimp only at number
  split at number
  · rename_i rest behind
    obtain ⟨some, isExponent⟩ := Bool.and_eq_true_iff.mp number
    refine ⟨_, _, front text, isExponent, Or.inr
      ⟨_, front rest, ?_, ?_⟩⟩
    · rw [List.takeWhile_append_dropWhile, ← behind, parts]
    · simpa [List.isEmpty_iff, imp_iff_not_or] using some
  · obtain ⟨some, isExponent⟩ := Bool.and_eq_true_iff.mp number
    exact ⟨_, _, front text, isExponent,
      Or.inl ⟨parts.symm, by simpa [List.isEmpty_iff] using some⟩⟩

/-- A decimal number is a number of the code, unless it is misread as an octal
one. -/
theorem isNumeral_of_isUnsignedNumber
    {text : List Char}
    (number : isUnsignedNumber text = true)
    (decimal : isMisreadOctal text = false) :
    isWhole text = true ∨ isPointed text = true ∨
      isScientific text = true := by
  obtain ⟨whole, exponent, front, isExponent,
      ⟨rfl, nonempty⟩ | ⟨fraction, isFraction, rfl, nonempty⟩⟩ :=
    isUnsignedNumber_cases number
  · by_cases ends : exponent = []
    · subst ends
      rw [List.append_nil] at decimal ⊢
      refine Or.inl (isWhole_digits front nonempty ?_)
      intro zero
      simpa [isMisreadOctal, zero, List.all_eq_true.mpr front]
        using decimal
    · obtain ⟨mark, power, rfl, isMark, isPower⟩ :=
        exists_of_isExponent isExponent ends
      exact Or.inr (Or.inr
        (isScientific_digits front isMark isPower nonempty))
  · by_cases ends : exponent = []
    · subst ends
      rw [List.append_nil]
      exact Or.inr (Or.inl (isPointed_digits front isFraction nonempty))
    · obtain ⟨mark, power, rfl, isMark, isPower⟩ :=
        exists_of_isExponent isExponent ends
      exact Or.inr (Or.inr
        (isScientific_pointed front isMark isPower isFraction nonempty))

/-- A width that is copied is a number of the code, unless it is one of the
words for a number that is not finite or is misread as an octal number. -/
theorem isNumeral_of_isNumber
    {text : List Char}
    (number : isNumber text = true)
    (finite : isNumberWord (withoutSign text) = false)
    (decimal : isMisreadOctal (withoutSign text) = false) :
    isNumeral text = true := by
  rw [isNumber_eq, finite, Bool.false_or] at number
  simp only [isNumeral, Bool.or_eq_true, or_assoc]
  exact isNumeral_of_isUnsignedNumber number decimal

end Tablewright.Code
