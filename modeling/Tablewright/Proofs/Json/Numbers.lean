import Mathlib.Data.List.TakeWhile
import Tablewright.Json.Printer
import Tablewright.Proofs.Json.Delivery
import Tablewright.Proofs.Text.Lines

namespace Tablewright.Json

/-!
# Numbers that are read back

A number ends where no digit, point or exponent follows it.  Every integer
that is kept exactly is read back from its digits.
-/

namespace Parser

/-- The digits of an exponent whose sign has been read. -/
def exponentDigits? (negative : Bool) (input : List Char) :
    Option (Option Int × List Char) :=
  match spanDigits input with
  | ([], _) => none
  | (digits, rest) =>
      let magnitude : Int :=
        digits.foldl (fun total digit => total * 10 + digitValue digit) 0
      some (some (if negative then -magnitude else magnitude), rest)

section Exponent

variable {mark : Char} (marks : mark = 'e' ∨ mark = 'E')

include marks

theorem exponent?_minus
    (rest : List Char) :
    exponent? (mark :: '-' :: rest) = exponentDigits? true rest := by
  rcases marks with rfl | rfl
  · rfl
  · rfl

theorem exponent?_plus
    (rest : List Char) :
    exponent? (mark :: '+' :: rest) = exponentDigits? false rest := by
  rcases marks with rfl | rfl
  · rfl
  · rfl

theorem exponent?_unsigned
    {rest : List Char}
    (unsigned :
      ∀ sign more, rest = sign :: more → sign ≠ '-' ∧ sign ≠ '+') :
    exponent? (mark :: rest) = exponentDigits? false rest := by
  rcases marks with rfl | rfl
  · rw [exponent?]
    · rfl
    · rintro more rfl
      exact (unsigned _ more rfl).1 rfl
    · rintro more rfl
      exact (unsigned _ more rfl).2 rfl
  · rw [exponent?]
    · rfl
    · rintro more rfl
      exact (unsigned _ more rfl).1 rfl
    · rintro more rfl
      exact (unsigned _ more rfl).2 rfl

end Exponent

/-- No exponent stands where nothing marks one. -/
theorem exponent?_absent
    {input : List Char}
    (unmarked :
      ∀ mark more, input = mark :: more → mark ≠ 'e' ∧ mark ≠ 'E') :
    exponent? input = some (none, input) := by
  unfold exponent?
  split
  · exact ((unmarked _ _ rfl).1 rfl).elim
  · exact ((unmarked _ _ rfl).2 rfl).elim
  · exact ((unmarked _ _ rfl).1 rfl).elim
  · exact ((unmarked _ _ rfl).2 rfl).elim
  · exact ((unmarked _ _ rfl).1 rfl).elim
  · exact ((unmarked _ _ rfl).2 rfl).elim
  · rfl

/-- A text ends a number in front of it: it is empty, or begins with a comma
or a line break. -/
def EndsNumber (rest : List Char) : Prop :=
  ∀ character, rest.head? = some character →
    character = ',' ∨ character = '\n'

theorem endsNumber_nil : EndsNumber [] := by
  intro character isHead
  cases isHead

theorem endsNumber_comma (rest : List Char) : EndsNumber (',' :: rest) := by
  intro character isHead
  exact Or.inl (Option.some.inj isHead).symm

theorem endsNumber_newline (rest : List Char) :
    EndsNumber ('\n' :: rest) := by
  intro character isHead
  exact Or.inr (Option.some.inj isHead).symm

/-- A number without a minus sign has no sign. -/
theorem number?_unsigned
    {first : Char}
    {rest : List Char}
    (unsigned : first ≠ '-') :
    number? (first :: rest) = unsignedNumber? false (first :: rest) := by
  rw [number?]
  rintro _ ⟨⟩
  exact unsigned rfl

namespace EndsNumber

variable {rest : List Char} (ends : EndsNumber rest)

include ends

/-- Digits end where a number ends. -/
theorem spanDigits_append
    (text : List Char) :
    spanDigits (text ++ rest) =
      ((spanDigits text).1, (spanDigits text).2 ++ rest) := by
  cases rest with
  | nil => simp
  | cons stop more =>
      have stops : stop.isDigit = false := by
        rcases ends stop rfl with rfl | rfl
        · decide
        · decide
      simp only [spanDigits, Text.takeWhile_append_stop _ stops,
        Text.dropWhile_append_stop _ stops]

/-- A number ends as it does alone if nothing of it stands there. -/
theorem ne_of_head
    {character stop : Char}
    {more : List Char}
    (same : rest = stop :: more)
    (other : character ≠ ',' ∧ character ≠ '\n') :
    stop ≠ character := by
  rintro rfl
  subst same
  rcases ends stop rfl with comma | newline
  · exact other.1 comma
  · exact other.2 newline

/-- A fraction ends where a number ends. -/
theorem fraction?_append
    (text : List Char) :
    fraction? (text ++ rest) =
      (fraction? text).map
        fun (fraction, left) => (fraction, left ++ rest) := by
  cases text with
  | nil =>
      rw [List.nil_append, fraction?.eq_def rest]
      split
      · exact (ends.ne_of_head rfl (by decide) rfl).elim
      · rfl
  | cons first tail =>
      by_cases point : first = '.'
      · subst point
        rw [List.cons_append, fraction?, fraction?,
          ends.spanDigits_append]
        obtain ⟨digits, left⟩ := spanDigits tail
        cases digits <;> rfl
      · rw [List.cons_append, fraction?, fraction?]
        · rfl
        · rintro _ ⟨⟩
          exact point rfl
        · rintro _ ⟨⟩
          exact point rfl

/-- The digits of an exponent end where a number ends. -/
theorem exponentDigits?_append
    (negative : Bool)
    (text : List Char) :
    exponentDigits? negative (text ++ rest) =
      (exponentDigits? negative text).map
        fun (exponent, left) => (exponent, left ++ rest) := by
  unfold exponentDigits?
  rw [ends.spanDigits_append]
  obtain ⟨digits, left⟩ := spanDigits text
  cases digits <;> rfl

/-- An exponent ends where a number ends. -/
theorem exponent?_append
    (text : List Char) :
    exponent? (text ++ rest) =
      (exponent? text).map
        fun (exponent, left) => (exponent, left ++ rest) := by
  cases text with
  | nil =>
      rw [List.nil_append, exponent?_absent fun mark more same =>
        ⟨ends.ne_of_head same (by decide), ends.ne_of_head same (by decide)⟩]
      rfl
  | cons mark tail =>
      rw [List.cons_append]
      by_cases marks : mark = 'e' ∨ mark = 'E'
      · by_cases minus : ∃ others, tail = '-' :: others
        · obtain ⟨others, rfl⟩ := minus
          rw [List.cons_append, exponent?_minus marks,
            exponent?_minus marks, ends.exponentDigits?_append]
        · by_cases plus : ∃ others, tail = '+' :: others
          · obtain ⟨others, rfl⟩ := plus
            rw [List.cons_append, exponent?_plus marks,
              exponent?_plus marks, ends.exponentDigits?_append]
          · have unsigned :
                ∀ sign more, tail = sign :: more →
                  sign ≠ '-' ∧ sign ≠ '+' := by
              rintro sign more rfl
              exact ⟨fun same => minus ⟨more, by rw [same]⟩,
                fun same => plus ⟨more, by rw [same]⟩⟩
            have stillUnsigned :
                ∀ sign more, tail ++ rest = sign :: more →
                  sign ≠ '-' ∧ sign ≠ '+' := by
              intro sign more same
              cases tail with
              | nil =>
                  exact ⟨ends.ne_of_head same (by decide),
                    ends.ne_of_head same (by decide)⟩
              | cons first others =>
                  obtain ⟨rfl, _⟩ := List.cons.inj same
                  exact unsigned first others rfl
            rw [exponent?_unsigned marks stillUnsigned,
              exponent?_unsigned marks unsigned,
              ends.exponentDigits?_append]
      · have unmarked :
            ∀ more other others, mark :: more = other :: others →
              other ≠ 'e' ∧ other ≠ 'E' := by
          rintro more other others ⟨⟩
          exact not_or.mp marks
        rw [exponent?_absent (unmarked _), exponent?_absent (unmarked _)]
        rfl

/-- A number is the same with text behind it that ends it. -/
theorem unsignedNumber?_append
    (negative : Bool)
    (text : List Char) :
    unsignedNumber? negative (text ++ rest) =
      (unsignedNumber? negative text).map
        fun (number, left) => (number, left ++ rest) := by
  unfold unsignedNumber?
  rw [ends.spanDigits_append]
  obtain ⟨digits, behind⟩ := spanDigits text
  cases digits with
  | nil => rfl
  | cons digit others =>
      dsimp only
      split
      · rfl
      · rw [ends.fraction?_append]
        cases fraction? behind with
        | none => rfl
        | some found =>
            obtain ⟨fraction, behind⟩ := found
            simp only [Option.map_some, Option.bind_some,
              ends.exponent?_append]
            cases exponent? behind with
            | none => rfl
            | some found =>
                obtain ⟨exponent, behind⟩ := found
                simp only [Option.map_some, Option.bind_some]
                split
                · rw [Option.map_map]
                  rfl
                · rw [Option.map_map]
                  rfl

/-- A number that is read with nothing left over is read in front of text
that ends it. -/
theorem number?_append
    {text : List Char}
    {number : Number}
    (read : number? text = some (number, [])) :
    number? (text ++ rest) = some (number, rest) := by
  cases text with
  | nil => cases read
  | cons first more =>
      rw [List.cons_append]
      by_cases minus : first = '-'
      · subst minus
        rw [number?] at read ⊢
        rw [ends.unsignedNumber?_append, read]
        rfl
      · rw [number?_unsigned minus] at read ⊢
        rw [← List.cons_append, ends.unsignedNumber?_append, read]
        rfl

end EndsNumber

/-! ## Integers -/

/-- What holds of each digit and passes from a number to any with one more
digit holds of all numbers. -/
theorem decimal_induction
    {motive : Nat → Prop}
    (digit : ∀ number < 10, motive number)
    (more : ∀ number, 10 ≤ number → motive (number / 10) → motive number)
    (number : Nat) :
    motive number := by
  induction number using Nat.strongRecOn with
  | ind number inductionHypothesis =>
      by_cases isDigit : number < 10
      · exact digit number isDigit
      · exact more number (by omega)
          (inductionHypothesis (number / 10) (by omega))

/-- A digit stands for its number. -/
theorem digitValue_digitChar
    {number : Nat}
    (isDigit : number < 10) :
    digitValue number.digitChar = number :=
  Nat.toNat_digitChar_sub_48_of_lt_ten isDigit

/-- Only zero is written with a zero in front. -/
theorem head?_toDigits_eq_zero
    {number : Nat}
    (zero : (Nat.toDigits 10 number).head? = some '0') :
    number = 0 := by
  induction number using decimal_induction with
  | digit number isDigit =>
      rw [Nat.toDigits_of_lt_base isDigit] at zero
      simpa using zero
  | more number large inductionHypothesis =>
      rw [Nat.toDigits_of_base_le (by decide) large,
        List.head?_append_of_ne_nil _ Nat.toDigits_ne_nil] at zero
      have := inductionHypothesis zero
      omega

/-- The digits of a number within the limit are collected to it. -/
theorem foldl_addWhole_toDigits
    {number : Nat}
    (atMost : number ≤ significandLimit) :
    (Nat.toDigits 10 number).foldl Collected.addWhole ⟨0, 0, false⟩ =
      ⟨number, 0, false⟩ := by
  induction number using decimal_induction with
  | digit number isDigit =>
      rw [Nat.toDigits_of_lt_base isDigit]
      simp [Collected.addWhole, digitValue_digitChar isDigit, atMost]
  | more number large inductionHypothesis =>
      have whole : number / 10 * 10 + number % 10 = number := by omega
      rw [Nat.toDigits_of_base_le (by decide) large, List.foldl_append,
        inductionHypothesis (by omega)]
      simp [Collected.addWhole,
        digitValue_digitChar (Nat.mod_lt number (by decide)), whole, atMost]

theorem spanDigits_toDigits
    (number : Nat) :
    spanDigits (Nat.toDigits 10 number) = (Nat.toDigits 10 number, []) := by
  have digits :
      ∀ character ∈ Nat.toDigits 10 number, character.isDigit = true :=
    fun character member =>
      Nat.isDigit_of_mem_toDigits (by decide) (by decide) member
  rw [spanDigits, List.takeWhile_eq_self_iff.mpr digits,
    List.dropWhile_eq_nil_iff.mpr digits]

/-- The digits of a number within the limit are read as a whole number. -/
theorem unsignedNumber?_toDigits
    (negative : Bool)
    {number : Nat}
    (atMost : number ≤ significandLimit) :
    unsignedNumber? negative (Nat.toDigits 10 number) =
      (wholeNumber? negative ⟨number, 0, false⟩).map
        fun number => (number, []) := by
  have noLeadingZero :
      ((Nat.toDigits 10 number).head? == some '0' &&
          (Nat.toDigits 10 number).length != 1) = false := by
    by_cases zero : number = 0
    · subst zero
      rfl
    · have noZero : (Nat.toDigits 10 number).head? ≠ some '0' :=
        fun isZero => zero (head?_toDigits_eq_zero isZero)
      rw [beq_false_of_ne noZero, Bool.false_and]
  unfold unsignedNumber?
  rw [spanDigits_toDigits]
  split
  · rename_i none
    exact (Nat.toDigits_ne_nil (Prod.mk.inj none).1).elim
  · rename_i _ digits rest _ same
    obtain ⟨rfl, rfl⟩ := Prod.mk.inj same
    rw [noLeadingZero]
    simp only [Bool.false_eq_true, ↓reduceIte, fraction?, exponent?,
      Option.bind_some, foldl_addWhole_toDigits atMost]

end Parser

/-- A number is read back from its text. -/
def Number.ReadsBack (number : Number) : Prop :=
  Parser.number? number.text = some (number, [])

/-- Every integer in range is read back. -/
theorem Number.readsBack_integer
    {value : Int}
    (inRange : (integer value).InRange) :
    (integer value).ReadsBack := by
  have limit : Parser.significandLimit = 2 ^ 64 - 1 := by decide
  obtain ⟨least, greatest⟩ := inRange
  rw [Nat.pow_eq] at least greatest
  cases value with
  | ofNat value =>
      have atMost : value ≤ Parser.significandLimit := by
        rw [limit]
        simp only [Int.ofNat_eq_natCast] at greatest
        omega
      have unsigned :
          Parser.number? (Nat.toDigits 10 value) =
            Parser.unsignedNumber? false (Nat.toDigits 10 value) := by
        cases digits : Nat.toDigits 10 value with
        | nil => rfl
        | cons first rest =>
            refine Parser.number?_unsigned ?_
            rintro rfl
            have isDigit :=
              Nat.isDigit_of_mem_toDigits (by decide) (by decide)
                (digits ▸ List.mem_cons_self)
            revert isDigit
            decide
      unfold ReadsBack text
      dsimp only
      rw [unsigned, Parser.unsignedNumber?_toDigits false atMost]
      rfl
  | negSucc value =>
      have atMost : value + 1 ≤ Parser.significandLimit := by
        rw [limit]
        omega
      unfold ReadsBack text
      dsimp only
      rw [Parser.number?, Parser.unsignedNumber?_toDigits true atMost]
      have bounded : ¬ Nat.pow 2 63 < value + 1 := by
        rw [Nat.pow_eq]
        omega
      simp only [Parser.wholeNumber?, bounded]
      rw [if_neg (by simp), if_pos trivial]
      rfl

end Tablewright.Json
