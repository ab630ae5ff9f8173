import Mathlib.Tactic.Ring
import Tablewright.Decimal.Double

namespace Tablewright.Decimal

/-!
# The significand of a double

A quotient is scaled so that its whole part has 53 bits, and then rounded.  So
the significand of every double that results from rounding has 53 bits, and so
has that of every double a decimal is read as.
-/

/-! ## Powers with a sign -/

/-- The power that multiplies: one if the exponent is negative. -/
def raised (base : Nat) (power : Int) : Nat := base ^ power.toNat

/-- The power that divides: one unless the exponent is negative. -/
def lowered (base : Nat) (power : Int) : Nat := base ^ (-power).toNat

section Powers

variable {base : Nat} {power : Int}

theorem raised_pos
    (positive : 0 < base)
    (power : Int) :
    0 < raised base power :=
  Nat.pow_pos positive

theorem lowered_pos
    (positive : 0 < base)
    (power : Int) :
    0 < lowered base power :=
  Nat.pow_pos positive

theorem lowered_of_nonneg
    (nonneg : 0 ≤ power) :
    lowered base power = 1 := by
  rw [lowered, show (-power).toNat = 0 by omega, Nat.pow_zero]

theorem raised_of_neg
    (negative : ¬ 0 ≤ power) :
    raised base power = 1 := by
  rw [raised, show power.toNat = 0 by omega, Nat.pow_zero]

/-- A difference of exponents is taken apart into the powers of both. -/
theorem raised_sub
    (base : Nat)
    (power : Int)
    (fewer : Nat) :
    raised base (power - fewer) * base ^ fewer * lowered base power =
      raised base power * lowered base (power - fewer) := by
  simp only [raised, lowered, ← Nat.pow_add]
  congr 1
  omega

/-- A power is at most another one times what their exponents may differ
by. -/
theorem raised_le
    (positive : 0 < base)
    {other : Int}
    {more : Nat}
    (near : power ≤ other + more) :
    raised base power * lowered base other ≤
      base ^ more * (raised base other * lowered base power) := by
  simp only [raised, lowered, ← Nat.pow_add]
  exact Nat.pow_le_pow_right positive (by omega)

end Powers

/-! ## Rounding -/

namespace Quotient

theorem scale_eq
    (value : Quotient)
    (power : Int) :
    value.scale power =
      ⟨value.numerator * raised 2 power,
        value.denominator * lowered 2 power⟩ := by
  cases power with
  | ofNat power =>
      have nonneg : 0 ≤ Int.ofNat power := Int.natCast_nonneg power
      rw [lowered_of_nonneg nonneg, Nat.mul_one]
      rfl
  | negSucc power =>
      rw [raised_of_neg (by omega), Nat.mul_one]
      rfl

theorem scale_pos
    {value : Quotient}
    (numerator : 0 < value.numerator)
    (denominator : 0 < value.denominator)
    (power : Int) :
    0 < (value.scale power).numerator ∧
      0 < (value.scale power).denominator := by
  rw [scale_eq]
  exact ⟨Nat.mul_pos numerator (raised_pos (by decide) power),
    Nat.mul_pos denominator (lowered_pos (by decide) power)⟩

/-- The binary order of a quotient is not too small. -/
theorem lt_binaryOrder
    {value : Quotient}
    (denominator : value.denominator ≠ 0) :
    value.numerator * lowered 2 (value.binaryOrder + 1) <
      value.denominator * raised 2 (value.binaryOrder + 1) := by
  have below : 2 ^ value.denominator.log2 ≤ value.denominator :=
    Nat.log2_self_le denominator
  have above : value.numerator < 2 ^ (value.numerator.log2 + 1) :=
    Nat.lt_log2_self
  unfold binaryOrder
  dsimp only
  generalize guessed :
    (value.numerator.log2 : Int) - (value.denominator.log2 : Int) = guess
  split
  · have exponents :
        value.numerator.log2 + 1 + (-(guess + 1)).toNat =
          value.denominator.log2 + (guess + 1).toNat := by
      omega
    calc value.numerator * lowered 2 (guess + 1)
        < 2 ^ (value.numerator.log2 + 1) * lowered 2 (guess + 1) :=
          Nat.mul_lt_mul_of_pos_right above (lowered_pos (by decide) _)
      _ = 2 ^ value.denominator.log2 * raised 2 (guess + 1) := by
          rw [lowered, raised, ← Nat.pow_add, exponents, Nat.pow_add]
      _ ≤ value.denominator * raised 2 (guess + 1) :=
          Nat.mul_le_mul_right _ below
  · rename_i less
    rw [scale_eq, Nat.not_le] at less
    simpa [raised, lowered] using less

/-- A quotient that is scaled by its order, or further down, has a whole part
of 53 bits. -/
theorem scale_lt
    {value : Quotient}
    (denominator : value.denominator ≠ 0)
    {exponent : Int}
    (enough : value.binaryOrder - 52 ≤ exponent) :
    (value.scale (-exponent)).numerator <
      2 ^ 53 * (value.scale (-exponent)).denominator := by
  have order := lt_binaryOrder denominator
  have near : value.binaryOrder + 1 ≤ exponent + (53 : Nat) := by omega
  have powers :
      raised 2 (value.binaryOrder + 1) * lowered 2 exponent ≤
        2 ^ 53 *
          (raised 2 exponent * lowered 2 (value.binaryOrder + 1)) :=
    raised_le (by decide) near
  have positive : ∀ power, 0 < lowered 2 power :=
    lowered_pos (by decide)
  have multiplied : raised 2 (-exponent) = lowered 2 exponent := rfl
  have divided : lowered 2 (-exponent) = raised 2 exponent := by
    rw [lowered, raised, Int.neg_neg]
  rw [scale_eq, multiplied, divided]
  dsimp only
  generalize value.binaryOrder + 1 = above at *
  refine Nat.lt_of_mul_lt_mul_right (a := lowered 2 above) ?_
  calc value.numerator * lowered 2 exponent * lowered 2 above
      = value.numerator * lowered 2 above * lowered 2 exponent := by ring
    _ < value.denominator * raised 2 above * lowered 2 exponent :=
        Nat.mul_lt_mul_of_pos_right order (positive exponent)
    _ = value.denominator * (raised 2 above * lowered 2 exponent) := by
        ring
    _ ≤ value.denominator *
          (2 ^ 53 * (raised 2 exponent * lowered 2 above)) :=
        Nat.mul_le_mul_left _ powers
    _ = 2 ^ 53 * (value.denominator * raised 2 exponent) *
          lowered 2 above := by ring

/-- A quotient below a bound is not rounded above it. -/
theorem nearest_le
    {value : Quotient}
    {bound : Nat}
    (positive : 0 < bound)
    (below :
      value.denominator ≠ 0 →
        value.numerator < bound * value.denominator) :
    value.nearest ≤ bound := by
  have whole : value.numerator / value.denominator + 1 ≤ bound := by
    by_cases zero : value.denominator = 0
    · rw [zero, Nat.div_zero]
      exact positive
    · exact (Nat.div_lt_iff_lt_mul (Nat.pos_of_ne_zero zero)).mpr
        (below zero)
  unfold nearest
  dsimp only
  split
  · omega
  · split
    · exact whole
    · split
      · omega
      · exact whole

end Quotient

namespace Double

/-- A double whose significand has 53 bits. -/
def Fits (value : Double) : Prop :=
  value.significand < 2 ^ 53

variable {value result : Double}

/-- A quotient is rounded to a double whose significand has 53 bits. -/
theorem fits_of_ofQuotient?
    {negative : Bool}
    {quotient : Quotient}
    (rounded : ofQuotient? negative quotient = some result) :
    result.Fits := by
  unfold ofQuotient? at rounded
  split at rounded
  · cases rounded
    exact Nat.pow_pos (by decide)
  · have most :
        (quotient.scale
          (-max (quotient.binaryOrder - 52) leastExponent)).nearest ≤
            2 ^ 53 := by
      refine Quotient.nearest_le (by decide) ?_
      intro scaled
      refine Quotient.scale_lt ?_ (Int.le_max_left _ _)
      rintro zero
      rw [Quotient.scale_eq, zero, Nat.zero_mul] at scaled
      exact scaled rfl
    simp only [Option.ite_none_left_eq_some, Option.some.injEq] at rounded
    obtain ⟨_, rfl⟩ := rounded
    split
    · exact Nat.pow_lt_pow_right (by decide) (by decide)
    · rename_i small
      exact Nat.lt_of_le_of_ne most small

theorem fits_of_significand_eq_zero
    (zero : value.significand = 0) :
    value.Fits := by
  rw [Fits, zero]
  exact Nat.pow_pos (by decide)

/-- Applying an exponent that a double can hold rounds to 53 bits. -/
theorem fits_of_powerOfTen?
    {power : Nat}
    {exponent : Int}
    (applied :
      ((powerOfTen? power).bind fun factor =>
        if 0 ≤ exponent then value.times? factor
        else value.over? factor) = some result) :
    result.Fits := by
  obtain ⟨factor, _, applied⟩ := Option.bind_eq_some_iff.mp applied
  split at applied
  · exact fits_of_ofQuotient? applied
  · exact fits_of_ofQuotient? applied

/-- Applying a decimal exponent keeps 53 bits. -/
theorem fits_of_applyExponent?
    {fuel : Nat}
    {exponent : Int}
    (applied : applyExponent? fuel value exponent = some result) :
    result.Fits := by
  induction fuel generalizing value exponent with
  | zero =>
      rw [applyExponent?] at applied
      split at applied
      · exact fits_of_powerOfTen? applied
      · split at applied
        · cases applied
          exact fits_of_significand_eq_zero ‹_›
        · split at applied
          · cases applied
          · cases applied
            exact fits_of_significand_eq_zero rfl
  | succ fuel inductionHypothesis =>
      rw [applyExponent?] at applied
      split at applied
      · exact fits_of_powerOfTen? applied
      · split at applied
        · cases applied
          exact fits_of_significand_eq_zero ‹_›
        · split at applied
          · cases applied
          · obtain ⟨power, _, applied⟩ := Option.bind_eq_some_iff.mp applied
            obtain ⟨smaller, _, applied⟩ :=
              Option.bind_eq_some_iff.mp applied
            exact inductionHypothesis applied

/-- Every double that a decimal is read as has a significand of 53 bits. -/
theorem fits_of_ofDecimal?
    {negative : Bool}
    {digits : Nat}
    {exponent : Int}
    (read : ofDecimal? negative digits exponent = some result) :
    result.Fits := by
  obtain ⟨start, _, applied⟩ := Option.bind_eq_some_iff.mp read
  exact fits_of_applyExponent? applied

end Double

end Tablewright.Decimal
