import Mathlib.Data.List.DropRight
import Mathlib.Tactic.Ring
import Tablewright.Decimal.Shortest
import Tablewright.Proofs.Decimal.Double
import Tablewright.Proofs.Json.Numbers

namespace Tablewright.Decimal

/-!
# The digits of a double

A double whose significand has 53 bits has a decimal of at most 18 digits
among the numbers that are rounded to it: a grid with steps of 17 powers of
ten below the first digit is finer than the interval of these numbers.  So the
search for the shortest digits ends with a point that is not zero.
-/

/-! ## The order of a quotient -/

theorem pow_digitCount_le
    {number : Nat}
    (positive : 0 < number) :
    10 ^ (digitCount number - 1) ≤ number := by
  by_contra less
  rw [Nat.not_le] at less
  have long : 0 < digitCount number := Nat.length_toDigits_pos
  by_cases single : digitCount number - 1 = 0
  · rw [single, Nat.pow_zero] at less
    omega
  · have shorter : digitCount number ≤ digitCount number - 1 :=
      (Nat.length_toDigits_le_iff (by decide)
        (Nat.pos_of_ne_zero single)).mpr less
    omega

theorem lt_pow_digitCount
    (number : Nat) :
    number < 10 ^ digitCount number :=
  (Nat.length_toDigits_le_iff (by decide) Nat.length_toDigits_pos).mp
    (Nat.le_refl _)

/-- The power of ten of the first digit is not above the quotient. -/
theorem Quotient.decimalOrder_le
    (value : Quotient)
    (numerator : 0 < value.numerator)
    (denominator : 0 < value.denominator) :
    raised 10 value.decimalOrder * value.denominator ≤
      value.numerator * lowered 10 value.decimalOrder := by
  unfold decimalOrder
  split
  · rename_i atLeastOne
    have whole : 0 < value.numerator / value.denominator :=
      Nat.div_pos atLeastOne denominator
    have counted :
        0 < digitCount (value.numerator / value.denominator) :=
      Nat.length_toDigits_pos
    have order :
        ((digitCount (value.numerator / value.denominator) : Int) -
            1).toNat =
          digitCount (value.numerator / value.denominator) - 1 := by
      omega
    rw [lowered_of_nonneg (by omega), Nat.mul_one, raised, order]
    calc 10 ^ (digitCount (value.numerator / value.denominator) - 1) *
          value.denominator
        ≤ value.numerator / value.denominator * value.denominator :=
          Nat.mul_le_mul_right _ (pow_digitCount_le whole)
      _ ≤ value.numerator := Nat.div_mul_le_self _ _
  · generalize counted :
      digitCount ((value.denominator - 1) / value.numerator) = count
    have bound := lt_pow_digitCount
      ((value.denominator - 1) / value.numerator)
    rw [counted, Nat.div_lt_iff_lt_mul numerator] at bound
    have up : (-(count : Int)).toNat = 0 := by omega
    have down : (- -(count : Int)).toNat = count := by omega
    rw [raised, lowered, up, down, Nat.pow_zero, Nat.one_mul,
      Nat.mul_comm]
    omega

/-! ## Points of a grid -/

namespace Neighbourhood

variable {near : Neighbourhood}

theorem holds_eq
    (near : Neighbourhood)
    (point : Nat)
    (power : Int) :
    near.holds point power =
      if near.closed then
        decide (near.lower * lowered 10 power ≤
            point * raised 10 power * near.denominator) &&
          decide (point * raised 10 power * near.denominator ≤
            near.upper * lowered 10 power)
      else
        decide (near.lower * lowered 10 power <
            point * raised 10 power * near.denominator) &&
          decide (point * raised 10 power * near.denominator <
            near.upper * lowered 10 power) := by
  unfold holds
  by_cases nonneg : 0 ≤ power
  · simp [nonneg, lowered_of_nonneg nonneg, raised]
  · simp [nonneg, raised_of_neg nonneg, lowered]

/-- A point that is rounded to the double is not zero. -/
theorem ne_zero_of_holds
    (positive : 0 < near.lower)
    {point : Nat}
    {power : Int}
    (holds : near.holds point power = true) :
    point ≠ 0 := by
  rintro rfl
  have above : 0 < near.lower * lowered 10 power :=
    Nat.mul_pos positive (lowered_pos (by decide) power)
  rw [holds_eq] at holds
  simp only [Nat.zero_mul, Nat.le_zero, Nat.not_lt_zero, decide_false,
    Bool.false_and, Nat.ne_of_gt above, ite_self, Bool.false_eq_true]
    at holds

/-- The dividend of the search for a grid point. -/
theorem ite_centre_eq
    (near : Neighbourhood)
    (power : Int) :
    (if 0 ≤ power then near.centre
      else near.centre * Nat.pow 10 (-power).toNat) =
        near.centre * lowered 10 power := by
  split
  · rw [lowered_of_nonneg ‹_›, Nat.mul_one]
  · rfl

/-- The divisor of the search for a grid point. -/
theorem ite_denominator_eq
    (near : Neighbourhood)
    (power : Int) :
    (if 0 ≤ power then near.denominator * Nat.pow 10 power.toNat
      else near.denominator) = near.denominator * raised 10 power := by
  split
  · rfl
  · rw [raised_of_neg ‹_›, Nat.mul_one]

/-- A point that is found is rounded to the double. -/
theorem holds_of_onGrid?
    {point : Nat}
    {power : Int}
    (found : near.onGrid? power = some point) :
    near.holds point power = true := by
  simp only [onGrid?, ite_centre_eq, ite_denominator_eq] at found
  split at found
  · rename_i both
    obtain ⟨below, above⟩ := Bool.and_eq_true_iff.mp both
    split at found
    · cases found
      exact below
    · split at found
      · cases found
        exact above
      · split at found
        · cases found
          exact below
        · cases found
          exact above
  · split at found
    · cases found
      assumption
    · split at found
      · cases found
        assumption
      · cases found

/-- A grid that is finer than the lower half of the interval has a point in
it. -/
theorem exists_onGrid?
    {power : Int}
    (gap : Nat)
    (lower : near.lower + gap ≤ near.centre)
    (upper : near.centre < near.upper)
    (denominator : 0 < near.denominator)
    (fine :
      near.denominator * raised 10 power ≤ gap * lowered 10 power) :
    ∃ point, near.onGrid? power = some point := by
  have below :
      near.holds
        (near.centre * lowered 10 power / (near.denominator * raised 10 power))
        power = true := by
    have stepPositive : 0 < near.denominator * raised 10 power :=
      Nat.mul_pos denominator (raised_pos (by decide) power)
    have notAbove := Nat.div_mul_le_self (near.centre * lowered 10 power)
      (near.denominator * raised 10 power)
    have notFarBelow :=
      Nat.lt_div_mul_add stepPositive (a := near.centre * lowered 10 power)
    have widened :
        near.lower * lowered 10 power + gap * lowered 10 power ≤
          near.centre * lowered 10 power := by
      rw [← Nat.add_mul]
      exact Nat.mul_le_mul_right _ lower
    have underUpper :
        near.centre * lowered 10 power < near.upper * lowered 10 power :=
      Nat.mul_lt_mul_of_pos_right upper (lowered_pos (by decide) power)
    rw [holds_eq, Nat.mul_assoc, Nat.mul_comm (raised 10 power)]
    split
    · exact Bool.and_eq_true_iff.mpr
        ⟨decide_eq_true (by omega), decide_eq_true (by omega)⟩
    · exact Bool.and_eq_true_iff.mpr
        ⟨decide_eq_true (by omega), decide_eq_true (by omega)⟩
  simp only [onGrid?, ite_centre_eq, ite_denominator_eq, below,
    Bool.true_and, ↓reduceIte]
  split
  · split
    · exact ⟨_, rfl⟩
    · split
      · exact ⟨_, rfl⟩
      · split
        · exact ⟨_, rfl⟩
        · exact ⟨_, rfl⟩
  · exact ⟨_, rfl⟩

/-- A search that may go down to a grid with a point finds one that is not
zero. -/
theorem search_fst_ne_zero
    (positive : 0 < near.lower)
    (fuel : Nat)
    {power : Int}
    (finest : ∃ point, near.onGrid? (power - fuel) = some point) :
    (near.search power fuel).1 ≠ 0 := by
  induction fuel generalizing power with
  | zero =>
      obtain ⟨point, found⟩ := finest
      rw [show power - (0 : Nat) = power by omega] at found
      rw [search, found]
      exact ne_zero_of_holds positive (holds_of_onGrid? found)
  | succ fuel inductionHypothesis =>
      rw [search]
      split
      · rename_i point found
        exact ne_zero_of_holds positive (holds_of_onGrid? found)
      · refine inductionHypothesis ?_
        rwa [show power - 1 - (fuel : Int) = power - (fuel + 1 : Nat) by
          omega]

end Neighbourhood

/-- If the interval is not too narrow, the grid 17 powers of ten below the first
digit is finer than its half. -/
theorem fine_of_order
    {order : Int}
    {centre step denominator : Nat}
    (above : raised 10 order * denominator ≤ centre * lowered 10 order)
    (wide : centre ≤ 10 ^ 17 * step) :
    denominator * raised 10 (order - (17 : Nat)) ≤
      step * lowered 10 (order - (17 : Nat)) := by
  have positive : 0 < 10 ^ 17 * lowered 10 order :=
    Nat.mul_pos (by decide) (lowered_pos (by decide) order)
  refine Nat.le_of_mul_le_mul_left ?_ positive
  calc 10 ^ 17 * lowered 10 order *
        (denominator * raised 10 (order - (17 : Nat)))
      = raised 10 (order - (17 : Nat)) * 10 ^ 17 * lowered 10 order *
          denominator := by ring
    _ = raised 10 order * denominator * lowered 10 (order - (17 : Nat)) := by
        rw [raised_sub]
        ring
    _ ≤ centre * lowered 10 order * lowered 10 (order - (17 : Nat)) :=
        Nat.mul_le_mul_right _ above
    _ ≤ 10 ^ 17 * step * lowered 10 order * lowered 10 (order - (17 : Nat)) :=
        Nat.mul_le_mul_right _ (Nat.mul_le_mul_right _ wide)
    _ = 10 ^ 17 * lowered 10 order *
          (step * lowered 10 (order - (17 : Nat))) := by ring

/-! ## Doubles -/

namespace Double

variable {value : Double}

/-- The numbers that are rounded to a double reach one or two steps below it
and two steps above, where its significand has four steps to a unit. -/
theorem exists_steps
    (value : Double) :
    ∃ step below,
      0 < step ∧
        1 ≤ below ∧
        below ≤ 2 ∧
        value.neighbourhood.lower =
          (4 * value.significand - below) * step ∧
        value.neighbourhood.centre = 4 * value.significand * step ∧
        value.neighbourhood.upper = (4 * value.significand + 2) * step ∧
        0 < value.neighbourhood.denominator := by
  have quarter : 0 < (Quotient.mk 1 4).numerator ∧
      0 < (Quotient.mk 1 4).denominator := by
    decide
  obtain ⟨step, denominator⟩ :=
    Quotient.scale_pos quarter.1 quarter.2 value.exponent
  refine ⟨_, _, step, ?_, ?_, rfl, rfl, rfl, denominator⟩
  · split <;> decide
  · split <;> decide

/-- The search for the shortest digits finds a point that is not zero. -/
theorem search_neighbourhood_ne_zero
    (fits : value.Fits)
    (nonzero : value.significand ≠ 0) :
    (value.neighbourhood.search
      (Quotient.mk value.neighbourhood.centre
        value.neighbourhood.denominator).decimalOrder 17).1 ≠ 0 := by
  obtain ⟨step, below, unit, least, most, lower, centre, upper,
    denominator⟩ := value.exists_steps
  have centrePositive : 0 < value.neighbourhood.centre := by
    rw [centre]
    exact Nat.mul_pos (by omega) unit
  have order :=
    (Quotient.mk value.neighbourhood.centre
      value.neighbourhood.denominator).decimalOrder_le
        centrePositive denominator
  refine Neighbourhood.search_fst_ne_zero ?_ 17
    (Neighbourhood.exists_onGrid? step ?_ ?_ denominator ?_)
  · rw [lower]
    exact Nat.mul_pos (by omega) unit
  · rw [lower, centre]
    calc (4 * value.significand - below) * step + step
        = (4 * value.significand - below + 1) * step := by ring
      _ ≤ 4 * value.significand * step :=
          Nat.mul_le_mul_right _ (by omega)
  · rw [centre, upper]
    exact Nat.mul_lt_mul_of_pos_right (by omega) unit
  · refine fine_of_order order ?_
    rw [centre]
    refine Nat.mul_le_mul_right _ ?_
    have bound : value.significand < 2 ^ 53 := fits
    omega

/-- The digits written for a double are digits, and not none. -/
theorem digits_shortest
    (fits : value.Fits)
    (nonzero : value.significand ≠ 0) :
    value.shortest.digits ≠ [] ∧
      ∀ character ∈ value.shortest.digits, character.isDigit = true := by
  have point := search_neighbourhood_ne_zero fits nonzero
  have written :
      value.shortest.digits =
        (Nat.toDigits 10
          (value.neighbourhood.search
            (Quotient.mk value.neighbourhood.centre
              value.neighbourhood.denominator).decimalOrder
            17).1).rdropWhile (· == '0') := rfl
  generalize (value.neighbourhood.search
    (Quotient.mk value.neighbourhood.centre
      value.neighbourhood.denominator).decimalOrder 17).1 = number
    at point written
  rw [written]
  constructor
  · intro empty
    have zeros := List.rdropWhile_eq_nil_iff.mp empty
    refine point (Json.Parser.head?_toDigits_eq_zero ?_)
    cases digits : Nat.toDigits 10 number with
    | nil => exact (Nat.toDigits_ne_nil digits).elim
    | cons first rest =>
        have isZero := zeros first (digits ▸ List.mem_cons_self)
        rw [List.head?_cons, beq_iff_eq.mp isZero]
  · intro character member
    exact Nat.isDigit_of_mem_toDigits (by decide) (by decide)
      ((List.rdropWhile_prefix _ _).subset member)

end Double

end Tablewright.Decimal
