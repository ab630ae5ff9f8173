namespace Tablewright.Decimal

/-!
# Double precision numbers

A finite double is a sign and `significand * 2 ^ exponent`. All arithmetic
is done on exact quotients of natural numbers, which are then rounded to the
nearest double; of two equally near ones, to the one with an even
significand.
-/

/-- A finite double. -/
structure Double where
  negative : Bool
  significand : Nat
  exponent : Int
  deriving Repr, DecidableEq

/-- The least exponent of a double. -/
def Double.leastExponent : Int := -1074

/-- The greatest exponent of a double. -/
def Double.greatestExponent : Int := 971

/-- A nonnegative quotient of natural numbers, scaled by a power of two. -/
structure Quotient where
  numerator : Nat
  denominator : Nat
  deriving Repr, DecidableEq

/-- Multiply a quotient by a power of two. -/
def Quotient.scale (value : Quotient) (power : Int) : Quotient :=
  match power with
  | .ofNat n => { value with numerator := value.numerator * Nat.pow 2 n }
  | .negSucc n =>
      { value with denominator := value.denominator * Nat.pow 2 (n + 1) }

/-- The nearest natural number, an exact half going to the even neighbour. -/
def Quotient.nearest (value : Quotient) : Nat :=
  let whole := value.numerator / value.denominator
  let remainder := value.numerator % value.denominator
  if 2 * remainder < value.denominator then whole
  else if value.denominator < 2 * remainder then whole + 1
  else if whole % 2 = 0 then whole else whole + 1

/-- The greatest power of two that is not above a positive quotient. -/
def Quotient.binaryOrder (value : Quotient) : Int :=
  let guess : Int :=
    (value.numerator.log2 : Int) - (value.denominator.log2 : Int)
  let scaled := value.scale (-guess)
  if scaled.denominator ≤ scaled.numerator then guess else guess - 1

/-- Round a quotient to a double; nothing if it is too large for one. -/
def Double.ofQuotient? (negative : Bool) (value : Quotient) :
    Option Double :=
  if value.numerator = 0 then
    some ⟨negative, 0, Double.leastExponent⟩
  else
    let exponent := max (value.binaryOrder - 52) Double.leastExponent
    let significand := (value.scale (-exponent)).nearest
    let rounded : Double :=
      if significand = Nat.pow 2 53 then
        ⟨negative, Nat.pow 2 52, exponent + 1⟩
      else ⟨negative, significand, exponent⟩
    if Double.greatestExponent < rounded.exponent then none
    else some rounded

/-- The exact magnitude of a double. -/
def Double.magnitude (value : Double) : Quotient :=
  (Quotient.mk value.significand 1).scale value.exponent

/-- Multiply the magnitudes of two doubles and round, keeping the sign of
the first. -/
def Double.times? (left right : Double) : Option Double :=
  let first := left.magnitude
  let second := right.magnitude
  Double.ofQuotient? left.negative
    ⟨first.numerator * second.numerator,
      first.denominator * second.denominator⟩

/-- Divide the magnitudes of two doubles and round, keeping the sign of the
first. -/
def Double.over? (left right : Double) : Option Double :=
  let first := left.magnitude
  let second := right.magnitude
  Double.ofQuotient? left.negative
    ⟨first.numerator * second.denominator,
      first.denominator * second.numerator⟩

/-- The double nearest to a power of ten. -/
def Double.powerOfTen? (power : Nat) : Option Double :=
  Double.ofQuotient? false ⟨Nat.pow 10 power, 1⟩

/--
Apply a decimal exponent in steps that a double can hold.

A power of ten up to 308 is applied by one multiplication or division.
Smaller exponents are reached by dividing by the largest such power first,
at most as often as `fuel` allows.
-/
def Double.applyExponent? (fuel : Nat) (value : Double) (exponent : Int) :
    Option Double :=
  if exponent.natAbs ≤ 308 then
    (Double.powerOfTen? exponent.natAbs).bind fun power =>
      if 0 ≤ exponent then value.times? power else value.over? power
  else if value.significand = 0 then some value
  else if 0 ≤ exponent then none
  else
    match fuel with
    | 0 => some ⟨value.negative, 0, Double.leastExponent⟩
    | fuel + 1 =>
        (Double.powerOfTen? 308).bind fun power =>
          (value.over? power).bind fun smaller =>
            Double.applyExponent? fuel smaller (exponent + 308)

/--
The double that a decimal significand and exponent are read as.

The significand is rounded before the exponent is applied, so up to fifteen
digits with a small exponent are exact and longer ones may differ from the
nearest double in the last place.
-/
def Double.ofDecimal? (negative : Bool) (digits : Nat) (exponent : Int) :
    Option Double :=
  (Double.ofQuotient? negative ⟨digits, 1⟩).bind fun start =>
    Double.applyExponent? 4 start exponent

end Tablewright.Decimal
