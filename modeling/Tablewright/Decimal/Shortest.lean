import Tablewright.Decimal.Double

namespace Tablewright.Decimal

/-!
# Shortest decimal digits

The decimal written for a double has the fewest digits among those that are
rounded back to it, and of these it is the nearest. Everything is decided on
exact natural numbers: the double and the two ends of the interval of
numbers rounded to it share one denominator.
-/

/-- Significant digits with the power of ten of the first one. -/
structure Digits where
  digits : List Char
  order : Int
  deriving Repr, DecidableEq

/-- The numbers rounded to one double, over a common denominator. -/
structure Neighbourhood where
  lower : Nat
  centre : Nat
  upper : Nat
  denominator : Nat
  closed : Bool
  deriving Repr, DecidableEq

/-- The numbers that are rounded to a double; both ends belong to them
exactly when the significand is even. -/
def Double.neighbourhood (value : Double) : Neighbourhood :=
  let unit := (Quotient.mk 1 4).scale value.exponent
  let below :=
    if value.significand = Nat.pow 2 52 ∧ Double.leastExponent < value.exponent
    then 1 else 2
  { lower := (4 * value.significand - below) * unit.numerator
    centre := 4 * value.significand * unit.numerator
    upper := (4 * value.significand + 2) * unit.numerator
    denominator := unit.denominator
    closed := value.significand % 2 = 0 }

/-- How many decimal digits a natural number has. -/
def digitCount (number : Nat) : Nat :=
  (Nat.toDigits 10 number).length

/-- The power of ten of the first digit of a positive quotient. -/
def Quotient.decimalOrder (value : Quotient) : Int :=
  if value.denominator ≤ value.numerator then
    (digitCount (value.numerator / value.denominator) : Int) - 1
  else
    -(digitCount ((value.denominator - 1) / value.numerator) : Int)

/-- A point of the grid with steps of a power of ten, compared with the
interval after both are put over one denominator. -/
def Neighbourhood.holds (near : Neighbourhood) (point : Nat)
    (power : Int) : Bool :=
  let left := if 0 ≤ power
    then point * Nat.pow 10 power.toNat * near.denominator
    else point * near.denominator
  let factor := if 0 ≤ power then 1 else Nat.pow 10 (-power).toNat
  if near.closed then
    near.lower * factor ≤ left && left ≤ near.upper * factor
  else
    near.lower * factor < left && left < near.upper * factor

/-- The nearest grid point with a given step that is rounded back to the
double, if there is one. -/
def Neighbourhood.onGrid? (near : Neighbourhood) (power : Int) :
    Option Nat :=
  let top := if 0 ≤ power then near.centre
    else near.centre * Nat.pow 10 (-power).toNat
  let step := if 0 ≤ power then near.denominator * Nat.pow 10 power.toNat
    else near.denominator
  let below := top / step
  let remainder := top % step
  let belowHolds := near.holds below power
  let aboveHolds := near.holds (below + 1) power
  if belowHolds && aboveHolds then
    if 2 * remainder < step then some below
    else if step < 2 * remainder then some (below + 1)
    else if below % 2 = 0 then some below else some (below + 1)
  else if belowHolds then some below
  else if aboveHolds then some (below + 1)
  else none

/-- Try grids from coarse to fine until one has a point. -/
def Neighbourhood.search (near : Neighbourhood) (power : Int) :
    Nat → Nat × Int
  | 0 => ((near.onGrid? power).getD 0, power)
  | finer + 1 =>
      match near.onGrid? power with
      | some point => (point, power)
      | none => near.search (power - 1) finer

/-- The digits written for a nonzero double. -/
def Double.shortest (value : Double) : Digits :=
  let near := value.neighbourhood
  let order := (Quotient.mk near.centre near.denominator).decimalOrder
  let (point, power) := near.search order 17
  let written := Nat.toDigits 10 point
  let kept := (written.reverse.dropWhile (· == '0')).reverse
  { digits := kept
    order := power + (written.length : Int) - 1 }

/-- How a double is laid out as text. -/
structure Layout where
  /-- The least order written without an exponent. -/
  leastPlain : Int
  /-- The first order above those written without an exponent. -/
  firstScientific : Int
  /-- Whether a positive exponent carries a sign. -/
  exponentSign : Bool
  deriving Repr, DecidableEq

/-- Digits with a decimal point, always with at least one digit on either
side of it. -/
def Digits.plain (written : Digits) : List Char :=
  if written.order < 0 then
    ['0', '.'] ++ List.replicate ((-written.order).toNat - 1) '0' ++
      written.digits
  else
    let whole := written.order.toNat + 1
    let padded := written.digits ++
      List.replicate (whole - written.digits.length) '0'
    let fraction := padded.drop whole
    padded.take whole ++ ['.'] ++
      (if fraction.isEmpty then ['0'] else fraction)

/-- Digits with an exponent. -/
def Digits.scientific (exponentSign : Bool) (written : Digits) :
    List Char :=
  let fraction := written.digits.drop 1
  written.digits.take 1 ++
    (if fraction.isEmpty then [] else '.' :: fraction) ++ ['e'] ++
    (if written.order < 0 then ['-'] else
      if exponentSign then ['+'] else []) ++
    Nat.toDigits 10 written.order.natAbs

/-- A double as text. -/
def Double.text (layout : Layout) (value : Double) : List Char :=
  let sign := if value.negative then ['-'] else []
  if value.significand = 0 then sign ++ ['0', '.', '0']
  else
    let written := value.shortest
    if layout.leastPlain ≤ written.order ∧
        written.order < layout.firstScientific then
      sign ++ written.plain
    else
      sign ++ written.scientific layout.exponentSign

end Tablewright.Decimal
