namespace Tablewright.Text

/-!
# Runs of code points

Character properties are tables of runs. A run takes every `step`-th code
point from `first` to `last`, so alternating blocks such as the paired upper
and lower case letters need one entry each. A `Shift` is a run together with
the distance from each member to its counterpart.
-/

/-- Every `step`-th code point between two bounds, both included. -/
structure Run where
  first : Nat
  last : Nat
  step : Nat
  deriving Repr, DecidableEq

/-- Whether a code point belongs to the run. -/
def Run.covers (run : Run) (code : Nat) : Bool :=
  run.first ≤ code && code ≤ run.last &&
    (code - run.first) % run.step == 0

/-- Whether a code point belongs to some run of a table. -/
def covered (table : List Run) (code : Nat) : Bool :=
  table.any (fun run => run.covers code)

/-- A run whose members have their counterpart `distance` code points on. -/
structure Shift extends Run where
  distance : Int
  deriving Repr, DecidableEq

/-- The counterpart that a table of shifts gives to a code point. -/
def shifted? (table : List Shift) (code : Nat) : Option Nat :=
  (table.find? (fun shift => shift.covers code)).map
    (fun shift => ((code : Int) + shift.distance).toNat)

end Tablewright.Text
