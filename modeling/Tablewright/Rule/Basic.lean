import Tablewright.Column.Table
import Tablewright.Code.Call

namespace Tablewright

/-!
# Rules

A column rule recognises a column by its position in the table and renders
it; rendering may suppress other columns. A utility rule adds statements for
the table as a whole after all columns have been visited.
-/

/-- The table that rules are applied to. -/
structure RuleContext where
  model : String
  table : String
  deriving Repr, DecidableEq

/-- What rendering a column yields: the table from then on, and lines. -/
structure Rendering where
  table : Table
  lines : List Code.Line
  deriving Repr, DecidableEq

/-- A rule for single columns. -/
structure ColumnRule where
  name : String
  test : RuleContext → Table → Nat → Bool
  render : RuleContext → Table → Nat → Rendering

/-- A rule for the table as a whole. It adds lines and cannot change the
table: the built-in rules of this kind leave it as it is, and callers supply
column rules only. -/
structure UtilityRule where
  name : String
  apply : RuleContext → Table → List Code.Line

end Tablewright
