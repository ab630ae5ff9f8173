import Tablewright.Rule.RuleSet

namespace Tablewright

/-!
# Resolution of a table

Every column that is not passed over is rendered by the first rule that
recognises it, or plainly. A column suppressed on the way is skipped.
Afterwards each utility rule that was not yet applied to the table adds its
lines.
-/

/-- What one rule contributed. -/
structure Contribution where
  /-- The position of the rendered column; none for a utility rule. -/
  position : Option Nat
  rule : String
  lines : List Code.Line
  deriving Repr, DecidableEq

/-- A table after some steps, with what the steps contributed. -/
structure Resolution where
  table : Table
  contributions : List Contribution
  deriving Repr, DecidableEq

namespace RuleSet

/-- The rule that renders the column at a position. -/
def ruleFor (rules : RuleSet) (context : RuleContext) (table : Table)
    (position : Nat) : ColumnRule :=
  (rules.matching? context table position).getD ColumnRule.structural

/-- Render the columns at some positions, one after the other. -/
def resolveColumns (rules : RuleSet) (context : RuleContext) :
    List Nat → Table → Resolution
  | [], table => ⟨table, []⟩
  | position :: rest, table =>
      if table.isIgnored position then
        rules.resolveColumns context rest table
      else
        let rule := rules.ruleFor context table position
        let rendered := rule.render context table position
        let later := rules.resolveColumns context rest rendered.table
        ⟨later.table,
          ⟨some position, rule.name, rendered.lines⟩ ::
            later.contributions⟩

/-- Apply the utility rules that were not yet applied to a table. -/
def resolveUtilities (context : RuleContext) :
    List UtilityRule → Table → Resolution
  | [], table => ⟨table, []⟩
  | utility :: rest, table =>
      if table.consumed.contains utility.name then
        resolveUtilities context rest table
      else
        let noted := table.consume utility.name
        let lines := utility.apply context noted
        let later := resolveUtilities context rest noted
        ⟨later.table,
          ⟨none, utility.name, lines⟩ :: later.contributions⟩

/-- Resolve a table. -/
def resolve (rules : RuleSet) (context : RuleContext) (table : Table) :
    Resolution :=
  let columns := rules.resolveColumns context table.positions table
  let utilities :=
    resolveUtilities context rules.utilityRules columns.table
  ⟨utilities.table, columns.contributions ++ utilities.contributions⟩

end RuleSet

/-- The lines of a resolution in order. -/
def Resolution.lines (resolution : Resolution) : List Code.Line :=
  resolution.contributions.flatMap Contribution.lines

end Tablewright
