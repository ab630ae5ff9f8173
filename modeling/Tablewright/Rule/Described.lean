import Tablewright.Rule.RuleSet
import Tablewright.Json.Shape

namespace Tablewright

/-!
# Rules described as data

A rule that recognises columns by name and kind, adds fixed lines, and
suppresses further columns by name. The built-in rules are found by name.
-/

open Json Json.Decoder

/-- A rule as data. -/
structure DescribedRule where
  name : String := ""
  /-- The name of the columns that are recognised, if it matters. -/
  column : Option String := none
  /-- The kind of the columns that are recognised, if it matters. -/
  kind : Option Column.Kind := none
  lines : List String := []
  /-- The columns that are passed over once the rule has been applied. -/
  suppressed : List String := []
  deriving Repr, DecidableEq

namespace DescribedRule

/-- The members of a described rule. -/
def members : List (Member DescribedRule) :=
  [ required "name" text (fun held name => { held with name := name }),
    defaulted "column" (nullable text)
      (fun held name => { held with column := name }),
    defaulted "column_type" (nullable (variant Column.Kind.named))
      (fun held kind => { held with kind := kind }),
    defaulted "lines" (sequence text)
      (fun held lines => { held with lines := lines }),
    defaulted "suppress" (sequence text)
      (fun held names => { held with suppressed := names }) ]

/-- Read a described rule from JSON. -/
def ofStored : Decoder DescribedRule :=
  record "struct DescribedRule" members {}

/-- Whether a column is recognised. -/
def accepts (described : DescribedRule) (column : Column) : Bool :=
  (described.column.map (fun name => name == column.name)).getD true &&
    (described.kind.map (fun kind => kind == column.kind)).getD true

/-- Pass over the columns that the rule names. -/
def suppress (described : DescribedRule) (table : Table) : Table :=
  described.suppressed.foldl
    (fun table name =>
      match table.find? name with
      | some position => table.suppress position
      | none => table)
    table

/-- The rule. -/
def rule (described : DescribedRule) : ColumnRule :=
  { name := described.name
    test := fun _ table position =>
      ((table.column? position).map described.accepts).getD false
    render := fun _ table _ =>
      ⟨described.suppress table,
        described.lines.map Code.Line.verbatim⟩ }

end DescribedRule

/-- The built-in column rule of a name. -/
def ColumnRule.builtIn? (name : String) : Option ColumnRule :=
  (Shorthand.inOrder.map Shorthand.rule ++ [ColumnRule.structural]).find?
    (fun rule => rule.name == name)

/-- The built-in utility rule of a name. -/
def UtilityRule.builtIn? (name : String) : Option UtilityRule :=
  (Utility.inOrder.map Utility.rule).find?
    (fun rule => rule.name == name)

/-- Append the built-in rule of a name. -/
def RuleSet.addBuiltIn? (rules : RuleSet) (name : String) :
    Option RuleSet :=
  match UtilityRule.builtIn? name, ColumnRule.builtIn? name with
  | some rule, _ => some (rules.addUtilityRule rule)
  | none, some rule => some (rules.addColumnRule rule)
  | none, none => none

/-- The rule set of some built-in rules in order. -/
def RuleSet.ofNames? (names : List String) : Option RuleSet :=
  names.foldlM RuleSet.addBuiltIn? {}

end Tablewright
