import Tablewright.Rule.Shorthand
import Tablewright.Rule.Utility
import Tablewright.Text.Escaped
import Tablewright.Failure

namespace Tablewright

/-!
# Rule sets

The rules of a compilation in the order in which they are tried. Callers add
rules in batches after the built-in ones; a batch is added as a whole or
not at all.
-/

/-- An ordered collection of rules. -/
structure RuleSet where
  columnRules : List ColumnRule := []
  utilityRules : List UtilityRule := []

/-- Why a batch of rules is rejected. -/
inductive RuleFault where
  | unnamed
  | taken (name : String)
  | repeated (name : String)
  deriving Repr, DecidableEq

/-- The failure for a rejected batch. -/
def RuleFault.failure : RuleFault → Failure
  | .unnamed => .ruleContract "<unnamed>" "rule name must not be empty"
  | .taken name =>
      .ruleContract name "name is already taken by a registered rule"
  | .repeated name =>
      .ruleContract name "name appears twice in the provided rules"

namespace RuleSet

/-- The built-in rules. -/
def standard : RuleSet :=
  { columnRules := Shorthand.inOrder.map Shorthand.rule
    utilityRules := Utility.inOrder.map Utility.rule }

/-- The names of all rules, utilities first. -/
def names (rules : RuleSet) : List String :=
  rules.utilityRules.map UtilityRule.name ++
    rules.columnRules.map ColumnRule.name

/-- Append a column rule. -/
def addColumnRule (rules : RuleSet) (rule : ColumnRule) : RuleSet :=
  { rules with columnRules := rules.columnRules ++ [rule] }

/-- Append a utility rule. -/
def addUtilityRule (rules : RuleSet) (rule : UtilityRule) : RuleSet :=
  { rules with utilityRules := rules.utilityRules ++ [rule] }

/-- The first thing wrong with the names of a batch. -/
def batchFault? (existing seen : List String) :
    List String → Option RuleFault
  | [] => none
  | name :: rest =>
      if Text.isBlankText name then some .unnamed
      else if existing.contains name then some (.taken name)
      else if seen.contains name then some (.repeated name)
      else batchFault? existing (name :: seen) rest

/-- Add a batch of rules after all others. -/
def register (rules : RuleSet) (batch : List ColumnRule) :
    Outcome RuleSet :=
  match batchFault? (ColumnRule.structural.name :: rules.names) []
      (batch.map ColumnRule.name) with
  | some fault => .error fault.failure
  | none =>
      .ok { rules with columnRules := rules.columnRules ++ batch }

/-- Add a batch of rules in place; the number of rules that are added. The
names are checked before any rule is added. -/
def enroll (batch : List ColumnRule) :
    ExceptT Failure (StateM RuleSet) Nat := do
  let rules ← get
  let taken := ColumnRule.structural.name :: rules.names
  match batchFault? taken [] (batch.map ColumnRule.name) with
  | some fault => throw fault.failure
  | none =>
      batch.forM fun rule => modify fun rules => rules.addColumnRule rule
      return batch.length

/-- The first rule that recognises the column at a position. -/
def matching? (rules : RuleSet) (context : RuleContext) (table : Table)
    (position : Nat) : Option ColumnRule :=
  rules.columnRules.find?
    (fun rule => rule.test context table position)

/-- The rule set as shown in diagnostics. -/
def display (rules : RuleSet) : String :=
  "RuleSet \x7b rules: [" ++
    ", ".intercalate (rules.names.map Text.escaped) ++ "] \x7d"

end RuleSet

end Tablewright
