import Tablewright.Rule.Resolution

namespace Tablewright

/-!
# The steps of a resolution

A resolution with any rules is a list of steps: visits of columns, and then
applications of utility rules.  Every step remembers the table that it starts
from, the rule that it applies and what this rule sees, and leads to the table
that the next step starts from.
-/

/-- The visit of a column. -/
structure Visit where
  context : RuleContext
  before : Table
  position : Nat
  /-- The rule that renders the column. -/
  rule : ColumnRule

namespace Visit

def rendering (visit : Visit) : Rendering :=
  visit.rule.render visit.context visit.before visit.position

def after (visit : Visit) : Table :=
  visit.rendering.table

def contribution (visit : Visit) : Contribution :=
  ⟨some visit.position, visit.rule.name, visit.rendering.lines⟩

end Visit

/-- The application of a utility rule to a table. -/
structure Firing where
  context : RuleContext
  before : Table
  rule : UtilityRule

namespace Firing

def after (firing : Firing) : Table :=
  firing.before.consume firing.rule.name

def contribution (firing : Firing) : Contribution :=
  ⟨none, firing.rule.name, firing.rule.apply firing.context firing.after⟩

end Firing

/-- A step of a resolution. -/
inductive Step where
  | visit (visit : Visit)
  | firing (firing : Firing)

namespace Step

/-- The table that a step starts from. -/
def before : Step → Table
  | .visit made => made.before
  | .firing made => made.before

/-- The table that a step leads to. -/
def after : Step → Table
  | .visit made => made.after
  | .firing made => made.after

def contribution : Step → Contribution
  | .visit made => made.contribution
  | .firing made => made.contribution

/-- Steps lead from one table to another one, each from where the one before
has ended. -/
inductive Leads : Table → List Step → Table → Prop
  | done
      (table : Table) :
      Leads table [] table
  | next
      {start final : Table}
      {step : Step}
      {rest : List Step}
      (starts : step.before = start)
      (later : Leads step.after rest final) :
      Leads start (step :: rest) final

namespace Leads

variable {start middle final : Table} {steps others : List Step}

theorem append
    (first : Leads start steps middle)
    (second : Leads middle others final) :
    Leads start (steps ++ others) final := by
  induction first with
  | done => exact second
  | next starts _ inductionHypothesis =>
      exact .next starts (inductionHypothesis second)

/-- What every step keeps is kept from the start to every step, and from the
end of every step to each later one. -/
theorem kept
    (leads : Leads start steps final)
    {keeps : Table → Table → Prop}
    (refl : ∀ table, keeps table table)
    (trans :
      ∀ {first second third},
        keeps first second → keeps second third → keeps first third)
    (each : ∀ step ∈ steps, keeps step.before step.after) :
    (∀ step ∈ steps, keeps start step.before) ∧
      steps.Pairwise (fun earlier later =>
        keeps earlier.after later.before) := by
  induction leads with
  | done => exact ⟨fun _ absent => (List.not_mem_nil absent).elim, .nil⟩
  | @next start final step rest starts _ inductionHypothesis =>
      obtain ⟨fromHere, between⟩ :=
        inductionHypothesis fun other member =>
          each other (List.mem_cons_of_mem _ member)
      constructor
      · intro other member
        rcases List.mem_cons.mp member with rfl | inRest
        · rw [starts]
          exact refl start
        · apply trans _ (fromHere other inRest)
          rw [← starts]
          exact each step List.mem_cons_self
      · exact List.pairwise_cons.mpr ⟨fromHere, between⟩

end Leads

end Step

namespace RuleSet

/-- The visits of the columns at some positions. -/
def visits (rules : RuleSet) (context : RuleContext) :
    List Nat → Table → List Visit
  | [], _ => []
  | position :: rest, table =>
      if table.isIgnored position then rules.visits context rest table
      else
        let visit : Visit :=
          ⟨context, table, position, rules.ruleFor context table position⟩
        visit :: rules.visits context rest visit.after

/-- The applications of the utility rules that were not yet applied. -/
def firings (context : RuleContext) :
    List UtilityRule → Table → List Firing
  | [], _ => []
  | utility :: rest, table =>
      if table.consumed.contains utility.name then
        firings context rest table
      else
        let firing : Firing := ⟨context, table, utility⟩
        firing :: firings context rest firing.after

/-- The steps of a resolution. -/
def steps (rules : RuleSet) (context : RuleContext) (table : Table) :
    List Step :=
  (rules.visits context table.positions table).map .visit ++
    (firings context rules.utilityRules
      (rules.resolveColumns context table.positions table).table).map
        .firing

variable (rules : RuleSet) (context : RuleContext)

theorem contributions_resolveColumns
    (positions : List Nat)
    (table : Table) :
    (rules.resolveColumns context positions table).contributions =
      (rules.visits context positions table).map Visit.contribution := by
  induction positions generalizing table with
  | nil => rfl
  | cons position rest inductionHypothesis =>
      rw [resolveColumns, visits]
      split
      · exact inductionHypothesis table
      · exact congrArg _ (inductionHypothesis _)

theorem leads_visits
    (positions : List Nat)
    (table : Table) :
    Step.Leads table ((rules.visits context positions table).map .visit)
      (rules.resolveColumns context positions table).table := by
  induction positions generalizing table with
  | nil => exact .done table
  | cons position rest inductionHypothesis =>
      rw [resolveColumns, visits]
      split
      · exact inductionHypothesis table
      · exact .next rfl (inductionHypothesis (Visit.after _))

/-- Only columns that are not passed over are visited, each with the rule for
it. -/
theorem of_mem_visits
    {positions : List Nat}
    {table : Table}
    {visit : Visit}
    (member : visit ∈ rules.visits context positions table) :
    visit.before.isIgnored visit.position = false ∧
      visit.rule =
        rules.ruleFor visit.context visit.before visit.position := by
  induction positions generalizing table with
  | nil => cases member
  | cons position rest inductionHypothesis =>
      rw [visits] at member
      split at member
      · exact inductionHypothesis member
      · rename_i active
        rcases List.mem_cons.mp member with rfl | later
        · exact ⟨by simpa using active, rfl⟩
        · exact inductionHypothesis later

theorem contributions_resolveUtilities
    (utilities : List UtilityRule)
    (table : Table) :
    (resolveUtilities context utilities table).contributions =
      (firings context utilities table).map Firing.contribution := by
  induction utilities generalizing table with
  | nil => rfl
  | cons utility rest inductionHypothesis =>
      rw [resolveUtilities, firings]
      split
      · exact inductionHypothesis table
      · exact congrArg _ (inductionHypothesis _)

theorem leads_firings
    (utilities : List UtilityRule)
    (table : Table) :
    Step.Leads table ((firings context utilities table).map .firing)
      (resolveUtilities context utilities table).table := by
  induction utilities generalizing table with
  | nil => exact .done table
  | cons utility rest inductionHypothesis =>
      rw [resolveUtilities, firings]
      split
      · exact inductionHypothesis table
      · exact .next rfl (inductionHypothesis (Firing.after _))

/-- A utility rule is applied only if it was not applied before. -/
theorem not_mem_consumed_of_mem_firings
    {utilities : List UtilityRule}
    {table : Table}
    {firing : Firing}
    (member : firing ∈ firings context utilities table) :
    firing.rule.name ∉ firing.before.consumed := by
  induction utilities generalizing table with
  | nil => cases member
  | cons utility rest inductionHypothesis =>
      rw [firings] at member
      split at member
      · exact inductionHypothesis member
      · rename_i unused
        rcases List.mem_cons.mp member with rfl | later
        · simpa using unused
        · exact inductionHypothesis later

/-- The contributions of a resolution are those of its steps. -/
theorem contributions_resolve
    (table : Table) :
    (rules.resolve context table).contributions =
      (rules.steps context table).map Step.contribution := by
  simp only [resolve, steps, List.map_append, List.map_map,
    contributions_resolveColumns, contributions_resolveUtilities]
  rfl

/-- The steps of a resolution lead to its table. -/
theorem leads_steps
    (table : Table) :
    Step.Leads table (rules.steps context table)
      (rules.resolve context table).table :=
  (rules.leads_visits context table.positions table).append
    (leads_firings context rules.utilityRules _)

end RuleSet

end Tablewright
