import Tablewright.Rule.Described
import Tablewright.Proofs.Failure
import Tablewright.Proofs.Rule.Pass

namespace Tablewright

/-!
# Extended rule sets

Registered rules stand behind the built-in ones.  As long as they leave tables
as they are, a resolution with them visits the same columns in the same states
as one with the built-in rules alone, and it differs only where no built-in
rule recognises a column.
-/

/-- A rule that leaves every table as it is. -/
def ColumnRule.Inert (rule : ColumnRule) : Prop :=
  ∀ context table position,
    (rule.render context table position).table = table

theorem ColumnRule.inert_structural : structural.Inert :=
  fun _ _ _ => rfl

/--
A visit of a resolution with the built-in rules, and the visit in its place
with further rules.  The two can differ only if no built-in rule recognises
the column.
-/
structure Visit.Alike (plain extended : Visit) : Prop where
  position_eq : extended.position = plain.position
  before_eq : extended.before = plain.before
  after_eq : extended.after = plain.after
  claimed :
    ∀ shorthand : Shorthand,
      shorthand.test plain.before plain.position = true →
        extended = plain
  differs :
    extended.contribution ≠ plain.contribution →
      plain.rule = ColumnRule.structural

namespace RuleSet

/-- Registration appends whole batches and leaves all other rules alone. -/
theorem rules_of_register
    {batches : List (List ColumnRule)}
    {start rules : RuleSet}
    (registered : batches.foldlM register start = .ok rules) :
    rules.columnRules = start.columnRules ++ batches.flatten ∧
      rules.utilityRules = start.utilityRules := by
  induction batches generalizing start with
  | nil =>
      obtain rfl := Except.ok.inj registered
      exact ⟨(List.append_nil _).symm, rfl⟩
  | cons batch rest inductionHypothesis =>
      rw [List.foldlM_cons] at registered
      obtain ⟨next, added, registered⟩ :=
        Outcome.bind_eq_ok_iff.mp registered
      obtain ⟨columns, utilities⟩ := inductionHypothesis registered
      unfold register at added
      split at added
      · cases added
      · obtain rfl := Except.ok.inj added
        rw [columns, List.append_assoc, ← List.flatten_cons]
        exact ⟨rfl, utilities⟩

section Appended

variable {rules : RuleSet} {added : List ColumnRule}
variable (appended : rules.columnRules = standard.columnRules ++ added)
variable (context : RuleContext)

include appended

/-- Further rules are asked only where the built-in ones find nothing. -/
theorem matching?_of_appended
    (table : Table)
    (position : Nat) :
    rules.matching? context table position =
      (standard.matching? context table position).or
        (added.find? (fun rule => rule.test context table position)) := by
  rw [matching?, appended, List.find?_append, matching?]

variable (inert : ∀ rule ∈ added, rule.Inert)

include inert

/-- A column that no built-in rule recognises is rendered without a change to
the table. -/
theorem inert_ruleFor_of_unclaimed
    {table : Table}
    {position : Nat}
    (unclaimed :
      ∀ shorthand : Shorthand, shorthand.test table position = false) :
    (rules.ruleFor context table position).Inert := by
  rw [ruleFor, matching?_of_appended appended,
    matching?_standard_of_unclaimed unclaimed, Option.none_or]
  cases found :
      added.find? (fun rule => rule.test context table position) with
  | none => exact ColumnRule.inert_structural
  | some rule => exact inert rule (List.mem_of_find?_eq_some found)

/-- A column in some state is visited alike with and without further rules. -/
theorem alike_visit
    (table : Table)
    (position : Nat) :
    Visit.Alike
      ⟨context, table, position, standard.ruleFor context table position⟩
      ⟨context, table, position, rules.ruleFor context table position⟩ := by
  by_cases claimed :
      ∃ shorthand : Shorthand, shorthand.test table position = true
  · obtain ⟨shorthand, recognised⟩ := claimed
    have sameRule :
        rules.ruleFor context table position =
          standard.ruleFor context table position := by
      rw [ruleFor, matching?_of_appended appended,
        matching?_standard_of_test recognised, Option.some_or,
        ruleFor_standard_of_test recognised, Option.getD_some]
    rw [sameRule]
    exact ⟨rfl, rfl, rfl, fun _ _ => rfl, fun differs =>
      (differs rfl).elim⟩
  · have unclaimed :
        ∀ shorthand : Shorthand,
          shorthand.test table position = false := by
      simpa using claimed
    have plain := ruleFor_standard_of_unclaimed unclaimed context
    have still :=
      inert_ruleFor_of_unclaimed appended context inert unclaimed
    refine ⟨rfl, rfl, ?_, ?_, fun _ => plain⟩
    · rw [plain]
      exact still context table position
    · intro shorthand recognised
      exact (claimed ⟨shorthand, recognised⟩).elim

/-- The same columns are visited in the same states with and without further
rules. -/
theorem forall₂_visits
    (positions : List Nat)
    (table : Table) :
    List.Forall₂ Visit.Alike
        (standard.visits context positions table)
        (rules.visits context positions table) ∧
      (rules.resolveColumns context positions table).table =
        (standard.resolveColumns context positions table).table := by
  induction positions generalizing table with
  | nil => exact ⟨.nil, rfl⟩
  | cons position rest inductionHypothesis =>
      by_cases ignored : table.isIgnored position = true
      · simp only [visits, resolveColumns, ignored, ↓reduceIte]
        exact inductionHypothesis table
      · have alike := alike_visit appended context inert table position
        have sameTable := alike.after_eq
        simp only [Visit.after, Visit.rendering] at sameTable
        simp only [visits, resolveColumns, ignored, Bool.false_eq_true,
          ↓reduceIte, Visit.after, Visit.rendering, sameTable]
        obtain ⟨later, sameFinal⟩ := inductionHypothesis
          ((standard.ruleFor context table position).render context table
            position).table
        exact ⟨.cons alike later, sameFinal⟩

end Appended

/--
Registered rules that leave tables as they are extend the built-in rules
conservatively.  A resolution ends in the same table and has the same
contributions of the utility rules.  Its visits are those of the resolution
with the built-in rules alone, in the same states: a column that a built-in
rule recognises is rendered as before, and only what is rendered plainly can
be rendered otherwise.
-/
theorem resolve_extends_standard
    {batches : List (List ColumnRule)}
    {rules : RuleSet}
    (registered : batches.foldlM register standard = .ok rules)
    (inert : ∀ batch ∈ batches, ∀ rule ∈ batch, rule.Inert)
    (context : RuleContext)
    (table : Table) :
    (rules.resolve context table).table =
        (standard.resolve context table).table ∧
      List.Forall₂ Visit.Alike
        (standard.visits context table.positions table)
        (rules.visits context table.positions table) ∧
      ∃ utilities,
        (∀ contribution ∈ utilities, contribution.position = none) ∧
          (standard.resolve context table).contributions =
            (standard.visits context table.positions table).map
              Visit.contribution ++ utilities ∧
          (rules.resolve context table).contributions =
            (rules.visits context table.positions table).map
              Visit.contribution ++ utilities := by
  obtain ⟨appended, sameUtilities⟩ := rules_of_register registered
  have inertAdded : ∀ rule ∈ batches.flatten, rule.Inert := by
    intro rule member
    obtain ⟨batch, isBatch, inBatch⟩ := List.mem_flatten.mp member
    exact inert batch isBatch rule inBatch
  obtain ⟨alike, sameTable⟩ :=
    forall₂_visits appended context inertAdded table.positions table
  constructor
  · simp only [resolve, sameTable, sameUtilities]
  refine ⟨alike,
    (resolveUtilities context standard.utilityRules
      (standard.resolveColumns context table.positions
        table).table).contributions,
    position_eq_none_of_mem_resolveUtilities context _ _, ?_, ?_⟩
  · simp only [resolve, contributions_resolveColumns]
  · simp only [resolve, contributions_resolveColumns, sameTable,
      sameUtilities]

/-- A rule for amounts of money. -/
def moneyRule : ColumnRule :=
  DescribedRule.rule
    { name := "money"
      kind := some .decimal
      lines := ["$table->unsignedDecimal('price', 10, 2);"] }

/-- Products with a price. -/
def productTable : Table :=
  { columns :=
      [ { Column.plain "id" .integer with
          primary := true, autoIncrement := true },
        { Column.plain "price" .decimal with arguments := ["8", "2"] },
        { Column.plain "code" .string with unique := true },
        Column.plain "created_at" .timestamp,
        Column.plain "updated_at" .timestamp ] }

/-- With a rule for money the price of a product is created otherwise, and
everything else as before. -/
theorem resolve_extends_standard_product :
    ∃ rules,
      [[moneyRule]].foldlM register standard = .ok rules ∧
        (∀ batch ∈ [[moneyRule]], ∀ rule ∈ batch, rule.Inert) ∧
        (standard.resolve ⟨"Product", "products"⟩
            productTable).lines.map Code.Line.text =
          [ "$table->id();", "$table->decimal('price', 8, 2);",
            "$table->string('code');", "$table->timestamps();",
            "$table->unique('code');" ] ∧
        (rules.resolve ⟨"Product", "products"⟩
            productTable).lines.map Code.Line.text =
          [ "$table->id();", "$table->unsignedDecimal('price', 10, 2);",
            "$table->string('code');", "$table->timestamps();",
            "$table->unique('code');" ] ∧
        (rules.resolve ⟨"Product", "products"⟩ productTable).table =
          (standard.resolve ⟨"Product", "products"⟩
            productTable).table ∧
        List.Forall₂ Visit.Alike
          (standard.visits ⟨"Product", "products"⟩
            productTable.positions productTable)
          (rules.visits ⟨"Product", "products"⟩
            productTable.positions productTable) := by
  have accepted :
      batchFault? (ColumnRule.structural.name :: standard.names) []
          ["money"] = none := by
    decide +kernel
  have registered :
      [[moneyRule]].foldlM register standard =
        .ok { standard with
          columnRules := standard.columnRules ++ [moneyRule] } := by
    have named : [moneyRule].map ColumnRule.name = ["money"] := rfl
    rw [List.foldlM_cons, register, named, accepted]
    rfl
  have inert : ∀ batch ∈ [[moneyRule]], ∀ rule ∈ batch, rule.Inert := by
    intro batch isBatch rule inBatch
    rw [List.mem_singleton.mp isBatch] at inBatch
    rw [List.mem_singleton.mp inBatch]
    exact fun _ _ _ => rfl
  obtain ⟨sameTable, alike, _⟩ :=
    resolve_extends_standard registered inert ⟨"Product", "products"⟩
      productTable
  exact ⟨_, registered, inert, by decide +kernel, by decide +kernel,
    sameTable, alike⟩

end RuleSet

end Tablewright
