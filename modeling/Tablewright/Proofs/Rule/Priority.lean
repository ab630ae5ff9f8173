import Tablewright.Proofs.Rule.Creation

namespace Tablewright

/-!
# Priority of rules

The first rule that recognises a column renders it.  Where at most one rule
recognises any column, the order of the rules does not matter: whatever their
order is, the same rule is found for every column of every table on the way,
so a resolution makes the same steps.  The built-in rules are of this kind.
-/

/-- In no state of a table do two of the rules recognise one column. -/
def ColumnRule.Exclusive (rules : List ColumnRule) : Prop :=
  ∀ (context : RuleContext) (table : Table) (position : Nat),
    (rules.filter
      (fun rule => rule.test context table position)).length ≤ 1

namespace RuleSet

section Reordered

variable {rules reordered : RuleSet}
variable (exclusive : ColumnRule.Exclusive rules.columnRules)
variable (permuted : reordered.columnRules.Perm rules.columnRules)
variable (context : RuleContext)

include exclusive permuted

/-- The same rule is found for a column in any order of the rules. -/
theorem matching?_of_perm
    (table : Table)
    (position : Nat) :
    reordered.matching? context table position =
      rules.matching? context table position := by
  have candidates :=
    permuted.filter (fun rule => rule.test context table position)
  have single := exclusive context table position
  rw [matching?, matching?, ← List.head?_filter, ← List.head?_filter]
  rcases Nat.le_one_iff_eq_zero_or_eq_one.mp single with none | one
  · rw [List.length_eq_zero_iff.mp none] at candidates ⊢
    rw [candidates.eq_nil]
  · obtain ⟨only, isOnly⟩ := List.length_eq_one_iff.mp one
    rw [isOnly] at candidates ⊢
    rw [candidates.eq_singleton]

/-- The columns of a table are rendered alike in any order of the rules. -/
theorem resolveColumns_of_perm
    (positions : List Nat)
    (table : Table) :
    reordered.resolveColumns context positions table =
      rules.resolveColumns context positions table := by
  induction positions generalizing table with
  | nil => rfl
  | cons position rest inductionHypothesis =>
      have sameRule :
          reordered.ruleFor context table position =
            rules.ruleFor context table position := by
        rw [ruleFor, ruleFor,
          matching?_of_perm exclusive permuted context]
      simp only [resolveColumns, sameRule, inductionHypothesis]

/-- A table is resolved alike in any order of the column rules. -/
theorem resolve_of_perm
    (sameUtilities : reordered.utilityRules = rules.utilityRules)
    (table : Table) :
    reordered.resolve context table = rules.resolve context table := by
  rw [resolve, resolve,
    resolveColumns_of_perm exclusive permuted context, sameUtilities]

end Reordered

/-- Where no two members of a list without repetition pass a test, at most one
member does. -/
private theorem length_filter_le_one
    {items : List α}
    (noDuplicates : items.Nodup)
    {test : α → Bool}
    (exclusive :
      ∀ first second, test first → test second → first = second) :
    (items.filter test).length ≤ 1 := by
  rcases kept : items.filter test with _ | ⟨first, _ | ⟨second, rest⟩⟩
  · exact Nat.zero_le 1
  · exact Nat.le_refl 1
  · exfalso
    have distinct := noDuplicates.filter test
    have passes : ∀ item ∈ items.filter test, test item :=
      fun item member => (List.mem_filter.mp member).2
    rw [kept] at distinct passes
    have same :=
      exclusive first second (passes first (by simp))
        (passes second (by simp))
    simp [same] at distinct

/-- No two built-in rules recognise one column. -/
theorem exclusive_standard :
    ColumnRule.Exclusive standard.columnRules := by
  intro context table position
  rw [standard, List.filter_map, List.length_map]
  exact length_filter_le_one (by decide)
    (fun _ _ byFirst bySecond => Shorthand.eq_of_test byFirst bySecond)

/--
The priority of the built-in rules does not matter.  However a table has been
changed on the way, at most one of them recognises a column.  So in any order
they contribute the same lines to a table and leave it in the same state.
-/
theorem standard_order_irrelevant :
    standard.columnRules.length = 10 ∧
      (∀ (context : RuleContext) (table : Table) (position : Nat),
        (standard.columnRules.filter
          (fun rule => rule.test context table position)).length ≤ 1) ∧
      ∀ reordered : RuleSet,
        reordered.columnRules.Perm standard.columnRules →
        reordered.utilityRules = standard.utilityRules →
        ∀ (context : RuleContext) (table : Table),
          reordered.resolve context table =
            standard.resolve context table :=
  ⟨rfl, exclusive_standard,
    fun _ permuted sameUtilities context table =>
      resolve_of_perm exclusive_standard permuted context sameUtilities
        table⟩

/-- The built-in rules, the last ones first. -/
def reversed : RuleSet :=
  { standard with columnRules := standard.columnRules.reverse }

/-- The posts are resolved alike with the built-in rules tried backwards. -/
theorem standard_order_irrelevant_posts :
    (reversed.columnRules.Perm standard.columnRules ∧
        reversed.utilityRules = standard.utilityRules) ∧
      reversed.resolve ⟨"Post", "posts"⟩ postsTable =
        standard.resolve ⟨"Post", "posts"⟩ postsTable := by
  have permuted :
      reversed.columnRules.Perm standard.columnRules :=
    List.reverse_perm _
  exact ⟨⟨permuted, rfl⟩,
    standard_order_irrelevant.2.2 reversed permuted rfl
      ⟨"Post", "posts"⟩ postsTable⟩

end RuleSet

end Tablewright
