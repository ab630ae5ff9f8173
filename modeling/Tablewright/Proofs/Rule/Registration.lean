import Mathlib.Data.List.TakeWhile
import Tablewright.Rule.RuleSet

namespace Tablewright

/-!
# Histories of registrations

Callers add batches of rules to a rule set again and again, and some batches
are rejected.  A rejected batch leaves no trace, so whatever the history was,
every rule has a name of its own that is not blank and that is not the name of
the rule of last resort.
-/

namespace Text

theorem trim_eq_nil_iff {text : List Char} :
    trim text = [] ↔ ∀ character ∈ text, isBlank character = true := by
  simp only [trim, trimEnd, trimStart, List.reverse_eq_nil_iff,
    List.dropWhile_eq_nil_iff, List.mem_reverse]
  constructor
  · intro restBlank character member
    rw [← List.takeWhile_append_dropWhile (p := isBlank) (l := text)]
      at member
    rcases List.mem_append.mp member with inFront | behind
    · exact List.mem_takeWhile_imp inFront
    · exact restBlank character behind
  · intro blank character member
    exact blank character ((List.dropWhile_sublist _).subset member)

/-- A text is blank if nothing is left of it after trimming. -/
theorem isBlankText_iff {text : String} :
    isBlankText text = true ↔ trimmed text = "" := by
  rw [isBlankText, List.all_eq_true, ← trim_eq_nil_iff, trimmed,
    ← String.toList_inj, String.toList_ofList, String.toList_empty]

end Text

namespace RuleSet

/-- Why a batch cannot be added to a rule set: one of its names is blank or
taken, or occurs in it twice. -/
def Refuses (rules : RuleSet) (batch : List ColumnRule) : Prop :=
  (∃ rule ∈ batch,
    Text.trimmed rule.name = "" ∨ rule.name ∈ rules.names ∨
      rule.name = ColumnRule.structural.name) ∨
    ¬(batch.map ColumnRule.name).Nodup

/-- Every rule has a name of its own, which is neither blank nor the name of
the rule of last resort. -/
structure WellNamed (rules : RuleSet) : Prop where
  nodup : rules.names.Nodup
  shown : ∀ name ∈ rules.names, Text.trimmed name ≠ ""
  free : ColumnRule.structural.name ∉ rules.names

/-- The rule set after batches have been added in order, as far as they are
accepted. -/
def afterHistory (rules : RuleSet) (history : List (List ColumnRule)) :
    RuleSet :=
  history.foldl (fun rules batch => ((enroll batch).run.run rules).2) rules

/-! ## One batch -/

/-- A batch has no fault if its names are fresh. -/
theorem batchFault?_eq_none_iff
    {existing seen names : List String} :
    batchFault? existing seen names = none ↔
      (∀ name ∈ names,
        Text.trimmed name ≠ "" ∧ name ∉ existing ∧ name ∉ seen) ∧
        names.Nodup := by
  induction names generalizing seen with
  | nil => simp [batchFault?]
  | cons name rest inductionHypothesis =>
      rw [batchFault?, List.nodup_cons, List.forall_mem_cons]
      by_cases blank : Text.isBlankText name = true
      · simp [blank, Text.isBlankText_iff.mp blank]
      by_cases taken : name ∈ existing
      · simp [blank, taken]
      by_cases again : name ∈ seen
      · simp [blank, taken, again]
      have shown : Text.trimmed name ≠ "" :=
        mt Text.isBlankText_iff.mpr blank
      rw [if_neg blank, if_neg (by simpa using taken),
        if_neg (by simpa using again), inductionHypothesis]
      constructor
      · rintro ⟨fresh, nodup⟩
        refine ⟨⟨⟨shown, taken, again⟩, fun other member => ?_⟩,
          fun member => (fresh name member).2.2 List.mem_cons_self, nodup⟩
        obtain ⟨otherShown, notTaken, notSeen⟩ := fresh other member
        exact ⟨otherShown, notTaken, fun earlier =>
          notSeen (List.mem_cons_of_mem _ earlier)⟩
      · rintro ⟨⟨_, fresh⟩, once, nodup⟩
        refine ⟨fun other member => ?_, nodup⟩
        obtain ⟨otherShown, notTaken, notSeen⟩ := fresh other member
        refine ⟨otherShown, notTaken, fun earlier => ?_⟩
        rcases List.mem_cons.mp earlier with rfl | before
        · exact once member
        · exact notSeen before

/-- A batch is accepted just if it has no fault. -/
theorem not_refuses_iff
    {rules : RuleSet}
    {batch : List ColumnRule} :
    ¬rules.Refuses batch ↔
      batchFault? (ColumnRule.structural.name :: rules.names) []
        (batch.map ColumnRule.name) = none := by
  rw [batchFault?_eq_none_iff, Refuses, not_or, not_not]
  refine and_congr_left fun _ => ?_
  simp only [not_exists, not_and, not_or, List.forall_mem_map,
    List.mem_cons, List.not_mem_nil, not_false_eq_true, and_true]
  exact forall₂_congr fun _ _ => and_congr_right fun _ => and_comm

/-- Rules are added one after the other behind all others. -/
theorem run_addColumnRules
    (batch : List ColumnRule)
    (rules : RuleSet) :
    (batch.forM (m := ExceptT Failure (StateM RuleSet)) fun rule =>
        modify fun rules => rules.addColumnRule rule).run.run rules =
      (.ok (), { rules with columnRules := rules.columnRules ++ batch }) := by
  induction batch generalizing rules with
  | nil => simp; rfl
  | cons rule rest inductionHypothesis =>
      have later := inductionHypothesis (rules.addColumnRule rule)
      simp only [addColumnRule, List.append_assoc, List.singleton_append] at later
      rw [← later]
      rfl

/-- A batch is added as a whole or not at all. -/
theorem run_enroll
    (batch : List ColumnRule)
    (rules : RuleSet) :
    (enroll batch).run.run rules =
      match batchFault? (ColumnRule.structural.name :: rules.names) []
          (batch.map ColumnRule.name) with
      | some fault => (.error fault.failure, rules)
      | none =>
          (.ok batch.length,
            { rules with columnRules := rules.columnRules ++ batch }) := by
  have opened :
      (enroll batch).run.run rules =
        (match batchFault? (ColumnRule.structural.name :: rules.names) []
            (batch.map ColumnRule.name) with
          | some fault => throw fault.failure
          | none => do
              batch.forM fun rule =>
                modify fun rules => rules.addColumnRule rule
              return batch.length :
          ExceptT Failure (StateM RuleSet) Nat).run.run rules :=
    rfl
  rw [opened]
  split
  · rfl
  · have added := run_addColumnRules batch rules
    simp only [ExceptT.run_bind, StateT.run_bind, added]
    rfl

/-- Adding a batch in place amounts to registering it. -/
theorem register_eq_run_enroll
    (rules : RuleSet)
    (batch : List ColumnRule) :
    rules.register batch =
      ((enroll batch).run.run rules).1.map
        fun _ => ((enroll batch).run.run rules).2 := by
  rw [run_enroll, register]
  cases batchFault? (ColumnRule.structural.name :: rules.names) []
      (batch.map ColumnRule.name) with
  | some fault => rfl
  | none => rfl

/-! ## Histories -/

namespace WellNamed

theorem standard : standard.WellNamed := by
  refine ⟨?_, ?_, ?_⟩
  · decide +kernel
  · decide +kernel
  · decide +kernel

/-- Fresh names keep the names of a rule set apart. -/
theorem append
    {rules : RuleSet}
    (wellNamed : rules.WellNamed)
    {batch : List ColumnRule}
    (accepted : ¬rules.Refuses batch) :
    WellNamed { rules with columnRules := rules.columnRules ++ batch } := by
  rw [not_refuses_iff, batchFault?_eq_none_iff] at accepted
  obtain ⟨fresh, nodup⟩ := accepted
  have names :
      names { rules with columnRules := rules.columnRules ++ batch } =
        rules.names ++ batch.map ColumnRule.name := by
    simp only [RuleSet.names, List.map_append, List.append_assoc]
  refine ⟨?_, ?_, ?_⟩
  · rw [names]
    refine List.nodup_append.mpr ⟨wellNamed.nodup, nodup, ?_⟩
    rintro name held _ added rfl
    exact (fresh name added).2.1 (List.mem_cons_of_mem _ held)
  · intro name member
    rw [names] at member
    rcases List.mem_append.mp member with held | added
    · exact wellNamed.shown name held
    · exact (fresh name added).1
  · intro taken
    rw [names] at taken
    rcases List.mem_append.mp taken with held | added
    · exact wellNamed.free held
    · exact (fresh _ added).2.1 List.mem_cons_self

/-- Whether it is accepted or not, a batch keeps names apart. -/
theorem enroll
    {rules : RuleSet}
    (wellNamed : rules.WellNamed)
    (batch : List ColumnRule) :
    ((enroll batch).run.run rules).2.WellNamed := by
  rw [run_enroll]
  split
  · exact wellNamed
  · rename_i faultless
    exact wellNamed.append (not_refuses_iff.mpr faultless)

theorem afterHistory
    {rules : RuleSet}
    (wellNamed : rules.WellNamed)
    (history : List (List ColumnRule)) :
    (rules.afterHistory history).WellNamed := by
  induction history generalizing rules with
  | nil => exact wellNamed
  | cons batch rest inductionHypothesis =>
      exact inductionHypothesis (wellNamed.enroll batch)

end WellNamed

/--
After any history of registrations all rules have names of their own, none of
which is blank or the name of the rule of last resort.  The next batch fails
just if one of its names is blank, taken or repeated, and then it leaves all
rules as they are.  Otherwise its rules follow all others in their order, and
their number is returned.
-/
theorem enroll_keeps_names
    (history : List (List ColumnRule))
    (batch : List ColumnRule) :
    (standard.afterHistory history).WellNamed ∧
      match (enroll batch).run.run (standard.afterHistory history) with
      | (.ok count, after) =>
          ¬(standard.afterHistory history).Refuses batch ∧
            count = batch.length ∧
            after.columnRules =
              (standard.afterHistory history).columnRules ++ batch ∧
            after.utilityRules =
              (standard.afterHistory history).utilityRules
      | (.error _, after) =>
          (standard.afterHistory history).Refuses batch ∧
            after = standard.afterHistory history := by
  refine ⟨WellNamed.standard.afterHistory history, ?_⟩
  rw [run_enroll]
  cases faulty :
      batchFault?
        (ColumnRule.structural.name ::
          (standard.afterHistory history).names) []
        (batch.map ColumnRule.name) with
  | some fault =>
      refine ⟨?_, rfl⟩
      by_contra accepted
      rw [not_refuses_iff.mp accepted] at faulty
      cases faulty
  | none => exact ⟨not_refuses_iff.mpr faulty, rfl, rfl, rfl⟩

end RuleSet

end Tablewright
