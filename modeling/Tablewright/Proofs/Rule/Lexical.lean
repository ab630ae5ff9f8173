import Tablewright.Proofs.Rule.Copies

namespace Tablewright

/-!
# Lines that keep their texts apart

A line is sound if it is read as the tokens that its statement is meant to
have, closes its brackets, and holds every text of the table in a literal or
as a number.  Along a resolution the table takes no texts from elsewhere, so a
line that is written late still holds texts of the table at the start.
-/

open Code

/-! ## Texts of later states -/

theorem Column.Later.ownTexts_eq
    {before after : Column}
    (later : Later before after) :
    after.ownTexts = before.ownTexts := by
  rw [later.unchanged]
  rfl

theorem Column.Later.numerals_eq
    {before after : Column}
    (later : Later before after) :
    after.numerals = before.numerals := by
  rw [later.unchanged]
  rfl

theorem Column.Later.defaultValue_eq
    {before after : Column}
    (later : Later before after) :
    after.defaultValue = before.defaultValue := by
  rw [later.unchanged]

namespace Table

/-- A later state of a table that has taken all its texts from it. -/
structure Draws (before after : Table) : Prop where
  later : Later before after
  texts : after.texts ⊆ before.texts

namespace Draws

theorem refl (table : Table) : Draws table table :=
  ⟨Later.refl table, List.Subset.refl _⟩

theorem trans
    {first second third : Table}
    (earlier : Draws first second)
    (later : Draws second third) :
    Draws first third :=
  ⟨earlier.later.trans later.later,
    List.Subset.trans later.texts earlier.texts⟩

variable {before after : Table}

/-- A later state takes its texts from the earlier one if it takes its foreign
keys from there. -/
theorem of_foreignKeys
    (later : Later before after)
    (keys :
      ∀ position key, after.foreignKey? position = some key →
        ∃ other, before.foreignKey? other = some key) :
    Draws before after := by
  refine ⟨later, ?_⟩
  intro text member
  rcases List.mem_append.mp member with inColumns | inIndexes
  · obtain ⟨column, inTable, inColumn⟩ := List.mem_flatMap.mp inColumns
    obtain ⟨position, held⟩ := List.mem_iff_getElem?.mp inTable
    rcases List.mem_append.mp inColumn with own | inKey
    · obtain ⟨earlier, earlierHeld, changes⟩ := later.column?_before held
      rw [changes.ownTexts_eq] at own
      exact Column.taken_ownTexts earlierHeld own
    · cases keyed : column.foreignKey with
      | none =>
          rw [keyed] at inKey
          cases inKey
      | some key =>
          rw [keyed] at inKey
          have attached : after.foreignKey? position = some key := by
            rw [foreignKey?, column?, held]
            exact keyed
          obtain ⟨other, given⟩ := keys position key attached
          obtain ⟨holder, holderHeld, holds⟩ :=
            Option.bind_eq_some_iff.mp given
          exact mem_texts_of_column? holderHeld
            (List.mem_append_right _ (by simpa [holds] using inKey))
  · rw [later.indexes_eq] at inIndexes
    exact List.mem_append_right _ inIndexes

variable (draws : Draws before after)

include draws

theorem numerals :
    after.numerals ⊆ before.numerals := by
  intro text member
  obtain ⟨column, inTable, inColumn⟩ := List.mem_flatMap.mp member
  obtain ⟨position, held⟩ := List.mem_iff_getElem?.mp inTable
  obtain ⟨earlier, earlierHeld, changes⟩ :=
    draws.later.column?_before held
  rw [changes.numerals_eq] at inColumn
  exact mem_numerals_of_column? earlierHeld inColumn

theorem numbersFit
    (fit : before.NumbersFit) :
    after.NumbersFit := by
  intro column inTable number given
  obtain ⟨position, held⟩ := List.mem_iff_getElem?.mp inTable
  obtain ⟨earlier, earlierHeld, changes⟩ :=
    draws.later.column?_before held
  rw [changes.defaultValue_eq] at given
  exact fit earlier (List.mem_of_getElem? earlierHeld) number given

end Draws

end Table

/-- A step takes no text that the table does not have. -/
theorem Step.Framed.draws
    {step : Step}
    (framed : step.Framed) :
    Table.Draws step.before step.after := by
  refine .of_foreignKeys framed.continues.later ?_
  intro position key attached
  by_cases same :
      step.after.foreignKey? position = step.before.foreignKey? position
  · exact ⟨position, same ▸ attached⟩
  · cases framed.attaches position same with
    | @visit visit marker holder other _ _ held _ _ keyed _ taken =>
        have sameKey : other = key :=
          Option.some.inj (taken.symm.trans attached)
        refine ⟨marker, ?_⟩
        rw [← sameKey]
        exact Option.bind_eq_some_iff.mpr ⟨holder, held, keyed⟩

/-! ## Resolutions -/

namespace RuleSet

variable {context : RuleContext} {table : Table}

/-- Every applied utility rule is one of those given. -/
theorem mem_of_mem_firings
    {utilities : List UtilityRule}
    {firing : Firing}
    (member : firing ∈ firings context utilities table) :
    firing.rule ∈ utilities := by
  induction utilities generalizing table with
  | nil => cases member
  | cons utility rest inductionHypothesis =>
      rw [firings] at member
      split at member
      · exact List.mem_cons_of_mem _ (inductionHypothesis member)
      · rcases List.mem_cons.mp member with rfl | later
        · exact List.mem_cons_self
        · exact List.mem_cons_of_mem _ (inductionHypothesis later)

/-- A visit copies what its rule copies from the column that it visits. -/
theorem copies_of_mem_visits
    {visit : Visit}
    {positions : List Nat}
    (member : visit ∈ standard.visits context positions table)
    (fit : visit.before.NumbersFit) :
    ∀ line ∈ visit.contribution.lines, ∃ written,
      line = .statement written ∧
        written.Copies visit.before
          (visit.before.copied visit.contribution) := by
  obtain ⟨_, chosen⟩ := standard.of_mem_visits context member
  intro line inLines
  cases held : visit.before.column? visit.position with
  | none =>
      -- Nothing is rendered where no column is.
      have unclaimed :
          ∀ shorthand : Shorthand,
            shorthand.test visit.before visit.position = false := by
        intro shorthand
        rw [Bool.eq_false_iff]
        intro recognised
        obtain ⟨column, there⟩ :=
          Shorthand.exists_column_of_test recognised
        rw [held] at there
        cases there
      rw [ruleFor_standard_of_unclaimed unclaimed] at chosen
      have nothing : visit.contribution.lines = [] := by
        simp [Visit.contribution, Visit.rendering, chosen,
          ColumnRule.structural, Table.renderStructural, held]
      rw [nothing] at inLines
      cases inLines
  | some column =>
      obtain ⟨shorthand, rendered⟩ :=
        Table.rendered_standard visit.context held
      have name :
          visit.contribution.rule = ruleName shorthand := by
        rw [← rendered.name_eq held visit.context, ← chosen]
        rfl
      have copied :
          visit.before.copied visit.contribution =
            column.copied (ruleName shorthand) := by
        rw [Table.copied, name]
        simp [Visit.contribution, held]
      rw [copied]
      rw [← chosen] at rendered
      exact rendered.copies fit held line inLines

/-- The lines of a resolution copy what their rules copy from the columns of
the table. -/
theorem copies_of_mem_resolve
    (context : RuleContext)
    (fit : table.NumbersFit) :
    ∀ contribution ∈ (standard.resolve context table).contributions,
      ∀ line ∈ contribution.lines, ∃ written,
        line = .statement written ∧
          written.Copies table (table.copied contribution) := by
  have framed :
      ∀ step ∈ standard.steps context table, step.Framed :=
    restrained_standard.framed
  obtain ⟨draws, _⟩ :=
    (standard.leads_steps context table).kept Table.Draws.refl
      Table.Draws.trans fun step member => (framed step member).draws
  rw [contributions_resolve, List.forall_mem_map]
  intro step member line inLines
  have before := draws step member
  rcases List.mem_append.mp member with visited | fired
  · obtain ⟨visit, isVisit, rfl⟩ := List.mem_map.mp visited
    obtain ⟨written, same, made⟩ :=
      copies_of_mem_visits isVisit (before.numbersFit fit) line inLines
    have copied := before.later.copied_eq visit.contribution
    exact ⟨written, same,
      (copied ▸ made).mono before.texts before.numerals⟩
  · obtain ⟨firing, isFiring, rfl⟩ := List.mem_map.mp fired
    obtain ⟨utility, _, isRule⟩ :=
      List.mem_map.mp (mem_of_mem_firings isFiring)
    have noted := (framed _ member).draws
    simp only [Step.contribution, Firing.contribution, ← isRule]
      at inLines
    obtain ⟨written, same, made⟩ := utility.copies line inLines
    exact ⟨written, same,
      made.mono (List.Subset.trans noted.texts before.texts)
        (List.Subset.trans noted.numerals before.numerals)⟩

/-- What a contribution copies may be written as a number. -/
theorem copied_subset_numerals
    (contribution : Contribution) :
    table.copied contribution ⊆ table.numerals := by
  intro code member
  unfold Table.copied at member
  cases held : contribution.position.bind table.column? with
  | none =>
      rw [held] at member
      cases member
  | some column =>
      rw [held] at member
      obtain ⟨position, _, atPosition⟩ := Option.bind_eq_some_iff.mp held
      exact Table.mem_numerals_of_column? atPosition
        (List.mem_append_left _
          (column.copied_subset contribution.rule member))

/--
Every line that the built-in rules add to a resolution is made on the table
and ends with a semicolon.  It is read as the tokens of its statement, with
every text of the table in a literal or as a number, just if the arguments
that its rule copies from the visited column are numbers of the generated
code.
-/
theorem sound_lines_iff
    (context : RuleContext)
    (fit : table.NumbersFit) :
    ∀ contribution ∈ (standard.resolve context table).contributions,
      ∀ line ∈ contribution.lines,
        "$table->".toList <+: line.text.toList ∧
          [';'] <:+ line.text.toList ∧
          (line.Sound table ↔
            ∀ argument ∈ table.copied contribution,
              isNumeral argument.toList = true) := by
  intro contribution member line inLines
  obtain ⟨written, rfl, made⟩ :=
    copies_of_mem_resolve context fit contribution member line inLines
  obtain ⟨opens, closes⟩ := made.opens_and_closes
  exact ⟨opens, closes, made.sound_iff
    fun code copied => copied_subset_numerals contribution copied⟩

/-- A table whose columns have arguments that are no numbers. -/
def visitTable : Table :=
  { columns :=
      [ { Column.plain "created_at" .timestamp with
          arguments := ["3) ; evil("] },
        { Column.plain "updated_at" .timestamp with
          arguments := ["3) ; evil("] },
        { Column.plain "host" .string with
          arguments := ["it's"]
          defaultValue := some (.literal (.number (.integer (-1))))
          comment := some "a \\ or a '" },
        { Column.plain "score" .decimal with arguments := ["inf", "2"] } ] }

theorem numbersFit_visitTable : visitTable.NumbersFit := by
  simp only [Table.NumbersFit, visitTable, List.forall_mem_cons]
  refine ⟨?_, ?_, ?_, ?_, fun _ absent => (List.not_mem_nil absent).elim⟩
  · rintro number ⟨⟩
  · rintro number ⟨⟩
  · rintro number ⟨⟩
    trivial
  · rintro number ⟨⟩

/-- The column whose argument is quoted keeps its texts apart. -/
theorem sound_lines_iff_visits :
    visitTable.NumbersFit ∧
      ∃ contribution ∈
          (standard.resolve ⟨"Visit", "visits"⟩ visitTable).contributions,
        ∃ line ∈ contribution.lines,
          line.text =
              "$table->string('host', 'it\\'s')->default(-1)" ++
                "->comment('a \\\\ or a \\'');" ∧
            "$table->".toList <+: line.text.toList ∧
            [';'] <:+ line.text.toList ∧
            line.Sound visitTable := by
  have member :
      (⟨some 2, "structural",
        [.statement
          ⟨[⟨"string", [.literal "host", .literal "it's"]⟩,
            ⟨"default", [.verbatim "-1"]⟩,
            ⟨"comment", [.literal "a \\ or a '"]⟩]⟩]⟩ : Contribution) ∈
        (standard.resolve ⟨"Visit", "visits"⟩
          visitTable).contributions := by
    decide +kernel
  obtain ⟨opens, closes, sound⟩ :=
    sound_lines_iff ⟨"Visit", "visits"⟩ numbersFit_visitTable _ member _
      List.mem_cons_self
  refine ⟨numbersFit_visitTable, _, member, _, List.mem_cons_self,
    by decide +kernel, opens, closes, sound.mpr ?_⟩
  decide +kernel

/-- A precision that is copied for a pair of timestamps ends their call and
begins another one, and a width that can be read as a number need not be one
in the generated code. -/
theorem exists_unsound_lines :
    (∃ contribution ∈
        (standard.resolve ⟨"Visit", "visits"⟩ visitTable).contributions,
      ∃ line ∈ contribution.lines,
        line.text = "$table->timestamps(3) ; evil();" ∧
          scan line.text =
            some
              [ .run "$table->timestamps".toList, .mark '(',
                .run "3".toList, .mark ')', .mark ';', .run "evil".toList,
                .mark '(', .mark ')', .mark ';' ] ∧
          ¬ line.Sound visitTable) ∧
      ∃ contribution ∈
          (standard.resolve ⟨"Visit", "visits"⟩ visitTable).contributions,
        ∃ line ∈ contribution.lines,
          line.text = "$table->decimal('score', inf, 2);" ∧
            ¬ line.Sound visitTable := by
  constructor
  · refine ⟨⟨some 0, "timestamps",
        [.statement ⟨[⟨"timestamps", [.verbatim "3) ; evil("]⟩]⟩]⟩,
      by decide +kernel, _, List.mem_cons_self, by decide +kernel,
      by decide +kernel, ?_⟩
    intro sound
    have placed :=
      (sound.placed _ List.mem_cons_self).arguments _ List.mem_cons_self
    exact absurd (placed.isNumeral (by decide)) (by decide)
  · refine ⟨⟨some 3, "structural",
        [.statement ⟨[⟨"decimal",
          [.literal "score", .verbatim "inf", .verbatim "2"]⟩]⟩]⟩,
      by decide +kernel, _, List.mem_cons_self, by decide +kernel, ?_⟩
    intro sound
    have placed :=
      (sound.placed _ List.mem_cons_self).arguments (.verbatim "inf")
        (List.mem_cons_of_mem _ List.mem_cons_self)
    exact absurd (placed.isNumeral (by decide)) (by decide)

end RuleSet

end Tablewright
