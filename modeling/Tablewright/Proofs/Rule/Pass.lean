import Tablewright.Proofs.Rule.Shorthand
import Tablewright.Proofs.Rule.Steps

namespace Tablewright

open Code

/-!
# The column pass of the built-in rules

`Rendered` lists everything that rendering one column can do: which rule is
applied, what the rule has seen, which lines it adds and how the table
changes.  `Pass` chains such steps over the positions of a table.  Resolving
with the built-in rules makes a pass, so that properties of the resolution
follow by induction on the pass, with one case for each rule.
-/

namespace RuleSet

/-- Every shorthand is among the built-in rules. -/
theorem mem_inOrder
    (shorthand : Shorthand) :
    shorthand ∈ Shorthand.inOrder := by
  cases shorthand with
  | identity => decide
  | timestamps zoned => cases zoned <;> decide
  | softDeletes zoned => cases zoned <;> decide
  | rememberToken => decide
  | foreignKey => decide
  | morphs family => cases family <;> decide

/-- The shorthand that recognises a column is found for it. -/
theorem matching?_standard_of_test
    {shorthand : Shorthand}
    {table : Table}
    {position : Nat}
    (recognised : shorthand.test table position = true)
    (context : RuleContext) :
    standard.matching? context table position = some shorthand.rule := by
  have found :
      Shorthand.inOrder.find?
          (fun other => other.test table position) =
        some shorthand := by
    cases search :
        Shorthand.inOrder.find?
          (fun other => other.test table position) with
    | none =>
        have absent :=
          List.find?_eq_none.mp search shorthand
            (mem_inOrder shorthand)
        exact (absent recognised).elim
    | some other =>
        have recognisedOther : other.test table position = true := by
          simpa using List.find?_some search
        rw [Shorthand.eq_of_test recognisedOther recognised]
  simp only [matching?, standard, List.find?_map]
  exact congrArg (Option.map Shorthand.rule) found

/-- The shorthand that recognises a column renders it. -/
theorem ruleFor_standard_of_test
    {shorthand : Shorthand}
    {table : Table}
    {position : Nat}
    (recognised : shorthand.test table position = true)
    (context : RuleContext) :
    standard.ruleFor context table position = shorthand.rule := by
  rw [ruleFor, matching?_standard_of_test recognised, Option.getD_some]

theorem matching?_standard_of_unclaimed
    {table : Table}
    {position : Nat}
    (unclaimed :
      ∀ shorthand : Shorthand,
        shorthand.test table position = false)
    (context : RuleContext) :
    standard.matching? context table position = none := by
  simp [matching?, standard, Shorthand.rule, unclaimed]

/-- A column that no shorthand recognises is rendered plainly. -/
theorem ruleFor_standard_of_unclaimed
    {table : Table}
    {position : Nat}
    (unclaimed :
      ∀ shorthand : Shorthand,
        shorthand.test table position = false)
    (context : RuleContext) :
    standard.ruleFor context table position =
      ColumnRule.structural := by
  rw [ruleFor, matching?_standard_of_unclaimed unclaimed,
    Option.getD_none]

end RuleSet

namespace Table

/-- The statement that creates an identity column. -/
def identityStatement (column : Column) : Statement :=
  let call : Call :=
    if column.name = "id" ∧
        (column.kind = .integer ∨ column.kind = .bigInteger) then
      ⟨"id", []⟩
    else
      ⟨column.kind.incrementsMethod?.getD "increments",
        [.literal column.name]⟩
  ⟨call :: commentCalls column.comment⟩

/-- The line that creates a pair of timestamps. -/
def timestampsLine (zoned : Bool) (column : Column) : Line :=
  .call (if zoned then "timestampsTz" else "timestamps")
    (column.arguments.map .verbatim)

/-- The line that creates the column that notes deletions. -/
def softDeletesLine (zoned : Bool) (column : Column) : Line :=
  .call (if zoned then "softDeletesTz" else "softDeletes")
    (if column.arguments.isEmpty then []
      else .literal "deleted_at" :: column.arguments.map .verbatim)

/-- The line that creates a discriminator pair. -/
def morphsLine
    (family : MorphFamily)
    (idColumn : Column)
    (base : String) : Line :=
  .call (family.method idColumn.nullable) [.literal base]

/-- Attach a foreign key to the column at a position. -/
def attach (table : Table) (position : Nat) (key : ForeignKey) : Table :=
  table.update position
    (fun column => { column with foreignKey := some key })

/--
What rendering the column at a position does, given the shorthand that
recognises it, if any.
-/
inductive Rendered
    (table : Table)
    (position : Nat)
    (column : Column) : Option Shorthand → Rendering → Prop where
  | identity
      (recognised : table.isIdentity position = true) :
      Rendered table position column (some .identity)
        ⟨table.markIdentity position,
          [.statement (identityStatement column)]⟩
  | timestamps
      (zoned : Bool)
      (sibling : Nat)
      (found :
        table.timestampSibling? zoned position = some sibling) :
      Rendered table position column (some (.timestamps zoned))
        ⟨table.suppress sibling, [timestampsLine zoned column]⟩
  | softDeletes
      (zoned : Bool)
      (recognised : table.isSoftDelete zoned position = true) :
      Rendered table position column (some (.softDeletes zoned))
        ⟨table, [softDeletesLine zoned column]⟩
  | rememberToken
      (recognised : table.isRememberToken position = true) :
      Rendered table position column (some .rememberToken)
        ⟨table, [.call "rememberToken" []]⟩
  /-- A marker leaves the work to the column that it is created with. -/
  | deferred
      (owned : Nat)
      (marks : column.isMarker = true)
      (found : table.ownedColumn? position = some owned) :
      Rendered table position column (some .foreignKey) ⟨table, []⟩
  /-- A column is created along with the foreign key of its owner. -/
  | collapsed
      (marker : Nat)
      (holder : Column)
      (key : ForeignKey)
      (isColumn : column.isMarker = false)
      (found : table.ownerOf? position = some marker)
      (held : table.column? marker = some holder)
      (owning : holder.owningKey? = some key) :
      Rendered table position column (some .foreignKey)
        ⟨(table.suppress marker).attach position key,
          [.statement (foreignStatement column key)]⟩
  | morphs
      (family : MorphFamily)
      (pair : MorphPair)
      (idColumn : Column)
      (found : table.morphPair? family position = some pair)
      (held : table.column? pair.idColumn = some idColumn) :
      Rendered table position column (some (.morphs family))
        ⟨(table.suppress pair.idColumn).suppress pair.typeColumn,
          [morphsLine family idColumn pair.base]⟩
  /-- A marker that no column waits for states its constraint. -/
  | constraint
      (marks : column.isMarker = true)
      (unclaimed :
        ∀ shorthand : Shorthand,
          shorthand.test table position = false) :
      Rendered table position column none
        ⟨table,
          (column.owningKey?.map
            (fun key => Line.statement key.constraint)).toList⟩
  /-- A column that no shorthand recognises is created plainly. -/
  | plain
      (isColumn : column.isMarker = false)
      (unclaimed :
        ∀ shorthand : Shorthand,
          shorthand.test table position = false) :
      Rendered table position column none
        ⟨table, (column.creation?.map Line.statement).toList⟩

/-- The shorthand that renders a column recognises it. -/
theorem Rendered.test_eq_true
    {table : Table}
    {position : Nat}
    {column : Column}
    {shorthand : Shorthand}
    {rendering : Rendering}
    (rendered :
      Rendered table position column (some shorthand) rendering)
    (held : table.column? position = some column) :
    shorthand.test table position = true := by
  cases rendered with
  | identity recognised => exact recognised
  | timestamps zoned sibling found => simp [Shorthand.test, found]
  | softDeletes zoned recognised => exact recognised
  | rememberToken recognised => exact recognised
  | deferred owned marks found =>
      simp [Shorthand.test, held, marks, found]
  | collapsed marker holder key isColumn found =>
      simp [Shorthand.test, held, isColumn, found]
  | morphs family pair idColumn found => simp [Shorthand.test, found]

/-- A column is rendered by whatever shorthand recognises it. -/
theorem Rendered.eq_some_of_test
    {table : Table}
    {position : Nat}
    {column : Column}
    {chosen : Option Shorthand}
    {rendering : Rendering}
    (rendered : Rendered table position column chosen rendering)
    (held : table.column? position = some column)
    {shorthand : Shorthand}
    (recognised : shorthand.test table position = true) :
    chosen = some shorthand := by
  cases chosen with
  | some other =>
      rw [Shorthand.eq_of_test (rendered.test_eq_true held) recognised]
  | none =>
      cases rendered with
      | constraint _ unclaimed =>
          rw [unclaimed shorthand] at recognised
          cases recognised
      | plain _ unclaimed =>
          rw [unclaimed shorthand] at recognised
          cases recognised

/-- Rendering by a shorthand that recognises the column. -/
theorem rendered_of_test
    {table : Table}
    {position : Nat}
    {column : Column}
    (held : table.column? position = some column)
    {shorthand : Shorthand}
    (recognised : shorthand.test table position = true) :
    Rendered table position column (some shorthand)
      (shorthand.render table position) := by
  cases shorthand with
  | identity =>
      have shape :
          table.renderIdentity position =
            ⟨table.markIdentity position,
              [.statement (identityStatement column)]⟩ := by
        simp [renderIdentity, held, identityStatement]
      rw [Shorthand.render, shape]
      exact .identity recognised
  | timestamps zoned =>
      obtain ⟨sibling, found⟩ := Option.isSome_iff_exists.mp recognised
      have shape :
          table.renderTimestamps zoned position =
            ⟨table.suppress sibling, [timestampsLine zoned column]⟩ := by
        simp [renderTimestamps, held, found, timestampsLine]
      rw [Shorthand.render, shape]
      exact .timestamps zoned sibling found
  | softDeletes zoned =>
      have shape :
          table.renderSoftDelete zoned position =
            ⟨table, [softDeletesLine zoned column]⟩ := by
        simp [renderSoftDelete, held, softDeletesLine]
      rw [Shorthand.render, shape]
      exact .softDeletes zoned recognised
  | rememberToken =>
      exact .rememberToken recognised
  | foreignKey =>
      simp only [Shorthand.test, held] at recognised
      by_cases marks : column.isMarker = true
      · simp only [marks, ↓reduceIte] at recognised
        obtain ⟨owned, found⟩ := Option.isSome_iff_exists.mp recognised
        have shape : table.renderForeignKey position = ⟨table, []⟩ := by
          simp only [renderForeignKey, held]
          cases table.ownerOf? position with
          | none => rfl
          | some marker => simp [marks]
        rw [Shorthand.render, shape]
        exact .deferred owned marks found
      · simp only [marks, Bool.false_eq_true, ↓reduceIte] at recognised
        obtain ⟨marker, found⟩ := Option.isSome_iff_exists.mp recognised
        obtain ⟨_, holder, key, _, _, _, _, holderHeld, owning, _⟩ :=
          ownerOf?_eq_some_iff.mp found
        have hasKey := (Column.owningKey?_eq_some_iff.mp owning).1
        have shape :
            table.renderForeignKey position =
              ⟨(table.suppress marker).attach position key,
                [.statement (foreignStatement column key)]⟩ := by
          simp [renderForeignKey, held, found, marks, holderHeld,
            hasKey, attach]
        rw [Shorthand.render, shape]
        exact .collapsed marker holder key (by simpa using marks) found
          holderHeld owning
  | morphs family =>
      obtain ⟨pair, found⟩ := Option.isSome_iff_exists.mp recognised
      obtain ⟨_, idColumn, _, _, _, _, _, idHeld, _⟩ :=
        morphPair?_eq_some_iff.mp found
      have shape :
          table.renderMorphs family position =
            ⟨(table.suppress pair.idColumn).suppress pair.typeColumn,
              [morphsLine family idColumn pair.base]⟩ := by
        simp [renderMorphs, found, idHeld, morphsLine]
      rw [Shorthand.render, shape]
      exact .morphs family pair idColumn found idHeld

/-- The built-in rules render a column in one of the listed ways. -/
theorem rendered_standard
    (context : RuleContext)
    {table : Table}
    {position : Nat}
    {column : Column}
    (held : table.column? position = some column) :
    ∃ chosen,
      Rendered table position column chosen
        ((RuleSet.standard.ruleFor context table position).render
          context table position) := by
  by_cases claimed :
      ∃ shorthand : Shorthand, shorthand.test table position = true
  · obtain ⟨shorthand, recognised⟩ := claimed
    rw [RuleSet.ruleFor_standard_of_test recognised]
    exact ⟨some shorthand, rendered_of_test held recognised⟩
  · have unclaimed :
        ∀ shorthand : Shorthand,
          shorthand.test table position = false := by
      simpa using claimed
    rw [RuleSet.ruleFor_standard_of_unclaimed unclaimed]
    have shape :
        table.renderStructural position =
          ⟨table, structuralLines column⟩ := by
      simp [renderStructural, held]
    refine ⟨none, ?_⟩
    simp only [ColumnRule.structural, shape, structuralLines]
    by_cases marks : column.isMarker = true
    · simp only [marks, ↓reduceIte]
      exact .constraint marks unclaimed
    · simp only [marks, Bool.false_eq_true, ↓reduceIte]
      exact .plain (by simpa using marks) unclaimed

/-! ## Passes -/

/-- Attaching a foreign key leads to a later state. -/
theorem Later.attach
    (table : Table)
    (position : Nat)
    (key : ForeignKey) :
    Later table (table.attach position key) :=
  Later.update table position
    (fun _ => ⟨rfl, id, fun lost => by cases lost⟩)

/-- Rendering leads to a later state. -/
theorem Rendered.later
    {table : Table}
    {position : Nat}
    {column : Column}
    {chosen : Option Shorthand}
    {rendering : Rendering}
    (rendered : Rendered table position column chosen rendering) :
    Later table rendering.table := by
  cases rendered with
  | identity => exact Later.markIdentity table position
  | timestamps zoned sibling => exact Later.suppress table sibling
  | softDeletes => exact Later.refl table
  | rememberToken => exact Later.refl table
  | deferred => exact Later.refl table
  | collapsed marker holder key =>
      exact (Later.suppress table marker).trans
        (Later.attach _ position key)
  | morphs family pair =>
      exact (Later.suppress table pair.idColumn).trans
        (Later.suppress _ pair.typeColumn)
  | constraint => exact Later.refl table
  | plain => exact Later.refl table

/--
A pass over some positions of a table: which table it leads to and which
lines it adds.  Columns that are ignored by the time of their visit are
skipped.
-/
inductive Pass : List Nat → Table → Table → List Line → Prop where
  | done
      (table : Table) :
      Pass [] table table []
  | skip
      {position : Nat}
      {positions : List Nat}
      {table final : Table}
      {lines : List Line}
      (ignored : table.isIgnored position = true)
      (rest : Pass positions table final lines) :
      Pass (position :: positions) table final lines
  | visit
      {position : Nat}
      {positions : List Nat}
      {table final : Table}
      {lines : List Line}
      {column : Column}
      {chosen : Option Shorthand}
      {rendering : Rendering}
      (held : table.column? position = some column)
      (active : column.ignored = false)
      (rendered : Rendered table position column chosen rendering)
      (rest : Pass positions rendering.table final lines) :
      Pass (position :: positions) table final
        (rendering.lines ++ lines)

/-- A pass leads to a later state. -/
theorem Pass.later
    {positions : List Nat}
    {table final : Table}
    {lines : List Line}
    (pass : Pass positions table final lines) :
    Later table final := by
  induction pass with
  | done table => exact Later.refl table
  | skip _ _ inductionHypothesis => exact inductionHypothesis
  | visit _ _ rendered _ inductionHypothesis =>
      exact rendered.later.trans inductionHypothesis

/-- Visits leave it to the utility rules to take notes of themselves. -/
theorem Rendered.consumed_eq
    {table : Table}
    {position : Nat}
    {column : Column}
    {chosen : Option Shorthand}
    {rendering : Rendering}
    (rendered : Rendered table position column chosen rendering) :
    rendering.table.consumed = table.consumed := by
  cases rendered with
  | _ => rfl

theorem Pass.consumed_eq
    {positions : List Nat}
    {table final : Table}
    {lines : List Line}
    (pass : Pass positions table final lines) :
    final.consumed = table.consumed := by
  induction pass with
  | done => rfl
  | skip _ _ inductionHypothesis => exact inductionHypothesis
  | visit _ _ rendered _ inductionHypothesis =>
      exact inductionHypothesis.trans rendered.consumed_eq

/-- Rendering copies no text into a migration. -/
theorem Rendered.exists_statement
    {table : Table}
    {position : Nat}
    {column : Column}
    {chosen : Option Shorthand}
    {rendering : Rendering}
    (rendered : Rendered table position column chosen rendering) :
    ∀ line ∈ rendering.lines, ∃ written, line = .statement written := by
  intro line member
  cases rendered with
  | deferred => cases member
  | constraint =>
      obtain ⟨key, _, rfl⟩ :=
        Option.map_eq_some_iff.mp (Option.mem_toList.mp member)
      exact ⟨key.constraint, rfl⟩
  | plain =>
      obtain ⟨written, _, rfl⟩ :=
        Option.map_eq_some_iff.mp (Option.mem_toList.mp member)
      exact ⟨written, rfl⟩
  | _ => exact ⟨_, List.mem_singleton.mp member⟩

/-- A pass copies no text into a migration. -/
theorem Pass.exists_statement
    {positions : List Nat}
    {table final : Table}
    {lines : List Line}
    (pass : Pass positions table final lines) :
    ∀ line ∈ lines, ∃ written, line = .statement written := by
  induction pass with
  | done => simp
  | skip _ _ inductionHypothesis => exact inductionHypothesis
  | visit _ _ rendered _ inductionHypothesis =>
      intro line member
      rcases List.mem_append.mp member with now | later
      · exact rendered.exists_statement line now
      · exact inductionHypothesis line later

/-- Visiting columns with the built-in rules makes a pass. -/
theorem pass_resolveColumns
    (context : RuleContext)
    (positions : List Nat)
    (table : Table)
    (inRange :
      ∀ position ∈ positions, (table.column? position).isSome = true) :
    Pass positions table
      (RuleSet.standard.resolveColumns context positions table).table
      ((RuleSet.standard.resolveColumns context positions
        table).contributions.flatMap Contribution.lines) := by
  induction positions generalizing table with
  | nil => exact .done table
  | cons position rest inductionHypothesis =>
      rw [List.forall_mem_cons] at inRange
      by_cases ignored : table.isIgnored position = true
      · simp only [RuleSet.resolveColumns, ignored, ↓reduceIte]
        exact .skip ignored (inductionHypothesis table inRange.2)
      · obtain ⟨column, held⟩ := Option.isSome_iff_exists.mp inRange.1
        obtain ⟨chosen, rendered⟩ := rendered_standard context held
        simp only [RuleSet.resolveColumns, ignored, Bool.false_eq_true,
          ↓reduceIte, List.flatMap_cons]
        refine .visit held ?_ rendered (inductionHypothesis _ ?_)
        · simpa [isIgnored_of_column? held] using ignored
        · intro other member
          obtain ⟨before, beforeHeld⟩ :=
            Option.isSome_iff_exists.mp (inRange.2 other member)
          obtain ⟨after, afterHeld, _⟩ :=
            rendered.later.column?_after beforeHeld
          simp [afterHeld]

/-- The column pass of a resolution with the built-in rules. -/
theorem pass_positions
    (context : RuleContext)
    (table : Table) :
    Pass table.positions table
      (RuleSet.standard.resolveColumns context table.positions
        table).table
      ((RuleSet.standard.resolveColumns context table.positions
        table).contributions.flatMap Contribution.lines) := by
  refine pass_resolveColumns context table.positions table ?_
  intro position member
  rw [positions, List.mem_range] at member
  simp [column?, member]

end Table

/-- The lines that the visits of columns have added. -/
def Resolution.columnLines (resolution : Resolution) : List Line :=
  (resolution.contributions.filter
    (fun contribution => contribution.position.isSome)).flatMap
      Contribution.lines

namespace RuleSet

/-- Every contribution of a column pass is the visit of a position. -/
theorem position_isSome_of_mem_resolveColumns
    (rules : RuleSet)
    (context : RuleContext)
    (positions : List Nat)
    (table : Table) :
    ∀ contribution ∈
        (rules.resolveColumns context positions table).contributions,
      contribution.position.isSome = true := by
  rw [contributions_resolveColumns, List.forall_mem_map]
  exact fun _ _ => rfl

/-- No contribution of the utility rules is the visit of a position. -/
theorem position_eq_none_of_mem_resolveUtilities
    (context : RuleContext)
    (utilities : List UtilityRule)
    (table : Table) :
    ∀ contribution ∈
        (resolveUtilities context utilities table).contributions,
      contribution.position = none := by
  rw [contributions_resolveUtilities, List.forall_mem_map]
  exact fun _ _ => rfl

/-- The column lines of a resolution are those of its column pass. -/
theorem columnLines_resolve
    (rules : RuleSet)
    (context : RuleContext)
    (table : Table) :
    (rules.resolve context table).columnLines =
      (rules.resolveColumns context table.positions
        table).contributions.flatMap Contribution.lines := by
  have visits :=
    List.filter_eq_self.mpr
      (rules.position_isSome_of_mem_resolveColumns context
        table.positions table)
  have utilities :
      (resolveUtilities context rules.utilityRules
          (rules.resolveColumns context table.positions
            table).table).contributions.filter
        (fun contribution => contribution.position.isSome) = [] := by
    rw [List.filter_eq_nil_iff]
    intro contribution member
    simp [position_eq_none_of_mem_resolveUtilities context
      rules.utilityRules _ contribution member]
  simp only [resolve, Resolution.columnLines, List.filter_append,
    visits, utilities, List.append_nil]

end RuleSet

end Tablewright
