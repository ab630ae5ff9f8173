import Tablewright.Proofs.Column.Comment
import Tablewright.Proofs.Rule.Pass

namespace Tablewright

/-!
# Resolutions without comments

A comment is written by one call of its own behind the call that creates its
column.  No rule looks at comments, so resolving a table whose comments are
taken away is the same as taking the calls for comments away afterwards.
-/

open Code

/-! ## Lines without comments -/

/-- Whether a call writes a comment. -/
def Code.Call.isComment (call : Call) : Bool :=
  call.method == "comment"

/-- The calls that write no comment. -/
def Code.uncommented (calls : List Call) : List Call :=
  calls.filter fun call => !call.isComment

/-- The statement without its comments. -/
def Code.Statement.withoutComments (statement : Statement) : Statement :=
  ⟨uncommented statement.calls⟩

/-- The line without its comments. -/
def Code.Line.withoutComments : Line → Line
  | .statement written => .statement written.withoutComments
  | .verbatim text => .verbatim text

/-- The rendering with all comments taken away. -/
def Rendering.withoutComments (rendering : Rendering) : Rendering :=
  ⟨rendering.table.withoutComments,
    rendering.lines.map Line.withoutComments⟩

/-- The contribution without its comments. -/
def Contribution.withoutComments (contribution : Contribution) :
    Contribution :=
  { contribution with
    lines := contribution.lines.map Line.withoutComments }

/-- The resolution with all comments taken away. -/
def Resolution.withoutComments (resolution : Resolution) : Resolution :=
  ⟨resolution.table.withoutComments,
    resolution.contributions.map Contribution.withoutComments⟩

namespace Code

@[simp]
theorem uncommented_append
    (first second : List Call) :
    uncommented (first ++ second) =
      uncommented first ++ uncommented second :=
  List.filter_append ..

theorem uncommented_cons
    {call : Call}
    (other : call.method ≠ "comment")
    (calls : List Call) :
    uncommented (call :: calls) = call :: uncommented calls := by
  simp [uncommented, Call.isComment, other]

@[simp]
theorem uncommented_commentCalls
    (comment : Option String) :
    uncommented (commentCalls comment) = [] := by
  cases comment <;> rfl

/-- A line with a single call is no comment. -/
theorem Line.withoutComments_call
    {method : String}
    (other : method ≠ "comment")
    (arguments : List Argument) :
    (Line.call method arguments).withoutComments =
      .call method arguments := by
  simp [call, withoutComments, Statement.withoutComments, uncommented,
    Call.isComment, other]

end Code

/-- The calls for a default write no comment. -/
@[simp]
theorem uncommented_defaultCalls
    (value : Schema.DefaultValue) :
    uncommented (defaultCalls value) = defaultCalls value := by
  cases value with
  | literal value => rfl
  | generator name arguments =>
      unfold defaultCalls
      dsimp only
      repeat' split
      all_goals rfl

/-- The calls for the actions of a foreign key write no comment. -/
@[simp]
theorem uncommented_actionCalls
    (key : ForeignKey) :
    uncommented key.actionCalls = key.actionCalls := by
  have deletion :
      uncommented (key.onDelete.map Column.Action.onDelete).toList =
        (key.onDelete.map Column.Action.onDelete).toList := by
    cases key.onDelete with
    | none => rfl
    | some action => cases action <;> rfl
  have change :
      uncommented (key.onUpdate.map Column.Action.onUpdate).toList =
        (key.onUpdate.map Column.Action.onUpdate).toList := by
    cases key.onUpdate with
    | none => rfl
    | some action => cases action <;> rfl
  rw [ForeignKey.actionCalls, uncommented_append, deletion, change]

/-- The explicit constraint of a foreign key writes no comment. -/
@[simp]
theorem ForeignKey.withoutComments_constraint
    (key : ForeignKey) :
    key.constraint.withoutComments = key.constraint := by
  simp [constraint, Statement.withoutComments, uncommented_cons]

namespace Column

/-- The modifiers of a column without its comment. -/
@[simp]
theorem uncommented_modifierCalls
    (column : Column) :
    uncommented column.modifierCalls =
      column.withoutComment.modifierCalls := by
  have null :
      uncommented (if column.nullable then [⟨"nullable", []⟩] else []) =
        if column.nullable then [⟨"nullable", []⟩] else [] := by
    split <;> rfl
  have defaults :
      uncommented ((column.defaultValue.map defaultCalls).getD []) =
        (column.defaultValue.map defaultCalls).getD [] := by
    cases column.defaultValue with
    | none => rfl
    | some value => exact uncommented_defaultCalls value
  simp only [modifierCalls, uncommented_append, null, defaults,
    uncommented_commentCalls, withoutComment_nullable,
    withoutComment_defaultValue, withoutComment_comment]
  rfl

/-- No builder method writes a comment. -/
theorem builderMethod?_ne_comment
    {kind : Kind}
    {method : String}
    (creates : kind.builderMethod? = some method) :
    method ≠ "comment" := by
  rintro rfl
  cases kind <;> simp [Kind.builderMethod?] at creates

/-- A column without its comment is created by the statement without its
comments. -/
@[simp]
theorem creation?_withoutComment
    (column : Column) :
    column.withoutComment.creation? =
      column.creation?.map Statement.withoutComments := by
  have count : uncommented column.integerCalls = column.integerCalls := by
    unfold integerCalls
    repeat' split
    all_goals rfl
  simp only [creation?, withoutComment_kind]
  cases creates : column.kind.builderMethod? with
  | none => rfl
  | some method =>
      have other :
          (Call.mk method
            (.literal column.name :: column.builderArguments)).method ≠
              "comment" :=
        builderMethod?_ne_comment creates
      simp only [Option.map_some, Statement.withoutComments,
        List.cons_append, uncommented_cons other, uncommented_append, count,
        uncommented_modifierCalls]
      rfl

/-- A column without its comment is created along with its foreign key by the
statement without its comments. -/
@[simp]
theorem foreignStatement_withoutComment
    (column : Column)
    (key : ForeignKey) :
    Table.foreignStatement column.withoutComment key =
      (Table.foreignStatement column key).withoutComments := by
  have creates :
      (Call.mk ((foreignMethod? column.kind).getD "foreignId")
        [.literal column.name]).method ≠ "comment" := by
    cases column.kind <;> simp [foreignMethod?]
  have constrains : (Table.constrainedCall key).method ≠ "comment" := by
    unfold Table.constrainedCall
    split <;> simp
  simp only [Table.foreignStatement, Statement.withoutComments,
    List.cons_append, uncommented_cons creates, uncommented_append,
    uncommented_cons constrains, uncommented_actionCalls,
    uncommented_modifierCalls, withoutComment_kind, withoutComment_name]

@[simp]
theorem structuralLines_withoutComment
    (column : Column) :
    Table.structuralLines column.withoutComment =
      (Table.structuralLines column).map Line.withoutComments := by
  unfold Table.structuralLines
  rw [isMarker_withoutComment]
  split
  · rw [owningKey?_withoutComment]
    cases column.owningKey? with
    | none => rfl
    | some key => simp [Line.withoutComments]
  · rw [creation?_withoutComment]
    cases column.creation? <;> rfl

end Column

/-! ## Shorthands -/

namespace Table

variable (table : Table) (position : Nat)

@[simp]
theorem isIdentity_withoutComments :
    table.withoutComments.isIdentity position =
      table.isIdentity position := by
  unfold isIdentity
  rw [column?_withoutComments]
  cases table.column? position <;> simp

@[simp]
theorem timestampSibling?_withoutComments
    (zoned : Bool) :
    table.withoutComments.timestampSibling? zoned position =
      table.timestampSibling? zoned position := by
  unfold timestampSibling?
  rw [column?_withoutComments]
  cases table.column? position with
  | none => rfl
  | some column =>
      simp [Option.bind_map]

@[simp]
theorem isSoftDelete_withoutComments
    (zoned : Bool) :
    table.withoutComments.isSoftDelete zoned position =
      table.isSoftDelete zoned position := by
  unfold isSoftDelete
  rw [column?_withoutComments]
  cases table.column? position <;> rfl

@[simp]
theorem isRememberToken_withoutComments :
    table.withoutComments.isRememberToken position =
      table.isRememberToken position := by
  unfold isRememberToken
  rw [column?_withoutComments]
  cases table.column? position <;> rfl

@[simp]
theorem ownerOf?_withoutComments :
    table.withoutComments.ownerOf? position = table.ownerOf? position := by
  unfold ownerOf?
  rw [column?_withoutComments]
  cases table.column? position with
  | none => rfl
  | some column =>
      simp [Option.bind_map, Function.comp_def]

@[simp]
theorem ownedColumn?_withoutComments :
    table.withoutComments.ownedColumn? position =
      table.ownedColumn? position := by
  unfold ownedColumn?
  rw [column?_withoutComments]
  cases table.column? position with
  | none => rfl
  | some column =>
      simp

@[simp]
theorem namedPair?_withoutComments
    (name : String) :
    table.withoutComments.namedPair? position name =
      table.namedPair? position name := by
  simp [namedPair?]

@[simp]
theorem isPairOf_withoutComments
    (family : MorphFamily)
    (idColumn typeColumn : Column) :
    table.withoutComments.isPairOf family idColumn.withoutComment
        typeColumn.withoutComment =
      table.isPairOf family idColumn typeColumn := by
  have sameAccepts :
      family.accepts idColumn.withoutComment = family.accepts idColumn := by
    cases family <;> rfl
  simp [isPairOf, sameAccepts]

@[simp]
theorem morphPair?_withoutComments
    (family : MorphFamily) :
    table.withoutComments.morphPair? family position =
      table.morphPair? family position := by
  unfold morphPair?
  rw [column?_withoutComments]
  cases table.column? position with
  | none => rfl
  | some column =>
      simp [Option.bind_map]

/-! ### Renderings -/

omit table position in
theorem identityStatement_withoutComment
    (column : Column) :
    identityStatement column.withoutComment =
      (identityStatement column).withoutComments := by
  have increments :
      column.kind.incrementsMethod?.getD "increments" ≠ "comment" := by
    cases column.kind <;> decide
  unfold identityStatement
  simp only [Statement.withoutComments, Column.withoutComment_name,
    Column.withoutComment_kind, Column.withoutComment_comment]
  split
  · rw [uncommented_cons (by simp), uncommented_commentCalls]
    rfl
  · rw [uncommented_cons increments, uncommented_commentCalls]
    rfl

@[simp]
theorem renderIdentity_withoutComments :
    table.withoutComments.renderIdentity position =
      (table.renderIdentity position).withoutComments := by
  unfold renderIdentity
  rw [column?_withoutComments]
  cases table.column? position with
  | none => rfl
  | some column =>
      simp only [Option.map_some]
      exact congrArg
        (fun statement : Statement =>
          Rendering.mk (table.withoutComments.markIdentity position)
            [.statement statement])
        (identityStatement_withoutComment column)

@[simp]
theorem renderTimestamps_withoutComments
    (zoned : Bool) :
    table.withoutComments.renderTimestamps zoned position =
      (table.renderTimestamps zoned position).withoutComments := by
  have other : (if zoned then "timestampsTz" else "timestamps") ≠
      "comment" := by
    cases zoned <;> decide
  simp only [renderTimestamps, timestampSibling?_withoutComments,
    column?_withoutComments, Option.map_map, Function.comp_def,
    Column.withoutComment_arguments, Rendering.withoutComments,
    List.map_cons, List.map_nil, Line.withoutComments_call other]
  cases table.timestampSibling? zoned position <;> simp

@[simp]
theorem renderSoftDelete_withoutComments
    (zoned : Bool) :
    table.withoutComments.renderSoftDelete zoned position =
      (table.renderSoftDelete zoned position).withoutComments := by
  have other : (if zoned then "softDeletesTz" else "softDeletes") ≠
      "comment" := by
    cases zoned <;> decide
  simp only [renderSoftDelete, column?_withoutComments, Option.map_map,
    Function.comp_def, Column.withoutComment_arguments,
    Rendering.withoutComments, List.map_cons, List.map_nil,
    Line.withoutComments_call other]

@[simp]
theorem renderForeignKey_withoutComments :
    table.withoutComments.renderForeignKey position =
      (table.renderForeignKey position).withoutComments := by
  unfold renderForeignKey
  rw [column?_withoutComments, ownerOf?_withoutComments]
  cases table.column? position with
  | none => rfl
  | some column =>
      cases table.ownerOf? position with
      | none => rfl
      | some marker =>
          have sameKey :
              ((table.column? marker).map Column.withoutComment).bind
                  Column.foreignKey =
                (table.column? marker).bind Column.foreignKey := by
            cases table.column? marker <;> rfl
          have attached :
              ∀ key : Option ForeignKey,
                (table.suppress marker).withoutComments.update position
                    (fun column => { column with foreignKey := key }) =
                  ((table.suppress marker).update position
                    fun column =>
                      { column with foreignKey := key }).withoutComments :=
            fun key => update_withoutComments _ _ fun _ => rfl
          simp only [Option.map_some, Column.isMarker_withoutComment,
            suppress_withoutComments, column?_withoutComments, sameKey,
            attached]
          split
          · rfl
          · cases (table.column? marker).bind Column.foreignKey <;>
              simp [Rendering.withoutComments, Line.withoutComments]

@[simp]
theorem renderMorphs_withoutComments
    (family : MorphFamily) :
    table.withoutComments.renderMorphs family position =
      (table.renderMorphs family position).withoutComments := by
  unfold renderMorphs
  rw [morphPair?_withoutComments]
  cases table.morphPair? family position with
  | none => rfl
  | some pair =>
      have other : ∀ nullable, family.method nullable ≠ "comment" := by
        intro nullable
        cases family <;> cases nullable <;> decide
      simp [Rendering.withoutComments, Line.withoutComments_call (other _),
        Function.comp_def]

@[simp]
theorem renderStructural_withoutComments :
    table.withoutComments.renderStructural position =
      (table.renderStructural position).withoutComments := by
  unfold renderStructural Rendering.withoutComments
  rw [column?_withoutComments]
  cases table.column? position <;> simp

end Table

namespace Shorthand

/-- Whether a shorthand recognises a column does not depend on comments. -/
theorem test_withoutComments
    (shorthand : Shorthand)
    (table : Table) :
    shorthand.test table.withoutComments = shorthand.test table := by
  funext position
  cases shorthand with
  | identity => simp [test]
  | timestamps zoned => simp [test]
  | softDeletes zoned => simp [test]
  | rememberToken => simp [test]
  | foreignKey =>
      simp only [test, Table.column?_withoutComments]
      cases table.column? position <;> simp
  | morphs family => simp [test]

/-- A shorthand renders a table without comments as it renders the table,
comments aside. -/
theorem render_withoutComments
    (shorthand : Shorthand)
    (table : Table)
    (position : Nat) :
    shorthand.render table.withoutComments position =
      (shorthand.render table position).withoutComments := by
  cases shorthand with
  | identity => exact table.renderIdentity_withoutComments position
  | timestamps zoned =>
      exact table.renderTimestamps_withoutComments position zoned
  | softDeletes zoned =>
      exact table.renderSoftDelete_withoutComments position zoned
  | rememberToken => rfl
  | foreignKey => exact table.renderForeignKey_withoutComments position
  | morphs family => exact table.renderMorphs_withoutComments position family

end Shorthand

/-! ## Utilities -/

namespace Table

variable (table : Table)

@[simp]
theorem primaryNames_withoutComments :
    table.withoutComments.primaryNames = table.primaryNames := by
  simp [primaryNames, List.map_filterMap, Function.comp_def]

@[simp]
theorem uniqueNames_withoutComments :
    table.withoutComments.uniqueNames = table.uniqueNames := by
  simp [uniqueNames, List.filter_map, Function.comp_def]

@[simp]
theorem isSilenced_withoutComments
    (index : TableIndex) :
    table.withoutComments.isSilenced index = table.isSilenced index := by
  simp [isSilenced, Option.map_bind, Function.comp_def]

end Table

namespace Utility

/-- What is said about a table as a whole does not depend on comments. -/
theorem lines_withoutComments
    (utility : Utility)
    (table : Table) :
    utility.lines table.withoutComments = utility.lines table := by
  cases utility with
  | compositePrimary => simp [lines, Table.compositePrimaryLines]
  | singlePrimary =>
      unfold lines
      simp only [Table.singlePrimaryLines,
        Table.primaryColumns_withoutComments,
        Table.column?_withoutComments, Table.withoutComments_identity]
      cases table.primaryColumns with
      | nil => rfl
      | cons only more =>
          cases more with
          | nil =>
              dsimp only
              cases table.column? only <;> rfl
          | cons _ _ => rfl
  | indexes =>
      have each :
          table.withoutComments.indexLine? = table.indexLine? := by
        funext index
        simp [Table.indexLine?]
      simp [lines, Table.indexLines, each]

/-- No utility writes a comment. -/
theorem withoutComments_of_mem_lines
    {utility : Utility}
    {table : Table}
    {line : Line}
    (member : line ∈ utility.lines table) :
    line.withoutComments = line := by
  cases utility with
  | compositePrimary =>
      simp only [lines, Table.compositePrimaryLines] at member
      split at member
      · cases member
      · obtain rfl := List.mem_singleton.mp member
        rfl
  | singlePrimary =>
      simp only [lines, Table.singlePrimaryLines] at member
      split at member
      · split at member
        · cases member
        · split at member
          · obtain rfl := List.mem_singleton.mp member
            rfl
          · cases member
      · cases member
  | indexes =>
      rcases List.mem_append.mp member with single | indexed
      · obtain ⟨name, _, rfl⟩ := List.mem_map.mp single
        rfl
      · obtain ⟨index, _, made⟩ := List.mem_filterMap.mp indexed
        unfold Table.indexLine? at made
        split at made
        · cases made
        · obtain ⟨method, isMethod, rfl⟩ := Option.map_eq_some_iff.mp made
          refine Line.withoutComments_call ?_ _
          rintro rfl
          unfold Table.indexMethod? at isMethod
          repeat' split at isMethod
          all_goals simp at isMethod

end Utility

/-! ## Resolutions -/

namespace RuleSet

variable (context : RuleContext)

theorem ruleFor_standard_withoutComments
    (table : Table)
    (position : Nat) :
    standard.ruleFor context table.withoutComments position =
      standard.ruleFor context table position := by
  simp only [ruleFor, matching?, standard, List.find?_map,
    Function.comp_def, Shorthand.rule, Shorthand.test_withoutComments]

/-- The rule that is found for a column renders it without its comment, if the
comment is taken away. -/
theorem render_ruleFor_standard_withoutComments
    (table : Table)
    (position : Nat) :
    (standard.ruleFor context table position).render context
        table.withoutComments position =
      ((standard.ruleFor context table position).render context table
        position).withoutComments := by
  by_cases claimed :
      ∃ shorthand : Shorthand, shorthand.test table position = true
  · obtain ⟨shorthand, recognised⟩ := claimed
    rw [ruleFor_standard_of_test recognised]
    exact shorthand.render_withoutComments table position
  · have unclaimed :
        ∀ shorthand : Shorthand,
          shorthand.test table position = false := by
      intro shorthand
      exact Bool.not_eq_true _ ▸ not_exists.mp claimed shorthand
    rw [ruleFor_standard_of_unclaimed unclaimed]
    exact table.renderStructural_withoutComments position

/-- The column pass commutes with taking comments away. -/
theorem resolveColumns_standard_withoutComments
    (positions : List Nat)
    (table : Table) :
    standard.resolveColumns context positions table.withoutComments =
      (standard.resolveColumns context positions table).withoutComments := by
  induction positions generalizing table with
  | nil => rfl
  | cons position rest inductionHypothesis =>
      simp only [resolveColumns, Table.isIgnored_withoutComments]
      split
      · exact inductionHypothesis table
      · rw [ruleFor_standard_withoutComments,
          render_ruleFor_standard_withoutComments]
        simp only [Rendering.withoutComments, inductionHypothesis]
        rfl

/-- The utilities commute with taking comments away. -/
theorem resolveUtilities_withoutComments
    (utilities : List Utility)
    (table : Table) :
    resolveUtilities context (utilities.map Utility.rule)
        table.withoutComments =
      (resolveUtilities context (utilities.map Utility.rule)
        table).withoutComments := by
  induction utilities generalizing table with
  | nil => rfl
  | cons utility rest inductionHypothesis =>
      have sameLines :
          ∀ noted : Table,
            utility.lines noted.withoutComments =
              (utility.lines noted).map Line.withoutComments := by
        intro noted
        rw [utility.lines_withoutComments]
        exact (List.map_id _).symm.trans
          (List.map_congr_left fun line member =>
            (Utility.withoutComments_of_mem_lines member).symm)
      simp only [List.map_cons, resolveUtilities,
        Table.withoutComments_consumed]
      split
      · exact inductionHypothesis table
      · simp only [Table.consume_withoutComments, inductionHypothesis,
          Utility.rule, sameLines]
        rfl

/-- Resolving a table without comments is taking the comments of its
resolution away. -/
theorem resolve_standard_withoutComments
    (table : Table) :
    standard.resolve context table.withoutComments =
      (standard.resolve context table).withoutComments := by
  unfold resolve
  rw [Table.positions_withoutComments,
    resolveColumns_standard_withoutComments]
  have utilities := resolveUtilities_withoutComments context
    Utility.inOrder
    (standard.resolveColumns context table.positions table).table
  simp only [Resolution.withoutComments] at utilities ⊢
  rw [show standard.utilityRules = Utility.inOrder.map Utility.rule from rfl,
    utilities]
  simp

end RuleSet

end Tablewright
