import Tablewright.Proofs.Rule.Meaning
import Tablewright.Proofs.Rule.Pairs

namespace Tablewright

/-!
# Every column is created once

The columns that a pass has still to create are those that it has neither
visited nor suppressed.  A visit creates the visited column, along with its
partner if it has one, and takes both off that list.  So the lines of the
whole pass create each column once, whatever the order of the columns.
-/

open Code

namespace Table

/-- The name of the column at a position, provided that the column is active
and no marker. -/
def pending? (table : Table) (position : Nat) : Option String :=
  ((table.column? position).filter
    (fun column => !column.isMarker && !column.ignored)).map Column.name

/-- The columns at some positions that are still to be created. -/
def pending (table : Table) (positions : List Nat) : List String :=
  positions.filterMap table.pending?

section Pending

variable {table : Table} {position : Nat} {column : Column}

/-- An active column is to be created. -/
theorem pending?_of_column
    (held : table.column? position = some column)
    (isColumn : column.isMarker = false)
    (active : column.ignored = false) :
    table.pending? position = some column.name := by
  simp [pending?, held, isColumn, active]

theorem pending?_of_marker
    (held : table.column? position = some column)
    (marks : column.isMarker = true) :
    table.pending? position = none := by
  simp [pending?, held, marks]

/-- An ignored column is not created. -/
theorem pending?_of_isIgnored
    (ignored : table.isIgnored position = true) :
    table.pending? position = none := by
  cases held : table.column? position with
  | none => simp [pending?, held]
  | some column =>
      rw [isIgnored_of_column? held] at ignored
      simp [pending?, held, ignored]

/-- What is to be created at a position is an active column there. -/
theorem pending?_eq_some_iff
    {name : String} :
    table.pending? position = some name ↔
      ∃ column,
        table.column? position = some column ∧
          column.isMarker = false ∧
          column.ignored = false ∧
          column.name = name := by
  simp [pending?, Option.filter_eq_some_iff, and_assoc]

/-- Suppression takes one position off. -/
theorem pending?_suppress
    (table : Table)
    (position other : Nat) :
    (table.suppress position).pending? other =
      if position = other then none else table.pending? other := by
  simp only [pending?, suppress, column?_update]
  split
  · cases table.column? other <;> simp
  · rfl

/-- A foreign key does not matter. -/
@[simp]
theorem pending_attach
    (table : Table)
    (position : Nat)
    (key : ForeignKey)
    (positions : List Nat) :
    (table.attach position key).pending positions =
      table.pending positions := by
  refine List.filterMap_congr ?_
  intro other _
  simp only [pending?, attach, column?_update]
  split
  · cases table.column? other with
    | none => rfl
    | some column =>
        simp only [Option.map_some, Option.filter_some, Column.isMarker]
        split <;> rfl
  · rfl

@[simp]
theorem pending_markIdentity
    (table : Table)
    (position : Nat)
    (positions : List Nat) :
    (table.markIdentity position).pending positions =
      table.pending positions :=
  rfl

/-- Suppressing what is not to be created changes nothing. -/
theorem pending_suppress_of_eq_none
    (absent : table.pending? position = none)
    (positions : List Nat) :
    (table.suppress position).pending positions =
      table.pending positions := by
  refine List.filterMap_congr ?_
  intro other _
  rw [pending?_suppress]
  split
  · rename_i same
    rw [← same, absent]
  · rfl

/-- Suppressing what is not left to be visited changes nothing. -/
theorem pending_suppress_of_not_mem
    {positions : List Nat}
    (visited : position ∉ positions) :
    (table.suppress position).pending positions =
      table.pending positions := by
  refine List.filterMap_congr ?_
  intro other left
  rw [pending?_suppress, if_neg]
  rintro rfl
  exact visited left

/-- Suppression takes one column off those to be created. -/
theorem pending_perm_suppress
    {name : String}
    (present : table.pending? position = some name)
    {positions : List Nat}
    (nodup : positions.Nodup)
    (left : position ∈ positions) :
    (table.pending positions).Perm
      (name :: (table.suppress position).pending positions) := by
  have inFront := List.perm_cons_erase left
  have rest :
      (table.suppress position).pending (positions.erase position) =
        table.pending (positions.erase position) :=
    pending_suppress_of_not_mem nodup.not_mem_erase
  have suppressed : (table.suppress position).pending? position = none := by
    simp [pending?_suppress]
  have before := inFront.filterMap table.pending?
  have after := inFront.filterMap (table.suppress position).pending?
  rw [List.filterMap_cons_some present] at before
  rw [List.filterMap_cons_none suppressed] at after
  rw [pending, pending] at rest
  rw [rest] at after
  exact before.trans (after.symm.cons name)

/-- No column is to be created twice. -/
theorem nodup_pending
    (distinct : table.DistinctNames)
    {positions : List Nat}
    (nodup : positions.Nodup) :
    (table.pending positions).Nodup := by
  refine List.Nodup.filterMap ?_ nodup
  intro first second name firstPending secondPending
  obtain ⟨left, leftHeld, leftColumn, _, leftNamed⟩ :=
    pending?_eq_some_iff.mp firstPending
  obtain ⟨right, rightHeld, rightColumn, _, rightNamed⟩ :=
    pending?_eq_some_iff.mp secondPending
  exact distinct leftHeld rightHeld leftColumn rightColumn
    (leftNamed.trans rightNamed.symm)

/-- Before the first visit, every active column is to be created. -/
theorem mem_pending_positions
    {name : String} :
    name ∈ table.pending table.positions ↔
      ∃ column ∈ table.columns,
        column.isMarker = false ∧
          column.ignored = false ∧
          column.name = name := by
  simp only [pending, List.mem_filterMap, pending?_eq_some_iff]
  constructor
  · intro given
    rcases given with ⟨position, _, column, held, pending⟩
    exact ⟨column, List.mem_of_getElem? held, pending⟩
  · intro given
    rcases given with ⟨column, member, pending⟩
    obtain ⟨position, held⟩ := List.mem_iff_getElem?.mp member
    refine ⟨position, ?_, column, held, pending⟩
    exact List.mem_range.mpr (List.getElem?_eq_some_iff.mp held).1

end Pending

/-- A visited column is the first of those to be created. -/
theorem pending_cons_of_column
    {table : Table}
    {position : Nat}
    {column : Column}
    (held : table.column? position = some column)
    (isColumn : column.isMarker = false)
    (active : column.ignored = false)
    (positions : List Nat) :
    table.pending (position :: positions) =
      column.name :: table.pending positions :=
  List.filterMap_cons_some (pending?_of_column held isColumn active)

/-- The line of a pair of timestamps creates the visited one and the one
that is left. -/
theorem Stamped.created_perm
    {table : Table}
    {zoned : Bool}
    {position sibling : Nat}
    {column found : Column}
    (stamped : table.Stamped zoned position sibling column found)
    {positions : List Nat}
    (nodup : positions.Nodup)
    (left : sibling ∈ positions) :
    (["created_at", "updated_at"] ++
        (table.suppress sibling).pending positions).Perm
      (table.pending (position :: positions)) := by
  have foundPending :=
    pending?_of_column stamped.foundHeld
      (isMarker_eq_false_of_timestamp stamped.foundKind)
      stamped.foundActive
  have taken := pending_perm_suppress foundPending nodup left
  have visited :
      (column.name :: found.name ::
          (table.suppress sibling).pending positions).Perm
        (table.pending (position :: positions)) := by
    rw [pending_cons_of_column stamped.held
      (isMarker_eq_false_of_timestamp stamped.kind) stamped.active]
    exact (taken.cons column.name).symm
  rcases otherTimestamp?_eq_some_iff.mp stamped.named with
      ⟨created, updated⟩ | ⟨updated, created⟩
  · rw [created, updated] at visited
    exact visited
  · rw [created, updated] at visited
    exact (List.Perm.swap _ _ _).trans visited

/-- The line of a discriminator pair creates the visited column and the one
that is left. -/
theorem Morphed.created_perm
    {table : Table}
    {family : MorphFamily}
    {pair : MorphPair}
    {idColumn typeColumn : Column}
    (morphed : table.Morphed family pair idColumn typeColumn)
    {position other : Nat}
    (places : pair.At position other)
    {positions : List Nat}
    (nodup : (position :: positions).Nodup)
    (left : other ∈ positions) :
    ([pair.base ++ "_id", pair.base ++ "_type"] ++
        ((table.suppress pair.idColumn).suppress
          pair.typeColumn).pending positions).Perm
      (table.pending (position :: positions)) := by
  obtain ⟨visited, nodupRest⟩ := List.nodup_cons.mp nodup
  rcases places with ⟨rfl, rfl⟩ | ⟨rfl, rfl⟩
  · have typePending :
        (table.suppress pair.idColumn).pending? pair.typeColumn =
          some typeColumn.name := by
      rw [pending?_suppress, if_neg morphed.ne]
      exact pending?_of_column morphed.typeHeld morphed.typeIsColumn
        morphed.typeActive
    have taken := pending_perm_suppress typePending nodupRest left
    rw [pending_suppress_of_not_mem visited, morphed.typeNamed] at taken
    rw [pending_cons_of_column morphed.idHeld morphed.idIsColumn
      morphed.idActive, morphed.idNamed]
    exact (taken.cons _).symm
  · have idPending :=
      pending?_of_column morphed.idHeld morphed.idIsColumn
        morphed.idActive
    have taken := pending_perm_suppress idPending nodupRest left
    rw [morphed.idNamed] at taken
    rw [pending_cons_of_column morphed.typeHeld morphed.typeIsColumn
      morphed.typeActive, morphed.typeNamed,
      pending_suppress_of_not_mem visited]
    exact (List.Perm.swap _ _ _).trans (taken.cons _).symm

namespace Rendered

variable {table : Table} {position : Nat} {column : Column}
variable {chosen : Option Shorthand} {rendering : Rendering}

/-- Rendering a column creates it, along with its partner if it has one. -/
theorem created_perm
    (rendered : Rendered table position column chosen rendering)
    (held : table.column? position = some column)
    (active : column.ignored = false)
    {positions : List Nat}
    (nodup : (position :: positions).Nodup)
    (closed :
      ∀ shorthand, ∀ other,
        table.Partners shorthand position other →
        other ∈ position :: positions) :
    (rendering.lines.flatMap Line.created ++
        rendering.table.pending positions).Perm
      (table.pending (position :: positions)) := by
  have left :
      ∀ shorthand, ∀ other,
        table.Partners shorthand position other →
        other ∈ positions := fun shorthand other partners =>
    (List.mem_cons.mp (closed shorthand other partners)).resolve_left
      partners.ne.symm
  have single :
      column.isMarker = false →
      ([column.name] ++ table.pending positions).Perm
        (table.pending (position :: positions)) := fun isColumn =>
    List.Perm.of_eq
      (pending_cons_of_column held isColumn active positions).symm
  have nothing :
      column.isMarker = true →
      table.pending (position :: positions) =
        table.pending positions := fun marks =>
    List.filterMap_cons_none (pending?_of_marker held marks)
  cases rendered with
  | identity recognised =>
      obtain ⟨_, sameHeld, _, _, integer, _⟩ :=
        isIdentity_iff.mp recognised
      obtain rfl := Option.some.inj (held.symm.trans sameHeld)
      simpa using single (isMarker_eq_false_of_isInteger integer)
  | timestamps zoned sibling isSibling =>
      obtain ⟨found, stamped⟩ :=
        Stamped.of_timestampSibling? held active isSibling
      simpa using
        stamped.created_perm (List.nodup_cons.mp nodup).2
          (left (.timestamps zoned) sibling ⟨_, _, stamped⟩)
  | softDeletes zoned recognised =>
      obtain ⟨_, sameHeld, named, kind, _⟩ :=
        isSoftDelete_iff.mp recognised
      obtain rfl := Option.some.inj (held.symm.trans sameHeld)
      simpa [named] using single (isMarker_eq_false_of_timestamp kind)
  | rememberToken recognised =>
      obtain ⟨_, sameHeld, named, kind, _⟩ :=
        isRememberToken_iff.mp recognised
      obtain rfl := Option.some.inj (held.symm.trans sameHeld)
      have creation := single (by rw [Column.isMarker, kind]; rfl)
      rw [named] at creation
      exact creation
  | deferred owned marks found =>
      rw [nothing marks]
      exact List.Perm.refl _
  | collapsed marker holder key isColumn isOwner =>
      -- What is suppressed here is a marker, which is never created.
      obtain ⟨_, _, holderHeld, marks, _⟩ :=
        exists_of_ownerOf? held isOwner
      have notPending := pending?_of_marker holderHeld marks
      simpa [pending_suppress_of_eq_none notPending]
        using single isColumn
  | morphs family pair idColumn found idHeld =>
      obtain ⟨_, _, other, morphed, places⟩ :=
        Morphed.of_morphPair? held active found
      simpa using
        morphed.created_perm places nodup
          (left (.morphs family) other ⟨pair, _, _, morphed, places⟩)
  | constraint marks =>
      rw [nothing marks]
      cases column.owningKey? with
      | none => exact List.Perm.refl _
      | some key => simp
  | plain isColumn =>
      obtain ⟨written, creates⟩ := Column.exists_creation? isColumn
      simpa [creates, Column.created_creation? creates]
        using single isColumn

/-- A line that creates no column is an explicit constraint. -/
theorem exists_constraint
    (rendered : Rendered table position column chosen rendering) :
    ∀ line ∈ rendering.lines,
      line.created = [] →
      ∃ key : ForeignKey, line = .statement key.constraint := by
  intro line member creates
  cases rendered with
  | constraint =>
      obtain ⟨key, _, rfl⟩ :=
        Option.map_eq_some_iff.mp (Option.mem_toList.mp member)
      exact ⟨key, rfl⟩
  | plain =>
      obtain ⟨written, creation, rfl⟩ :=
        Option.map_eq_some_iff.mp (Option.mem_toList.mp member)
      rw [Column.created_creation? creation] at creates
      cases creates
  | deferred => cases member
  | rememberToken =>
      obtain rfl := List.mem_singleton.mp member
      cases creates
  | _ =>
      obtain rfl := List.mem_singleton.mp member
      simp at creates

end Rendered

namespace Pass

variable {positions : List Nat} {table final : Table}
variable {lines : List Line}

/-- A pass creates what is to be created, provided that partners are visited
both or not at all. -/
theorem created_perm
    (pass : Pass positions table final lines)
    (nodup : positions.Nodup)
    (distinct : table.DistinctNames)
    (closed :
      ∀ shorthand, ∀ first ∈ positions, ∀ second,
        table.Partners shorthand first second →
        second ∈ positions) :
    (lines.flatMap Line.created).Perm (table.pending positions) := by
  induction pass with
  | done => exact List.Perm.refl _
  | skip ignored rest inductionHypothesis =>
      obtain ⟨_, nodupRest⟩ := List.nodup_cons.mp nodup
      rw [pending,
        List.filterMap_cons_none (pending?_of_isIgnored ignored)]
      refine inductionHypothesis nodupRest distinct ?_
      intro shorthand first left second partners
      have member :=
        closed shorthand first (List.mem_cons_of_mem _ left) second
          partners
      rcases List.mem_cons.mp member with rfl | member
      · rw [partners.symm.isIgnored_eq_false] at ignored
        cases ignored
      · exact member
  | visit held active rendered rest inductionHypothesis =>
      rw [List.flatMap_append]
      have created :=
        rendered.created_perm held active nodup
          (fun shorthand =>
            closed shorthand _ List.mem_cons_self)
      have later :=
        inductionHypothesis (List.nodup_cons.mp nodup).2
          (distinct.later rendered.later)
          (rendered.partner_mem held distinct closed)
      exact (later.append_left _).trans created

/-- A line of a pass that creates no column is an explicit constraint. -/
theorem exists_constraint
    (pass : Pass positions table final lines) :
    ∀ line ∈ lines,
      line.created = [] →
      ∃ key : ForeignKey, line = .statement key.constraint := by
  induction pass with
  | done => simp
  | skip _ _ inductionHypothesis => exact inductionHypothesis
  | visit _ _ rendered _ inductionHypothesis =>
      intro line member
      rcases List.mem_append.mp member with now | later
      · exact rendered.exists_constraint line now
      · exact inductionHypothesis line later

end Pass

/-- The column pass creates exactly the active columns. -/
theorem created_columnLines_perm
    (context : RuleContext)
    {table : Table}
    (distinct : table.DistinctNames) :
    ((RuleSet.standard.resolve context
        table).columnLines.flatMap Line.created).Perm
      (table.pending table.positions) := by
  rw [RuleSet.columnLines_resolve]
  refine (pass_positions context table).created_perm
    List.nodup_range distinct ?_
  intro shorthand first _ second partners
  obtain ⟨column, held, _⟩ := partners.symm.exists_active
  exact List.mem_range.mpr (List.getElem?_eq_some_iff.mp held).1

end Table

/-- Among lines that create no column twice, a column is created by one line
only. -/
theorem countP_created_eq_one
    {lines : List Line}
    (nodup : (lines.flatMap Line.created).Nodup)
    {name : String}
    (member : name ∈ lines.flatMap Line.created) :
    lines.countP (fun line => line.created.contains name) = 1 := by
  induction lines with
  | nil => cases member
  | cons line rest inductionHypothesis =>
      rw [List.flatMap_cons] at nodup member
      obtain ⟨_, nodupRest, apart⟩ := List.nodup_append.mp nodup
      by_cases here : name ∈ line.created
      · have nowhereElse :
            rest.countP (fun line => line.created.contains name) =
              0 := by
          rw [List.countP_eq_zero]
          intro other otherMember created
          exact apart name here name
            (List.mem_flatMap.mpr
              ⟨other, otherMember, by simpa using created⟩) rfl
        rw [List.countP_cons_of_pos (by simpa using here), nowhereElse]
      · rw [List.countP_cons_of_neg (by simpa using here)]
        exact inductionHypothesis nodupRest
          ((List.mem_append.mp member).resolve_left here)

namespace RuleSet

/--
Resolving a table whose columns have distinct names creates each active
column by exactly one line of the column pass, and no column twice.  No line
creates a column that the table does not have, nor one that was passed over
from the start.  A line of the column pass that creates nothing is an
explicit constraint.
-/
theorem resolve_creates_each_column_once
    (context : RuleContext)
    {table : Table}
    (distinct :
      ((table.columns.filter
        (fun column => !column.isMarker)).map Column.name).Nodup) :
    (∀ column ∈ table.columns,
      column.isMarker = false →
      column.ignored = false →
      (standard.resolve context table).columnLines.countP
        (fun line => line.created.contains column.name) = 1) ∧
      ((standard.resolve context
        table).columnLines.flatMap Line.created).Nodup ∧
      (∀ line ∈ (standard.resolve context table).lines,
        ∀ name ∈ line.created,
          ∃ column ∈ table.columns,
            column.isMarker = false ∧
              column.ignored = false ∧
              column.name = name) ∧
      (∀ column ∈ table.columns,
        column.isMarker = false →
        column.ignored = true →
        ∀ line ∈ (standard.resolve context table).lines,
          column.name ∉ line.created) ∧
      ∀ line ∈ (standard.resolve context table).columnLines,
        line.created = [] →
        ∃ key : ForeignKey, line = .statement key.constraint := by
  have apart : table.DistinctNames :=
    Table.distinctNames_of_nodup distinct
  have permuted := Table.created_columnLines_perm context apart
  have nodup :=
    permuted.nodup_iff.mpr (Table.nodup_pending apart List.nodup_range)
  have inTable :
      ∀ line ∈ (standard.resolve context table).lines,
        ∀ name ∈ line.created,
          ∃ column ∈ table.columns,
            column.isMarker = false ∧
              column.ignored = false ∧
              column.name = name := by
    intro line member name creates
    rcases mem_columnLines_or member with
        visit | ⟨method, isKey, arguments, rfl⟩
    · exact Table.mem_pending_positions.mp
        (permuted.mem_iff.mp
          (List.mem_flatMap.mpr ⟨line, visit, creates⟩))
    · rw [created_of_mem_keyMethods isKey] at creates
      cases creates
  refine ⟨?_, nodup, inTable, ?_, ?_⟩
  · intro column member isColumn active
    refine countP_created_eq_one nodup (permuted.mem_iff.mpr ?_)
    exact Table.mem_pending_positions.mpr
      ⟨column, member, isColumn, active, rfl⟩
  · intro column member isColumn ignored line inLines creates
    obtain ⟨other, otherMember, otherIsColumn, active, sameName⟩ :=
      inTable line inLines column.name creates
    have same : other = column :=
      List.inj_on_of_nodup_map distinct
        (List.mem_filter.mpr ⟨otherMember, by simp [otherIsColumn]⟩)
        (List.mem_filter.mpr ⟨member, by simp [isColumn]⟩) sameName
    rw [same, ignored] at active
    cases active
  · rw [columnLines_resolve]
    exact (Table.pass_positions context table).exists_constraint

/-- A column of posts that is kept out of migrations. -/
def hiddenNote : Column :=
  { Column.plain "note" .text with silent := true, ignored := true }

/-- Posts with both kinds of pairs, either column first, a foreign key whose
marker comes first, and a hidden column. -/
def postsTable : Table :=
  { columns :=
      [ { Column.plain "id" .bigInteger with
          primary := true, autoIncrement := true },
        Column.marker "author" (some
          { field := "author"
            targetTable := "users"
            localColumns := ["author_id"]
            references := ["id"] }),
        Column.plain "author_id" .bigInteger,
        Column.plain "updated_at" .timestamp,
        Column.plain "subject_type" .string,
        hiddenNote,
        Column.plain "subject_id" .uuid,
        Column.plain "created_at" .timestamp ] }

/-- The columns of the posts have distinct names.  The one of the author is
created by one line and the hidden one by none. -/
theorem resolve_creates_each_column_once_posts :
    ((postsTable.columns.filter
        (fun column => !column.isMarker)).map Column.name).Nodup ∧
      (standard.resolve ⟨"Post", "posts"⟩ postsTable).columnLines.countP
          (fun line => line.created.contains "author_id") = 1 ∧
      ∀ line ∈ (standard.resolve ⟨"Post", "posts"⟩ postsTable).lines,
        "note" ∉ line.created := by
  have distinct :
      ((postsTable.columns.filter
        (fun column => !column.isMarker)).map Column.name).Nodup := by
    decide
  obtain ⟨once, _, _, never, _⟩ :=
    resolve_creates_each_column_once ⟨"Post", "posts"⟩ distinct
  exact ⟨distinct,
    once (Column.plain "author_id" .bigInteger) (by decide) rfl rfl,
    never hiddenNote (by decide) rfl rfl⟩

end RuleSet

end Tablewright
