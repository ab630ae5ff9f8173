import Mathlib.Data.List.Nodup
import Tablewright.Column.Table
import Tablewright.Rule.Utility
import Tablewright.Proofs.Failure
import Tablewright.Proofs.Text.Order

namespace Tablewright

/-!
# Tables and their later states

Compiling a table suppresses columns and attaches foreign keys, and changes
nothing else.  `Later` says so of two states of a table.  The lookups by name
and the collected dependencies are described through the columns at the
positions of the table.
-/

namespace Column

/--
A later state of a column.  Only suppression and the foreign key may have
changed; a suppressed column stays suppressed and a key is never lost.
-/
structure Later (before after : Column) : Prop where
  unchanged :
    after =
      { before with
        ignored := after.ignored, foreignKey := after.foreignKey }
  staysIgnored :
    before.ignored = true → after.ignored = true
  keepsKey :
    after.foreignKey = none → before.foreignKey = none

namespace Later

/-- Every column is a later state of itself. -/
theorem refl (column : Column) : Later column column :=
  ⟨rfl, id, id⟩

/-- Later states compose. -/
theorem trans
    {first second third : Column}
    (earlier : Later first second)
    (later : Later second third) :
    Later first third := by
  refine ⟨?_, later.staysIgnored ∘ earlier.staysIgnored,
    earlier.keepsKey ∘ later.keepsKey⟩
  have shape := later.unchanged
  rw [earlier.unchanged] at shape
  exact shape

section Fields

variable {before after : Column} (later : Later before after)

include later

theorem name_eq : after.name = before.name := by
  rw [later.unchanged]

theorem kind_eq : after.kind = before.kind := by
  rw [later.unchanged]

theorem isMarker_eq : after.isMarker = before.isMarker := by
  rw [isMarker, later.kind_eq, isMarker]

theorem arguments_eq : after.arguments = before.arguments := by
  rw [later.unchanged]

theorem nullable_eq : after.nullable = before.nullable := by
  rw [later.unchanged]

theorem primary_eq : after.primary = before.primary := by
  rw [later.unchanged]

theorem unique_eq : after.unique = before.unique := by
  rw [later.unchanged]

theorem silent_eq : after.silent = before.silent := by
  rw [later.unchanged]

theorem comment_eq : after.comment = before.comment := by
  rw [later.unchanged]

theorem autoIncrement_eq :
    after.autoIncrement = before.autoIncrement := by
  rw [later.unchanged]

/-- An active column was active before. -/
theorem ignored_eq_false
    (active : after.ignored = false) :
    before.ignored = false := by
  cases wasIgnored : before.ignored with
  | false => rfl
  | true =>
      rw [later.staysIgnored wasIgnored] at active
      exact active

end Fields

end Later

/-- An owning key is an enforced foreign key with local columns. -/
theorem owningKey?_eq_some_iff
    {column : Column}
    {key : ForeignKey} :
    column.owningKey? = some key ↔
      column.foreignKey = some key ∧
        key.isLocal = false ∧ key.localColumns ≠ [] := by
  simp [owningKey?, Option.filter_eq_some_iff]

end Column

namespace Table

variable {table : Table}

/-! ## Columns after a change -/

/-- An update changes the column at its position only. -/
theorem column?_update
    (table : Table)
    (position : Nat)
    (change : Column → Column)
    (other : Nat) :
    (table.update position change).column? other =
      if position = other then
        (table.column? other).map change
      else
        table.column? other := by
  simp only [update, column?, List.getElem?_modify]
  split
  · rfl
  · simp

/-- The column at the updated position is the changed one. -/
theorem column?_update_self
    {position : Nat}
    {column : Column}
    (held : table.column? position = some column)
    (change : Column → Column) :
    (table.update position change).column? position =
      some (change column) := by
  simp [column?_update, held]

/-- An update leaves all other columns alone. -/
theorem column?_update_of_ne
    {position other : Nat}
    (different : position ≠ other)
    (change : Column → Column) :
    (table.update position change).column? other =
      table.column? other := by
  simp [column?_update, different]

/-- The column at a suppressed position is ignored. -/
theorem column?_suppress_self
    {position : Nat}
    {column : Column}
    (held : table.column? position = some column) :
    (table.suppress position).column? position =
      some { column with ignored := true } :=
  column?_update_self held _

/-- Suppression leaves all other columns alone. -/
theorem column?_suppress_of_ne
    {position other : Nat}
    (different : position ≠ other) :
    (table.suppress position).column? other = table.column? other :=
  column?_update_of_ne different _

/-- A position is ignored when its column is. -/
theorem isIgnored_of_column?
    {position : Nat}
    {column : Column}
    (held : table.column? position = some column) :
    table.isIgnored position = column.ignored := by
  simp [isIgnored, held]

/-! ## Later states -/

/--
A later state of a table.  Every position holds a later state of its column,
and the indexes are the same.
-/
structure Later (before after : Table) : Prop where
  indexes_eq :
    after.indexes = before.indexes
  columns :
    ∀ position,
      Option.Rel Column.Later
        (before.column? position) (after.column? position)

namespace Later

/-- Every table is a later state of itself. -/
theorem refl (table : Table) : Later table table := by
  refine ⟨rfl, ?_⟩
  intro position
  cases table.column? position with
  | none => exact .none
  | some column => exact .some (Column.Later.refl column)

/-- Later states compose. -/
theorem trans
    {first second third : Table}
    (earlier : Later first second)
    (later : Later second third) :
    Later first third := by
  refine ⟨later.indexes_eq.trans earlier.indexes_eq, ?_⟩
  intro position
  have firstStep := earlier.columns position
  have secondStep := later.columns position
  generalize first.column? position = start at firstStep ⊢
  generalize second.column? position = middle at firstStep secondStep
  generalize third.column? position = finish at secondStep ⊢
  cases firstStep with
  | none =>
      cases secondStep
      exact .none
  | some changed =>
      cases secondStep with
      | some changedAgain =>
          exact .some (changed.trans changedAgain)

/-- An update that only suppresses or sets the foreign key leads to a later
state. -/
theorem update
    (table : Table)
    (position : Nat)
    {change : Column → Column}
    (changes : ∀ column, Column.Later column (change column)) :
    Later table (table.update position change) := by
  refine ⟨rfl, ?_⟩
  intro other
  rw [column?_update]
  cases table.column? other with
  | none =>
      split <;> exact .none
  | some column =>
      split
      · exact .some (changes column)
      · exact .some (Column.Later.refl column)

/-- Suppression leads to a later state. -/
theorem suppress
    (table : Table)
    (position : Nat) :
    Later table (table.suppress position) :=
  update table position (fun _ => ⟨rfl, fun _ => rfl, id⟩)

/-- Noting the identity column leads to a later state. -/
theorem markIdentity
    (table : Table)
    (position : Nat) :
    Later table (table.markIdentity position) :=
  ⟨rfl, (refl table).columns⟩

variable {before after : Table} (later : Later before after)

include later

/-- What a position holds later is a later state of what it held. -/
theorem column?_before
    {position : Nat}
    {column : Column}
    (held : after.column? position = some column) :
    ∃ earlier,
      before.column? position = some earlier ∧
        Column.Later earlier column := by
  have related := later.columns position
  rw [held] at related
  revert related
  cases before.column? position with
  | none => rintro ⟨⟩
  | some earlier =>
      intro given
      rcases given with ⟨changed⟩
      exact ⟨earlier, rfl, changed⟩

/-- A position goes on holding later states of its column. -/
theorem column?_after
    {position : Nat}
    {column : Column}
    (held : before.column? position = some column) :
    ∃ changed,
      after.column? position = some changed ∧
        Column.Later column changed := by
  have related := later.columns position
  rw [held] at related
  revert related
  cases after.column? position with
  | none => rintro ⟨⟩
  | some changed =>
      intro given
      rcases given with ⟨related⟩
      exact ⟨changed, rfl, related⟩

/-- Later states have the same number of columns. -/
theorem length_columns :
    before.columns.length = after.columns.length := by
  have sameBounds :
      ∀ bound,
        before.columns.length ≤ bound ↔ after.columns.length ≤ bound := by
    intro bound
    have related := later.columns bound
    rw [← List.getElem?_eq_none_iff, ← List.getElem?_eq_none_iff,
      ← column?, ← column?]
    generalize before.column? bound = start at related ⊢
    generalize after.column? bound = finish at related ⊢
    cases related with
    | none => simp
    | some _ => simp
  exact Nat.le_antisymm
    ((sameBounds _).mpr le_rfl) ((sameBounds _).mp le_rfl)

/-- Later states have the same positions. -/
theorem positions_eq :
    after.positions = before.positions := by
  rw [positions, ← later.length_columns, positions]

/-- The columns of a later state are later states of the columns, one by
one. -/
theorem forall₂_columns :
    List.Forall₂ Column.Later before.columns after.columns := by
  apply List.forall₂_iff_get.mpr
  refine ⟨later.length_columns, ?_⟩
  intro position inBefore inAfter
  have related := later.columns position
  rw [column?, column?, List.getElem?_eq_getElem inBefore,
    List.getElem?_eq_getElem inAfter] at related
  cases related with
  | some changed => exact changed

/-- What no change of a column touches is read off later states as before. -/
theorem map_filter_columns
    {β : Type}
    {pick : Column → Bool}
    {read : Column → β}
    (kept :
      ∀ {column changed},
        Column.Later column changed →
          pick changed = pick column ∧ read changed = read column) :
    (after.columns.filter pick).map read =
      (before.columns.filter pick).map read := by
  apply Outcome.map_filter_eq_of_forall₂ later.forall₂_columns
  intro column _ changed changes
  exact ⟨(kept changes).1, fun _ => (kept changes).2⟩

/-- Later states give the same columns a unique index of their own. -/
theorem uniqueNames_eq :
    after.uniqueNames = before.uniqueNames := by
  apply later.map_filter_columns
  intro column changed changes
  simp only [changes.unique_eq, changes.primary_eq, changes.silent_eq,
    changes.isMarker_eq, changes.name_eq, and_self]

end Later

/-! ## Lookup by name -/

/-- Columns, markers aside, are told apart by their names. -/
def DistinctNames (table : Table) : Prop :=
  ∀ {first second : Nat} {left right : Column},
    table.column? first = some left →
    table.column? second = some right →
    left.isMarker = false →
    right.isMarker = false →
    left.name = right.name →
    first = second

/-- Names without repetition tell the columns apart. -/
theorem distinctNames_of_nodup
    (distinct :
      ((table.columns.filter
        (fun column => !column.isMarker)).map Column.name).Nodup) :
    table.DistinctNames := by
  have apart :
      table.columns.Pairwise
        (fun left right =>
          left.isMarker = false →
          right.isMarker = false →
          left.name ≠ right.name) := by
    simpa [List.Nodup, List.pairwise_map, List.pairwise_filter]
      using distinct
  have ordered :
      ∀ {earlier later : Nat} {left right : Column},
        earlier < later →
        table.column? earlier = some left →
        table.column? later = some right →
        left.isMarker = false →
        right.isMarker = false →
        left.name ≠ right.name := by
    intro earlier later left right before leftHeld rightHeld
    obtain ⟨earlierBound, rfl⟩ := List.getElem?_eq_some_iff.mp leftHeld
    obtain ⟨laterBound, rfl⟩ := List.getElem?_eq_some_iff.mp rightHeld
    exact List.pairwise_iff_getElem.mp apart
      earlier later earlierBound laterBound before
  intro first second left right leftHeld rightHeld leftColumn
    rightColumn sameName
  rcases Nat.lt_trichotomy first second with before | same | after
  · exact (ordered before leftHeld rightHeld leftColumn rightColumn
      sameName).elim
  · exact same
  · exact (ordered after rightHeld leftHeld rightColumn leftColumn
      sameName.symm).elim

/-- Later states tell columns apart as well. -/
theorem DistinctNames.later
    {before after : Table}
    (distinct : before.DistinctNames)
    (later : Later before after) :
    after.DistinctNames := by
  intro first second left right leftHeld rightHeld leftColumn
    rightColumn sameName
  obtain ⟨leftBefore, leftBeforeHeld, leftLater⟩ :=
    later.column?_before leftHeld
  obtain ⟨rightBefore, rightBeforeHeld, rightLater⟩ :=
    later.column?_before rightHeld
  refine distinct leftBeforeHeld rightBeforeHeld ?_ ?_ ?_
  · rw [← leftLater.isMarker_eq, leftColumn]
  · rw [← rightLater.isMarker_eq, rightColumn]
  · rw [← leftLater.name_eq, ← rightLater.name_eq, sameName]

/-- The position found for a name holds a column of that name. -/
theorem column?_of_find?
    {name : String}
    {position : Nat}
    (found : table.find? name = some position) :
    ∃ column,
      table.column? position = some column ∧
        column.isMarker = false ∧ column.name = name := by
  obtain ⟨bound, holds, _⟩ :=
    List.findIdx?_eq_some_iff_getElem.mp found
  refine ⟨table.columns[position],
    List.getElem?_eq_getElem bound, ?_⟩
  simpa using holds

/-- The active position found for a name holds an active column of that
name. -/
theorem column?_of_findActive?
    {name : String}
    {position : Nat}
    (found : table.findActive? name = some position) :
    ∃ column,
      table.column? position = some column ∧
        column.isMarker = false ∧
        column.ignored = false ∧
        column.name = name := by
  obtain ⟨foundAny, active⟩ := Option.filter_eq_some_iff.mp found
  obtain ⟨column, held, isColumn, named⟩ := column?_of_find? foundAny
  rw [isIgnored_of_column? held] at active
  exact ⟨column, held, isColumn, by simpa using active, named⟩

/-- Among distinct names, the column of a name is found. -/
theorem DistinctNames.findActive?_eq_some
    (distinct : table.DistinctNames)
    {position : Nat}
    {column : Column}
    (held : table.column? position = some column)
    (isColumn : column.isMarker = false)
    (active : column.ignored = false) :
    table.findActive? column.name = some position := by
  obtain ⟨bound, inList⟩ := List.getElem?_eq_some_iff.mp held
  have found : table.find? column.name = some position := by
    refine List.findIdx?_eq_some_iff_getElem.mpr ⟨bound, ?_, ?_⟩
    · simp [inList, isColumn]
    · intro earlier before
      have earlierBound : earlier < table.columns.length :=
        before.trans bound
      intro matching
      simp only [Bool.and_eq_true, Bool.not_eq_true', beq_iff_eq]
        at matching
      have same : earlier = position :=
        distinct (List.getElem?_eq_getElem earlierBound) held
          matching.1 isColumn matching.2
      omega
  simp [findActive?, found, isIgnored_of_column? held, active]

/-! ## Markers and dependencies -/

/-- A marker claims a name if it is active and its key has that local
column. -/
theorem mem_markersClaiming
    {name : String}
    {marker : Nat} :
    marker ∈ table.markersClaiming name ↔
      ∃ holder key,
        table.column? marker = some holder ∧
          holder.isMarker = true ∧
          holder.ignored = false ∧
          holder.owningKey? = some key ∧
          name ∈ key.localColumns := by
  simp only [markersClaiming, positionsWhere, positions,
    List.mem_filter, List.mem_range]
  constructor
  · intro given
    rcases given with ⟨_, claimed⟩
    cases held : table.column? marker with
    | none => simp [held] at claimed
    | some holder =>
        cases owning : holder.owningKey? with
        | none => simp [held, claims, owning] at claimed
        | some key =>
            simp [held, claims, owning] at claimed
            exact ⟨holder, key, rfl, claimed.1.1, claimed.1.2, owning,
              claimed.2⟩
  · intro given
    rcases given with ⟨holder, key, held, marks, active, owning, local_⟩
    refine ⟨(List.getElem?_eq_some_iff.mp held).1, ?_⟩
    simp [held, claims, marks, active, owning, local_]

/-- A table depends on the targets of its active owning keys. -/
theorem mem_dependencies
    {target : String} :
    target ∈ table.dependencies ↔
      ∃ position column key,
        table.column? position = some column ∧
          column.ignored = false ∧
          column.owningKey? = some key ∧
          key.targetTable = target := by
  simp only [dependencies, Text.mem_firstOccurrences, List.mem_map,
    List.mem_filterMap, active, List.mem_filter]
  constructor
  · intro given
    rcases given with ⟨key, ⟨column, ⟨member, isActive⟩, owning⟩, rfl⟩
    obtain ⟨position, held⟩ := List.mem_iff_getElem?.mp member
    exact ⟨position, column, key, held, by simpa using isActive,
      owning, rfl⟩
  · intro given
    rcases given with ⟨position, column, key, held, isActive, owning, rfl⟩
    exact ⟨key,
      ⟨column, ⟨List.mem_of_getElem? held, by simp [isActive]⟩,
        owning⟩, rfl⟩

/-! ## Columns by position -/

/-- Reading off all positions is reading off all columns. -/
theorem filterMap_positions
    {β : Type}
    (table : Table)
    (read : Column → Option β) :
    table.positions.filterMap
        (fun position => (table.column? position).bind read) =
      table.columns.filterMap read := by
  unfold positions column?
  generalize table.columns = columns
  induction columns with
  | nil => rfl
  | cons column rest inductionHypothesis =>
      rw [List.length_cons, List.range_succ_eq_map]
      simp only [List.filterMap_cons, List.getElem?_cons_zero,
        Option.bind_some, List.filterMap_map, Function.comp_def,
        List.getElem?_cons_succ, Nat.succ_eq_add_one, inductionHypothesis]

/-- The positions of the primary key hold its columns in order. -/
theorem filterMap_primaryColumns
    (table : Table) :
    table.primaryColumns.filterMap table.column? =
      table.columns.filter isKeyColumn := by
  rw [primaryColumns, positionsWhere, List.filterMap_filter,
    ← List.filterMap_eq_filter, ← filterMap_positions]
  refine List.filterMap_congr ?_
  intro position _
  cases table.column? position with
  | none => rfl
  | some column =>
      cases key : isKeyColumn column <;> simp [key, Option.guard]

/-- The names of the primary key are those of its columns in order. -/
theorem primaryNames_eq
    (table : Table) :
    table.primaryNames =
      (table.columns.filter isKeyColumn).map Column.name := by
  rw [primaryNames, filterMap_primaryColumns]

/-- Later states name the same columns in their primary key. -/
theorem Later.primaryNames_eq
    {before after : Table}
    (later : Later before after) :
    after.primaryNames = before.primaryNames := by
  rw [Table.primaryNames_eq, Table.primaryNames_eq]
  apply later.map_filter_columns
  intro column changed changes
  simp only [isKeyColumn, changes.primary_eq, changes.isMarker_eq,
    changes.silent_eq, changes.name_eq, and_self]

/-- Later states have the same primary key. -/
theorem Later.primaryColumns_eq
    {before after : Table}
    (later : Later before after) :
    after.primaryColumns = before.primaryColumns := by
  have sameKey :
      ∀ position,
        (after.column? position).map isKeyColumn =
          (before.column? position).map isKeyColumn := by
    intro position
    have related := later.columns position
    generalize before.column? position = start at related ⊢
    generalize after.column? position = finish at related ⊢
    cases related with
    | none => rfl
    | some changed =>
        simp only [Option.map_some, isKeyColumn, changed.primary_eq,
          changed.isMarker_eq, changed.silent_eq]
  simp only [primaryColumns, positionsWhere, later.positions_eq, sameKey]

end Table

end Tablewright
