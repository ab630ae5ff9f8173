import Mathlib.Tactic.Simps.Basic
import Tablewright.Proofs.Column.Table
import Tablewright.Rule.Utility

namespace Tablewright

/-!
# Tables without comments

A comment is carried along with its column, and nothing that is asked of a
table depends on it.  Taking the comments away therefore commutes with every
question about a table and with every change to it.
-/

/-- The column with its comment taken away. -/
@[simps]
def Column.withoutComment (column : Column) : Column :=
  { column with comment := none }

namespace Column

@[simp]
theorem isMarker_withoutComment
    (column : Column) :
    column.withoutComment.isMarker = column.isMarker :=
  rfl

@[simp]
theorem owningKey?_withoutComment
    (column : Column) :
    column.withoutComment.owningKey? = column.owningKey? :=
  rfl

end Column

/-- The table with all comments taken away. -/
@[simps]
def Table.withoutComments (table : Table) : Table :=
  { table with columns := table.columns.map Column.withoutComment }

namespace Table

variable (table : Table)

/-! ## Questions about a table -/

@[simp]
theorem column?_withoutComments
    (position : Nat) :
    table.withoutComments.column? position =
      (table.column? position).map Column.withoutComment := by
  simp [column?]

@[simp]
theorem positions_withoutComments :
    table.withoutComments.positions = table.positions := by
  simp [positions]

@[simp]
theorem isIgnored_withoutComments
    (position : Nat) :
    table.withoutComments.isIgnored position = table.isIgnored position := by
  simp [isIgnored, Function.comp_def]

/-- Positions are found by what does not depend on comments. -/
theorem positionsWhere_withoutComments
    {property : Column → Bool}
    (blind : ∀ column, property column.withoutComment = property column) :
    table.withoutComments.positionsWhere property =
      table.positionsWhere property := by
  simp [positionsWhere, Function.comp_def, blind]

@[simp]
theorem markersClaiming_withoutComments
    (name : String) :
    table.withoutComments.markersClaiming name =
      table.markersClaiming name :=
  positionsWhere_withoutComments table fun _ => rfl

@[simp]
theorem primaryColumns_withoutComments :
    table.withoutComments.primaryColumns = table.primaryColumns :=
  positionsWhere_withoutComments table fun _ => rfl

@[simp]
theorem find?_withoutComments
    (name : String) :
    table.withoutComments.find? name = table.find? name := by
  simp [find?, List.findIdx?_map, Function.comp_def]

@[simp]
theorem findActive?_withoutComments
    (name : String) :
    table.withoutComments.findActive? name = table.findActive? name := by
  simp [findActive?]

@[simp]
theorem active_withoutComments :
    table.withoutComments.active =
      table.active.map Column.withoutComment := by
  simp [active, List.filter_map, Function.comp_def]

@[simp]
theorem dependencies_withoutComments :
    table.withoutComments.dependencies = table.dependencies := by
  simp [dependencies, Function.comp_def]

/-! ## Changes to a table -/

/-- A change that has nothing to do with comments is made before or after they
are taken away. -/
theorem update_withoutComments
    (position : Nat)
    {change : Column → Column}
    (blind :
      ∀ column : Column,
        change column.withoutComment = (change column).withoutComment) :
    table.withoutComments.update position change =
      (table.update position change).withoutComments := by
  simp only [update, withoutComments, Table.mk.injEq, and_true]
  apply List.ext_getElem?
  intro other
  simp only [List.getElem?_modify, List.getElem?_map]
  cases table.columns[other]? with
  | none => rfl
  | some column =>
      by_cases here : position = other <;> simp [here, blind]

@[simp]
theorem suppress_withoutComments
    (position : Nat) :
    table.withoutComments.suppress position =
      (table.suppress position).withoutComments :=
  update_withoutComments table position fun _ => rfl

@[simp]
theorem markIdentity_withoutComments
    (position : Nat) :
    table.withoutComments.markIdentity position =
      (table.markIdentity position).withoutComments :=
  rfl

@[simp]
theorem consume_withoutComments
    (rule : String) :
    table.withoutComments.consume rule =
      (table.consume rule).withoutComments :=
  rfl

end Table

end Tablewright
