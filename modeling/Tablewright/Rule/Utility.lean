import Tablewright.Rule.Basic

namespace Tablewright

/-!
# Statements for the table as a whole

The primary key, unless the identity shorthand has declared it, and the
indexes.
-/

open Code

/-- The built-in utility rules. -/
inductive Utility where
  | compositePrimary
  | singlePrimary
  | indexes
  deriving Repr, DecidableEq

namespace Table

/-- The names of the columns of the primary key. -/
def primaryNames (table : Table) : List String :=
  (table.primaryColumns.filterMap table.column?).map Column.name

/-- The declaration of a primary key of several columns. -/
def compositePrimaryLines (table : Table) : List Line :=
  let names := table.primaryNames
  if names.length < 2 then []
  else [.call "primary" [.columns names]]

/-- The declaration of a primary key of one column that the identity
shorthand has not created. -/
def singlePrimaryLines (table : Table) : List Line :=
  match table.primaryColumns with
  | [only] =>
      if table.identity = some only then []
      else
        match table.column? only with
        | some column => [.call "primary" [.literal column.name]]
        | none => []
  | _ => []

/-- The columns that get a unique index of their own. -/
def uniqueNames (table : Table) : List String :=
  (table.columns.filter (fun column =>
    column.unique && !column.primary && !column.silent &&
      !column.isMarker)).map Column.name

/-- Whether an index covers a column that migrations leave out. -/
def isSilenced (table : Table) (index : TableIndex) : Bool :=
  index.columns.any (fun name =>
    (((table.find? name).bind table.column?).map Column.silent).getD false)

/-- Whether an index only repeats a unique column. -/
def repeatsUnique (names : List String) (index : TableIndex) : Bool :=
  match index.columns with
  | [single] => names.contains single && index.name.isNone
  | _ => false

/-- The builder method of an index. -/
def indexMethod? (names : List String) (index : TableIndex) :
    Option String :=
  match index.kind with
  | .unique => if repeatsUnique names index then none else some "unique"
  | .normal => some "index"
  | .fulltext => some "fullText"
  | .id => none

/-- The declaration of an index. -/
def indexLine? (table : Table) (index : TableIndex) : Option Line :=
  if table.isSilenced index || index.columns.isEmpty then none
  else
    (indexMethod? table.uniqueNames index).map fun method =>
      .call method
        (.columns index.columns :: (index.name.map .literal).toList)

/-- The declarations of unique columns and of indexes. -/
def indexLines (table : Table) : List Line :=
  (table.uniqueNames.map (fun name => .call "unique" [.literal name])) ++
    table.indexes.filterMap table.indexLine?

end Table

namespace Utility

/-- The utility rules in the order in which they are applied. -/
def inOrder : List Utility :=
  [.compositePrimary, .singlePrimary, .indexes]

/-- The name of the rule. -/
def name : Utility → String
  | .compositePrimary => "composite_primary"
  | .singlePrimary => "primary"
  | .indexes => "indexes"

/-- The lines of the rule. -/
def lines (utility : Utility) (table : Table) : List Line :=
  match utility with
  | .compositePrimary => table.compositePrimaryLines
  | .singlePrimary => table.singlePrimaryLines
  | .indexes => table.indexLines

/-- The utility as a rule. -/
def rule (utility : Utility) : UtilityRule :=
  { name := utility.name, apply := fun _ => utility.lines }

end Utility

end Tablewright
