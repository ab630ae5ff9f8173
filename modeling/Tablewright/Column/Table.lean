import Tablewright.Column.Basic
import Tablewright.Schema.Model
import Tablewright.Text.Order

namespace Tablewright

/-!
# Tables

The columns and indexes of a table while it is being compiled. A column is
addressed by its position, which never changes; compiling a table only
suppresses columns, attaches foreign keys and takes notes.
-/

/-- An index over columns of the table. -/
structure TableIndex where
  kind : Schema.IndexKind
  columns : List String
  name : Option String := none
  deriving Repr, DecidableEq

/-- A table under compilation. -/
structure Table where
  columns : List Column := []
  indexes : List TableIndex := []
  /-- The column that the identity shorthand has created. -/
  identity : Option Nat := none
  /-- The utility rules that have been applied, as a sorted set. -/
  consumed : List String := []
  deriving Repr, DecidableEq

namespace Table

/-- The column at a position. -/
def column? (table : Table) (position : Nat) : Option Column :=
  table.columns[position]?

/-- Append a column. -/
def push (table : Table) (column : Column) : Table :=
  { table with columns := table.columns ++ [column] }

/-- Append an index. -/
def pushIndex (table : Table) (index : TableIndex) : Table :=
  { table with indexes := table.indexes ++ [index] }

/-- Change the column at a position. -/
def update (table : Table) (position : Nat) (change : Column → Column) :
    Table :=
  { table with columns := table.columns.modify position change }

/-- Pass the column at a position over from now on. -/
def suppress (table : Table) (position : Nat) : Table :=
  table.update position (fun column => { column with ignored := true })

/-- Whether the column at a position is passed over. -/
def isIgnored (table : Table) (position : Nat) : Bool :=
  ((table.column? position).map Column.ignored).getD false

/-- The positions of all columns. -/
def positions (table : Table) : List Nat :=
  List.range table.columns.length

/-- The positions whose column has a property. -/
def positionsWhere (table : Table) (property : Column → Bool) :
    List Nat :=
  table.positions.filter (fun position =>
    ((table.column? position).map property).getD false)

/-- The columns that are not passed over. -/
def active (table : Table) : List Column :=
  table.columns.filter (fun column => !column.ignored)

/-- The position of the first column, markers aside, with a name. -/
def find? (table : Table) (name : String) : Option Nat :=
  table.columns.findIdx?
    (fun column => !column.isMarker && column.name == name)

/-- The same position, unless that column is passed over. -/
def findActive? (table : Table) (name : String) : Option Nat :=
  (table.find? name).filter (fun position => !table.isIgnored position)

/-- Whether a marker holds a foreign key with a given local column. -/
def claims (name : String) (column : Column) : Bool :=
  column.isMarker && !column.ignored &&
    ((column.owningKey?).map
      (fun key => key.localColumns.contains name)).getD false

/-- The markers whose foreign key has a given local column. -/
def markersClaiming (table : Table) (name : String) : List Nat :=
  table.positionsWhere (claims name)

/-- Whether a column belongs to the primary key that is declared. -/
def isKeyColumn (column : Column) : Bool :=
  column.primary && !column.isMarker && !column.silent

/-- The columns of the primary key. -/
def primaryColumns (table : Table) : List Nat :=
  table.positionsWhere isKeyColumn

/-- Note the column that the identity shorthand has created. -/
def markIdentity (table : Table) (position : Nat) : Table :=
  { table with identity := some position }

/-- Note that a utility rule has been applied. -/
def consume (table : Table) (rule : String) : Table :=
  { table with consumed := Text.insertSorted rule table.consumed }

/-- The tables that enforced foreign keys refer to, each once. -/
def dependencies (table : Table) : List String :=
  Text.firstOccurrences
    ((table.active.filterMap Column.owningKey?).map
      ForeignKey.targetTable)

end Table

end Tablewright
