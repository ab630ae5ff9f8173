import Tablewright.Column.Kind
import Tablewright.Schema.Field

namespace Tablewright

/-!
# Columns

A column as migrations and models see it, with its constraints. A relation
field appears among the columns as a marker, which carries the foreign key
if the field owns one.
-/

/-- A foreign key owned by a relation field. -/
structure ForeignKey where
  /-- The relation field. -/
  field : String
  targetTable : String
  localColumns : List String
  /-- The referenced columns of the target table. -/
  references : List String
  onDelete : Option Column.Action := none
  onUpdate : Option Column.Action := none
  /-- Whether the key is kept out of the database. -/
  isLocal : Bool := false
  deriving Repr, DecidableEq

/-- A column, or the marker of a relation field. -/
structure Column where
  name : String
  fieldName : String
  kind : Column.Kind
  /-- Width or precision. -/
  arguments : List String := []
  nullable : Bool := false
  unsigned : Bool := false
  autoIncrement : Bool := false
  primary : Bool := false
  unique : Bool := false
  defaultValue : Option Schema.DefaultValue := none
  enumValues : List String := []
  comment : Option String := none
  foreignKey : Option ForeignKey := none
  /-- Whether a directive leaves the column out of migrations. -/
  silent : Bool := false
  /-- Whether the column is to be passed over from now on. -/
  ignored : Bool := false
  deriving Repr, DecidableEq

namespace Column

/-- A plain column. -/
def plain (name : String) (kind : Kind) : Column :=
  { name := name, fieldName := name, kind := kind }

/-- The marker of a relation field. -/
def marker (fieldName : String) (foreignKey : Option ForeignKey) :
    Column :=
  { plain fieldName .relation with foreignKey := foreignKey }

/-- Whether this is the marker of a relation field. -/
def isMarker (column : Column) : Bool :=
  column.kind.isRelation

/-- The foreign key that the database is to enforce. -/
def owningKey? (column : Column) : Option ForeignKey :=
  column.foreignKey.filter
    (fun key => !key.isLocal && !key.localColumns.isEmpty)

end Column

end Tablewright
