import Tablewright.Column.Table
import Tablewright.Relation.Definition
import Tablewright.Directive.Set

namespace Tablewright

/-!
# Model classes

Everything that is needed to write the class of a model.
-/

/-- An attribute of a model class. -/
structure Attribute where
  column : String
  field : String
  /-- The type of the attribute when it is not null. -/
  typeName : String
  nullable : Bool
  cast : Option String
  fillable : Bool
  hidden : Bool
  guarded : Bool
  comment : Option String
  deriving Repr, DecidableEq

/-- The type of an attribute in documentation. -/
def Attribute.documentedType (held : Attribute) : String :=
  if held.nullable then held.typeName ++ "|null"
  else held.typeName

/-- The class of a model. -/
structure ModelClass where
  className : String
  table : String
  primaryKey : List String
  incrementing : Bool
  keyType : String
  timestamps : Bool
  softDeletes : Bool
  attributes : List Attribute
  relations : List Relation.Definition
  fillable : List String
  hidden : List String
  guarded : List String
  eager : List String
  /-- The casts of attributes, in the order of their columns. -/
  casts : List (String × String)
  traits : List Directive.ClassReference
  interfaces : List Directive.ClassReference
  observer : Option Directive.ClassReference
  factory : Option Directive.ClassReference
  parent : Option Directive.ClassReference
  comment : Option String
  /-- Whether the class is built but not shown. -/
  silent : Bool
  deriving Repr, DecidableEq

namespace ModelClass

/-- The attribute of a column. -/
def attribute? (modelClass : ModelClass) (column : String) :
    Option Attribute :=
  modelClass.attributes.find?
    (fun held => held.column == column)

/-- The relation with an accessor name. -/
def relation? (modelClass : ModelClass) (name : String) :
    Option Relation.Definition :=
  modelClass.relations.find? (fun relation => relation.name == name)

/-- The cast of a column. -/
def cast? (modelClass : ModelClass) (column : String) : Option String :=
  modelClass.casts.lookup column

end ModelClass

end Tablewright
