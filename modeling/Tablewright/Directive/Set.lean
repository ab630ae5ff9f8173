import Tablewright.Relation.Kind

namespace Tablewright.Directive

/-!
# Directive sets

The typed content of the directives in one documentation string. Absent
lists differ from empty ones: an empty list is the flag form of its
directive.
-/

/-- A class by its path, under an optional alias. -/
structure ClassReference where
  path : String
  alternative : Option String := none
  deriving Repr, DecidableEq

/-- The alias, or else the last part of the path. -/
def ClassReference.shortName (reference : ClassReference) : String :=
  reference.alternative.getD
    (String.ofList
      (((Text.cut '\\' reference.path.toList).getLast?).getD []))

/-- A bare value, `key: value` entries, or both. -/
structure Structured where
  value : Option String := none
  entries : List (String × String) := []
  deriving Repr, DecidableEq

/-- The value of the first entry with a key. -/
def Structured.get? (structured : Structured) (key : String) :
    Option String :=
  structured.entries.lookup key

/-- Combine two structured values: entries in order, the later bare value
winning. -/
def Structured.merge (first second : Structured) : Structured :=
  { value := second.value.or first.value
    entries := first.entries ++ second.entries }

/-- The outputs that a scoped directive applies to. -/
structure Scope where
  migrations : Bool
  models : Bool
  deriving Repr, DecidableEq

/-- Both outputs. -/
def Scope.everywhere : Scope := ⟨true, true⟩

/-- A polymorphic relation declared on its owning side. -/
structure Morph where
  /-- The base that the discriminator columns are named after. -/
  name : String
  cardinality : Relation.Cardinality
  /-- The related model. -/
  model : String
  /-- The junction table, for relations through one. -/
  table : Option String := none
  /-- The accessor, if it is not derived from the related model. -/
  accessor : Option String := none
  /-- Calls appended to the relation as they stand. -/
  chain : Option String := none
  idColumn : Option String := none
  typeColumn : Option String := none
  deriving Repr, DecidableEq

/-- Every directive of one documentation string. -/
structure Set where
  fillable : Option (List String) := none
  hidden : Option (List String) := none
  guarded : Option (List String) := none
  eager : Option (List String) := none
  ignored : Bool := false
  cast : Option Structured := none
  typeHint : Option Structured := none
  traits : List ClassReference := []
  interfaces : List ClassReference := []
  observer : Option ClassReference := none
  factory : Option ClassReference := none
  parent : Option ClassReference := none
  pivot : Bool := false
  pivotAlias : Option String := none
  timestamps : Bool := false
  morphs : List Morph := []
  localScope : Option Scope := none
  silentScope : Option Scope := none
  /-- Tags of other tools with their bodies. -/
  others : List (String × Option String) := []
  /-- The documentation without its directives. -/
  comment : Option String := none
  deriving Repr, DecidableEq

namespace Set

/-- Whether migrations leave the field or model out. -/
def silentInMigrations (set : Set) : Bool :=
  (set.silentScope.map Scope.migrations).getD false || set.ignored

/-- Whether models leave the field or model out. -/
def silentInModels (set : Set) : Bool :=
  (set.silentScope.map Scope.models).getD false

/-- Whether a foreign key is kept out of the database. -/
def localInMigrations (set : Set) : Bool :=
  (set.localScope.map Scope.migrations).getD false

/-- Whether a relation is local to the models. -/
def localInModels (set : Set) : Bool :=
  (set.localScope.map Scope.models).getD false

/-- Whether a list directive, in flag form or by listing it, mentions a
name. -/
def mentions (names : Option (List String)) (name : String) : Bool :=
  match names with
  | none => false
  | some names => names.isEmpty || names.contains name

/-- Whether the set holds no directive. -/
def isEmpty (set : Set) : Bool :=
  { set with comment := none } = {}

end Set

end Tablewright.Directive
