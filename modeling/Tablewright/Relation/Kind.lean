import Tablewright.Text.Pieces

namespace Tablewright.Relation

/-!
# Relation kinds

The kinds of relation accessors, and the cardinality that a polymorphic
declaration asks for.
-/

/-- The kind of a relation accessor. -/
inductive Kind where
  | belongsTo
  | hasOne
  | hasMany
  | belongsToManyImplicit
  | belongsToManyExplicit
  | morphTo
  | morphOne
  | morphMany
  | morphToMany
  | morphedByMany
  deriving Repr, DecidableEq

namespace Kind

/-- Every kind with the name it has in stored documents. -/
def named : List (String × Kind) :=
  [ ("belongs_to", .belongsTo), ("has_one", .hasOne),
    ("has_many", .hasMany),
    ("belongs_to_many_implicit", .belongsToManyImplicit),
    ("belongs_to_many_explicit", .belongsToManyExplicit),
    ("morph_to", .morphTo), ("morph_one", .morphOne),
    ("morph_many", .morphMany), ("morph_to_many", .morphToMany),
    ("morphed_by_many", .morphedByMany) ]

/-- The method that declares a relation of this kind. -/
def method : Kind → String
  | .belongsTo => "belongsTo"
  | .hasOne => "hasOne"
  | .hasMany => "hasMany"
  | .belongsToManyImplicit | .belongsToManyExplicit => "belongsToMany"
  | .morphTo => "morphTo"
  | .morphOne => "morphOne"
  | .morphMany => "morphMany"
  | .morphToMany => "morphToMany"
  | .morphedByMany => "morphedByMany"

/-- Whether the relation goes through a junction table. -/
def isPivot : Kind → Bool
  | .belongsToManyImplicit | .belongsToManyExplicit | .morphToMany
  | .morphedByMany => true
  | _ => false

/-- Whether the relation is polymorphic. -/
def isPolymorphic : Kind → Bool
  | .morphTo | .morphOne | .morphMany | .morphToMany | .morphedByMany =>
      true
  | _ => false

/-- Whether the relation yields a collection. -/
def isMany : Kind → Bool
  | .hasMany | .belongsToManyImplicit | .belongsToManyExplicit
  | .morphMany | .morphToMany | .morphedByMany => true
  | _ => false

end Kind

/-- How many records a polymorphic declaration leads to, and on which side
of a junction table the declaring model stands. -/
inductive Cardinality where
  | one
  | many
  | toMany
  | byMany
  deriving Repr, DecidableEq

namespace Cardinality

/-- Every accepted spelling, the one used in stored documents first. -/
def spellings : List (String × Cardinality) :=
  [ ("one", .one), ("many", .many),
    ("to-many", .toMany), ("toMany", .toMany), ("to_many", .toMany),
    ("by-many", .byMany), ("byMany", .byMany), ("by_many", .byMany) ]

/-- The spelling used in stored documents. -/
def name : Cardinality → String
  | .one => "one"
  | .many => "many"
  | .toMany => "to-many"
  | .byMany => "by-many"

/-- Read a spelling, blanks around it being ignored. -/
def parse? (spelling : String) : Option Cardinality :=
  spellings.lookup (Text.trimmed spelling)

/-- The kind of relation declared on the owning side. -/
def relationKind : Cardinality → Kind
  | .one => .morphOne
  | .many => .morphMany
  | .toMany => .morphToMany
  | .byMany => .morphedByMany

/-- Whether the accessor is named in the plural. -/
def isMultiValued (cardinality : Cardinality) : Bool :=
  cardinality != .one

end Cardinality

end Tablewright.Relation
