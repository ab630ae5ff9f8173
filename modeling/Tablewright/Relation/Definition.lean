import Tablewright.Relation.Kind
import Tablewright.Code.Call

namespace Tablewright.Relation

/-!
# Relation definitions

A relation is one accessor of a model with everything needed to declare it.

For `belongsTo` the foreign keys are columns of the model itself and the
local keys are columns of its target. For `hasOne` and `hasMany` the foreign
keys are columns of the target. For many-to-many relations the local keys
are the keys of the model and the foreign keys those of its target.
-/

open Code

/-- The junction table of a many-to-many relation. -/
structure Junction where
  table : String := ""
  /-- The junction columns that refer to the declaring model. -/
  ownKeys : List String := []
  /-- The junction columns that refer to the related model. -/
  relatedKeys : List String := []
  /-- Further columns that are read along. -/
  extraColumns : List String := []
  timestamps : Bool := false
  /-- The name of the junction record on the related model. -/
  recordName : Option String := none
  /-- The model of the junction table, when there is one. -/
  usingModel : Option String := none
  deriving Repr, DecidableEq

/-- The calls that follow a relation through a junction table. -/
def Junction.modifiers (junction : Junction) : List Call :=
  (match junction.usingModel with
    | some model => [⟨"using", [.modelClass model]⟩]
    | none => []) ++
  (if junction.extraColumns.isEmpty then []
    else [⟨"withPivot", junction.extraColumns.map .enclosed⟩]) ++
  (if junction.timestamps then [⟨"withTimestamps", []⟩] else []) ++
  (match junction.recordName with
    | some name => [⟨"as", [.enclosed name]⟩]
    | none => [])

/-- The discriminator columns of a polymorphic relation. -/
structure Discriminator where
  base : String
  idColumn : String
  typeColumn : String
  deriving Repr, DecidableEq

/-- The discriminator with the columns that its base suggests. -/
def Discriminator.conventional (base : String) : Discriminator :=
  ⟨base, base ++ "_id", base ++ "_type"⟩

/-- Whether both columns are the ones that the base suggests. -/
def Discriminator.isConventional (discriminator : Discriminator) : Bool :=
  discriminator == Discriminator.conventional discriminator.base

/-- A relation accessor. -/
structure Definition where
  name : String
  kind : Kind
  /-- The related model; a child of a polymorphic relation has none. -/
  target : Option String := none
  /-- The relation field that the accessor stems from. -/
  field : Option String := none
  foreignKeys : List String := []
  localKeys : List String := []
  junction : Option Junction := none
  discriminator : Option Discriminator := none
  /-- Calls appended as they stand. -/
  chain : Option String := none
  deriving Repr, DecidableEq

namespace Definition

/-- The class of the related model, or nothing. -/
def targetArgument (definition : Definition) : Argument :=
  match definition.target with
  | some model => .modelClass model
  | none => .verbatim ""

/-- The arguments of the declaring call. -/
def arguments (definition : Definition) : List Argument :=
  let related := definition.targetArgument
  match definition.kind with
  | .belongsTo | .hasOne | .hasMany =>
      [related, .keys definition.foreignKeys, .keys definition.localKeys]
  | .belongsToManyImplicit | .belongsToManyExplicit =>
      match definition.junction with
      | some junction =>
          [ related, .enclosed junction.table,
            .keys junction.ownKeys, .keys junction.relatedKeys,
            .keys definition.localKeys, .keys definition.foreignKeys ]
      | none => [related]
  | .morphTo =>
      match definition.discriminator with
      | some columns =>
          [ .enclosed columns.base, .enclosed columns.typeColumn,
            .enclosed columns.idColumn ]
      | none => []
  | .morphOne | .morphMany =>
      match definition.discriminator with
      | some columns =>
          if columns.isConventional then [related, .enclosed columns.base]
          else
            [ related, .enclosed columns.base,
              .enclosed columns.typeColumn, .enclosed columns.idColumn ]
      | none => [related]
  | .morphToMany | .morphedByMany =>
      let base :=
        (definition.discriminator.map Discriminator.base).getD ""
      match definition.junction with
      | some junction =>
          [related, .enclosed base, .enclosed junction.table]
      | none => [related, .enclosed base]

/-- The calls that follow the declaring call. -/
def modifiers (definition : Definition) : List Call :=
  match definition.kind with
  | .belongsToManyImplicit | .belongsToManyExplicit
  | .morphToMany | .morphedByMany =>
      (definition.junction.map Junction.modifiers).getD []
  | _ => []

/-- The code that the accessor returns. -/
def callText (definition : Definition) : String :=
  "$this" ++
    callsText
      (⟨definition.kind.method, definition.arguments⟩ ::
        definition.modifiers) ++
    definition.chain.getD ""

end Definition

/-- The relations of a model, and what was left out of them. -/
structure Registry where
  relations : List Definition := []
  diagnostics : List String := []
  deriving Repr, DecidableEq

namespace Registry

/-- The relation with an accessor name. -/
def get? (registry : Registry) (name : String) : Option Definition :=
  registry.relations.find? (fun relation => relation.name == name)

/-- Whether an accessor name is taken. -/
def contains (registry : Registry) (name : String) : Bool :=
  (registry.get? name).isSome

/-- What is said about a relation that is left out. -/
def collision (model : String) (relation : Definition) : String :=
  model ++ ": relation '" ++ relation.name ++ "' (" ++
    relation.kind.method ++
    ") collides with an existing accessor and was dropped"

/-- Add a relation of a model; an accessor name that is taken keeps its
first relation. -/
def register (registry : Registry) (model : String)
    (relation : Definition) : Registry :=
  if registry.contains relation.name then
    { registry with
      diagnostics := registry.diagnostics ++ [collision model relation] }
  else
    { registry with relations := registry.relations ++ [relation] }

end Registry

end Tablewright.Relation
