import Tablewright.Relation.Definition
import Tablewright.Relation.Options
import Tablewright.Schema.Inconsistency
import Tablewright.Directive.Set

namespace Tablewright.Relation

/-!
# Polymorphic relations

A model with a pair of discriminator columns is the child of a polymorphic
relation. The owning sides are declared by directives on their models.
-/

open Schema

/-- The child side of a discriminator pair whose id column is given. -/
def morphToOf? (options : Options) (keyColumns columns : List String)
    (column : String) : Option Definition :=
  match Text.withoutEnding? options.morphIdEnding column with
  | none => none
  | some base =>
      let typeColumn := base ++ options.morphTypeEnding
      if base.isEmpty || keyColumns.contains column ||
          !columns.contains typeColumn then none
      else
        some {
          name := Naming.camel base
          kind := .morphTo
          discriminator := some ⟨base, column, typeColumn⟩
        }

/-- The child sides of the discriminator pairs of a model. An id column that
is part of an owned foreign key is no discriminator. -/
def detectMorphTo (options : Options) (model : Model) :
    List Definition :=
  if options.morphIdEnding.isEmpty || options.morphTypeEnding.isEmpty then
    []
  else
    let keyColumns := model.owningRelations.flatMap
      (fun relation => model.columnsOf relation.relationFromFields)
    let columns := model.columns.map Field.columnName
    columns.filterMap (morphToOf? options keyColumns columns)

/-- The accessor of an owning side. -/
def ownerAccessor (morph : Directive.Morph) (target : Model) : String :=
  match morph.accessor with
  | some name => name
  | none =>
      let base := Naming.camel target.name
      if morph.cardinality.isMultiValued then Naming.pluralize base
      else base

/-- The discriminator columns of an owning side. -/
def ownerDiscriminator (options : Options) (morph : Directive.Morph) :
    Discriminator :=
  { base := morph.name
    idColumn := morph.idColumn.getD (morph.name ++ options.morphIdEnding)
    typeColumn :=
      morph.typeColumn.getD (morph.name ++ options.morphTypeEnding) }

/-- The relation that a directive declares on its model. -/
def ownerMorph (options : Options) (document : Document) (model : Model)
    (morph : Directive.Morph) : Outcome Definition := do
  let target ←
    (Inconsistency.unknownMorphTarget morph.name morph.model).orFail
      model.name (document.model? morph.model)
  let columns := ownerDiscriminator options morph
  let kind := morph.cardinality.relationKind
  return {
    name := ownerAccessor morph target
    kind := kind
    target := some target.name
    foreignKeys := [columns.idColumn]
    localKeys := model.primaryKeyColumns
    junction :=
      if kind.isPivot then
        some { table := morph.table.getD (Naming.pluralize morph.name) }
      else none
    discriminator := some columns
    chain := morph.chain
  }

/-- The relations that directives declare on a model. -/
def ownerMorphs (options : Options) (document : Document) (model : Model)
    (directives : Directive.Set) : Outcome (List Definition) :=
  directives.morphs.mapM (ownerMorph options document model)

end Tablewright.Relation
