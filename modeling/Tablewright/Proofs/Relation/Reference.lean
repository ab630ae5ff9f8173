import Tablewright.Proofs.Reference
import Tablewright.Proofs.Relation.Inference

namespace Tablewright.Traced

/-!
# References that the inference follows

The inference once more, on the record: columns and targets enter it through
`columnsOf` and `targetOf` only, and its outcome is what it always was.  The
columns are asked of four models, which are the model of the field, its
target, the junction model in between and the far end of the junction.  The
names of the columns are taken from yet another one of the four, but in a
closed document that one points to where they are asked for.

The model whose relations are wanted, and the model that a directive declares
a relation to, are named by no field.  They are not on the record; if they
are missing, the inference says so.
-/

open Schema Tablewright.Relation

/-! ## The inference, traced -/

/-- `Relation.implicitManyToMany`, traced. -/
def implicitManyToMany (model : Model) (field : Field) (target : Model)
    (counterpart : Field) (directives : Directive.Set) (name : String) :
    Traced Definition := do
  let localKeys ← primaryKeyColumns model
  let foreignKeys ← primaryKeyColumns target
  let own := localKeys.map (Naming.junctionKey model.name)
  let related := foreignKeys.map (Naming.junctionKey target.name)
  let keys :=
    if model.name = target.name then
      if counterpart.name < field.name then (relatedColumns own, related)
      else (own, relatedColumns related)
    else (own, related)
  return {
    name := name
    kind := .belongsToManyImplicit
    target := some target.name
    field := some field.name
    foreignKeys := foreignKeys
    localKeys := localKeys
    junction := some {
      table := Naming.junctionTable model.tableName target.tableName
      ownKeys := keys.1
      relatedKeys := keys.2
      timestamps := directives.timestamps
      recordName := directives.pivotAlias } }

/-- `Relation.junctionKeys?`, traced.  Columns are looked up once the keys
have been counted. -/
def junctionKeys? (model : Model) (field : Field) (pivot : Model)
    (back : Field) : Traced (Option JunctionKeys) :=
  if !back.isOwning || field.isOwning then pure none
  else
    let owning := pivot.owningRelations
    match owning.filter (fun key => key.name != back.name) with
    | [other] =>
        let backReferences :=
          (owning.filter (fun key => key.typeName == model.name)).length
        let expected := if other.typeName = model.name then 2 else 1
        if backReferences ≠ expected then pure none
        else do
          let backColumns ← columnsOf pivot back.relationFromFields
          let otherColumns ← columnsOf pivot other.relationFromFields
          if backColumns.any otherColumns.contains then pure none
          else do
            let sets ← uniqueSets pivot
            let together := Text.sortedDistinct (backColumns ++ otherColumns)
            if sets.any
                (fun columns => Text.sortedDistinct columns == together) then
              pure (some ⟨other, backColumns, otherColumns⟩)
            else pure none
    | _ => pure none

/-- The relation through a junction model with the given keys, traced. -/
def throughJunction (document : Document) (model : Model) (field : Field)
    (pivot : Model) (back : Field) (directives : Directive.Set)
    (name : String) (keys : JunctionKeys) : Traced Definition := do
  let related ← targetOf document pivot.name keys.other
  let pivotDirectives ←
    of (Directive.Set.ofDocumentation pivot.documentation)
  let extra ←
    of (extraColumns (keys.backColumns ++ keys.otherColumns) pivot.columns)
  let foreignKeys ← columnsOf related keys.other.relationToFields
  let localKeys ← columnsOf model back.relationToFields
  return {
    name := name
    kind := .belongsToManyExplicit
    target := some related.name
    field := some field.name
    foreignKeys := foreignKeys
    localKeys := localKeys
    junction := some {
      table := pivot.tableName
      ownKeys := keys.backColumns
      relatedKeys := keys.otherColumns
      extraColumns := extra
      timestamps := directives.timestamps || pivotDirectives.timestamps
      recordName := directives.pivotAlias.or pivotDirectives.pivotAlias
      usingModel := some pivot.name } }

/-- `Relation.explicitManyToMany?`, traced. -/
def explicitManyToMany? (document : Document) (model : Model)
    (field : Field) (pivot : Model) (back : Field)
    (directives : Directive.Set) (name : String) :
    Traced (Option Definition) := do
  match ← junctionKeys? model field pivot back with
  | none => pure none
  | some keys =>
      some <$> throughJunction document model field pivot back directives
        name keys

/-- `Relation.hasRelation`, traced. -/
def hasRelation (kind : Kind) (model : Model) (field : Field)
    (target : Model) (counterpart : Field) (name : String) :
    Traced Definition := do
  let foreignKeys ← columnsOf target counterpart.relationFromFields
  let localKeys ← columnsOf model counterpart.relationToFields
  return {
    name := name
    kind := kind
    target := some target.name
    field := some field.name
    foreignKeys := foreignKeys
    localKeys := localKeys }

/-- `Relation.belongsToRelation`, traced. -/
def belongsToRelation (model : Model) (field : Field) (target : Model)
    (name : String) : Traced Definition := do
  let foreignKeys ← columnsOf model field.relationFromFields
  let localKeys ← columnsOf target field.relationToFields
  return {
    name := name
    kind := .belongsTo
    target := some target.name
    field := some field.name
    foreignKeys := foreignKeys
    localKeys := localKeys }

/-- `Relation.inferList`, traced. -/
def inferList (document : Document) (model : Model) (field : Field)
    (target : Model) (counterpart : Field) (directives : Directive.Set)
    (name : String) : Traced (Option Definition) :=
  if !field.isOwning && !counterpart.isOwning && counterpart.isList then
    some <$> implicitManyToMany model field target counterpart directives
      name
  else do
    match ← explicitManyToMany? document model field target counterpart
        directives name with
    | some relation => pure (some relation)
    | none =>
        if counterpart.isOwning then
          some <$> hasRelation .hasMany model field target counterpart name
        else pure none

/-- `Relation.inferSingle`, traced. -/
def inferSingle (model : Model) (field : Field) (target : Model)
    (counterpart : Option Field) (name : String) :
    Traced (Option Definition) :=
  if field.isOwning then
    some <$> belongsToRelation model field target name
  else
    match counterpart with
    | some counterpart =>
        if counterpart.isOwning then
          let kind : Kind :=
            if counterpart.isList then .hasMany else .hasOne
          some <$> hasRelation kind model field target counterpart name
        else pure none
    | none => pure none

/-- `Relation.inferField`, traced. -/
def inferField (options : Options) (document : Document) (model : Model)
    (field : Field) (directives : Directive.Set) :
    Traced (Option Definition) := do
  let target ← targetOf document model.name field
  let counterpart := counterpart? model field target
  let name := options.accessorName field.name
  if !field.isOwning && counterpart.isNone then
    of (.error
      ((Inconsistency.noCounterpart field.name target.name).failure
        model.name))
  else if field.isList then
    match counterpart with
    | some counterpart =>
        inferList document model field target counterpart directives name
    | none => pure none
  else inferSingle model field target counterpart name

/-- `Relation.inferDocumented`, traced. -/
def inferDocumented (options : Options) (document : Document)
    (model : Model) (field : Field) : Traced (Option Definition) := do
  let directives ← of (Directive.Set.ofDocumentation field.documentation)
  if directives.silentInModels then pure none
  else inferField options document model field directives

/-- `Relation.detectMorphTo`, traced. -/
def detectMorphTo (options : Options) (model : Model) :
    Traced (List Definition) :=
  if options.morphIdEnding.isEmpty || options.morphTypeEnding.isEmpty then
    pure []
  else do
    let keyColumns ← model.owningRelations.mapM
      (fun relation => columnsOf model relation.relationFromFields)
    let columns := model.columns.map Field.columnName
    return columns.filterMap
      (morphToOf? options keyColumns.flatten columns)

/-- `Relation.ownerMorph`, traced. -/
def ownerMorph (options : Options) (document : Document) (model : Model)
    (morph : Directive.Morph) : Traced Definition := do
  let target ← of
    ((Inconsistency.unknownMorphTarget morph.name morph.model).orFail
      model.name (document.model? morph.model))
  let columns := ownerDiscriminator options morph
  let kind := morph.cardinality.relationKind
  let localKeys ← primaryKeyColumns model
  return {
    name := ownerAccessor morph target
    kind := kind
    target := some target.name
    foreignKeys := [columns.idColumn]
    localKeys := localKeys
    junction :=
      if kind.isPivot then
        some { table := morph.table.getD (Naming.pluralize morph.name) }
      else none
    discriminator := some columns
    chain := morph.chain }

/-- `Relation.candidates`, traced. -/
def candidates (options : Options) (document : Document) (model : Model) :
    Traced (List Definition) := do
  let fromFields ←
    model.relationFields.mapM (inferDocumented options document model)
  let children ← detectMorphTo options model
  let directives ← of (Directive.Set.ofDocumentation model.documentation)
  let owners ←
    directives.morphs.mapM (ownerMorph options document model)
  return fromFields.filterMap id ++ children ++ owners

/-- `Relation.inferModel`, traced. -/
def inferModel (options : Options) (document : Document)
    (modelName : String) : Traced Registry := do
  let model ← of (document.requireModel modelName)
  let found ← candidates options document model
  return found.foldl
    (fun registry relation => registry.register model.name relation) {}

/-! ## Its outcome -/

section Outcome

variable (options : Options)
variable (document : Document)
variable (model : Model)
variable (field : Field)
variable (target : Model)
variable (counterpart : Field)
variable (directives : Directive.Set)
variable (name : String)

theorem outcome_implicitManyToMany :
    (implicitManyToMany model field target counterpart directives
        name).outcome =
      .ok (Relation.implicitManyToMany model field target counterpart
        directives name) := by
  simp only [implicitManyToMany, outcome_bind, outcome_primaryKeyColumns,
    outcome_pure]
  rfl

theorem outcome_junctionKeys? :
    (junctionKeys? model field target counterpart).outcome =
      .ok (Relation.junctionKeys? model field target counterpart) := by
  unfold junctionKeys? Relation.junctionKeys?
  simp only
  -- Columns are looked up if there is exactly one other key.
  generalize
    target.owningRelations.filter
      (fun key => key.name != counterpart.name) = others
  cases others with
  | nil => simp only [ite_self, outcome_pure]
  | cons other rest =>
      cases rest with
      | cons _ _ => simp only [ite_self, outcome_pure]
      | nil =>
          simp only [outcome_ite, outcome_bind, outcome_columnsOf,
            outcome_uniqueSets, outcome_pure, Outcome.ok_bind,
            apply_ite Except.ok]

theorem outcome_explicitManyToMany? :
    (explicitManyToMany? document model field target counterpart directives
        name).outcome =
      Relation.explicitManyToMany? document model field target counterpart
        directives name := by
  unfold explicitManyToMany? Relation.explicitManyToMany?
  rw [outcome_bind, outcome_junctionKeys?]
  cases Relation.junctionKeys? model field target counterpart with
  | none => rfl
  | some keys =>
      simp only [Outcome.ok_bind, outcome_map, throughJunction,
        outcome_bind, outcome_targetOf, outcome_columnsOf, outcome_of,
        outcome_pure, map_bind]
      rfl

theorem outcome_hasRelation (kind : Kind) :
    (hasRelation kind model field target counterpart name).outcome =
      .ok (Relation.hasRelation kind model field target counterpart
        name) := by
  simp only [hasRelation, outcome_bind, outcome_columnsOf, outcome_pure]
  rfl

theorem outcome_belongsToRelation :
    (belongsToRelation model field target name).outcome =
      .ok (Relation.belongsToRelation model field target name) := by
  simp only [belongsToRelation, outcome_bind, outcome_columnsOf,
    outcome_pure]
  rfl

theorem outcome_inferList :
    (inferList document model field target counterpart directives
        name).outcome =
      Relation.inferList document model field target counterpart directives
        name := by
  unfold inferList Relation.inferList
  split
  · rw [outcome_map, outcome_implicitManyToMany]
    rfl
  · rw [outcome_bind, outcome_explicitManyToMany?]
    refine bind_congr fun explicit => ?_
    cases explicit with
    | some relation => rfl
    | none =>
        simp only [outcome_ite, outcome_map, outcome_hasRelation,
          outcome_pure]
        rfl

theorem outcome_inferSingle (counterpart : Option Field) :
    (inferSingle model field target counterpart name).outcome =
      .ok (Relation.inferSingle model field target counterpart name) := by
  unfold inferSingle Relation.inferSingle
  split
  · rw [outcome_map, outcome_belongsToRelation]
    rfl
  · cases counterpart with
    | none => rfl
    | some counterpart =>
        simp only [outcome_ite, outcome_map, outcome_hasRelation,
          outcome_pure, apply_ite Except.ok]
        rfl

theorem outcome_inferField :
    (inferField options document model field directives).outcome =
      Relation.inferField options document model field directives := by
  unfold inferField Relation.inferField
  rw [outcome_bind]
  refine bind_congr fun target => ?_
  simp only [outcome_ite, outcome_of, outcome_inferSingle]
  split
  · rfl
  · split
    · cases counterpart? model field target with
      | none => rfl
      | some counterpart =>
          exact outcome_inferList document model field target counterpart
            directives (options.accessorName field.name)
    · rfl

theorem outcome_inferDocumented :
    (inferDocumented options document model field).outcome =
      Relation.inferDocumented options document model field := by
  simp only [inferDocumented, Relation.inferDocumented, outcome_bind,
    outcome_of, outcome_ite, outcome_pure, outcome_inferField]
  rfl

theorem outcome_detectMorphTo :
    (detectMorphTo options model).outcome =
      .ok (Relation.detectMorphTo options model) := by
  unfold detectMorphTo Relation.detectMorphTo
  split
  · rfl
  · simp only [outcome_bind, outcome_pure, Outcome.ok_bind,
      outcome_mapM_eq_ok (fun relation : Field =>
        outcome_columnsOf model relation.relationFromFields)]
    rfl

theorem outcome_ownerMorph (morph : Directive.Morph) :
    (ownerMorph options document model morph).outcome =
      Relation.ownerMorph options document model morph := by
  simp only [ownerMorph, outcome_bind, outcome_of,
    outcome_primaryKeyColumns, outcome_pure]
  rfl

theorem outcome_candidates :
    (candidates options document model).outcome =
      Relation.candidates options document model := by
  simp only [candidates, outcome_bind, outcome_of, outcome_pure,
    outcome_mapM (outcome_inferDocumented options document model),
    outcome_mapM (outcome_ownerMorph options document model),
    outcome_detectMorphTo, Outcome.ok_bind]
  rfl

theorem outcome_inferModel :
    (inferModel options document name).outcome =
      Relation.inferModel options document name := by
  simp only [inferModel, outcome_bind, outcome_of, outcome_pure,
    outcome_candidates]
  rfl

end Outcome

/-! ## What it looks up -/

section Closed

variable {document : Document}
variable {model target : Model}

theorem resolves_implicitManyToMany
    (closed : model.ClosedIn document)
    (targetClosed : target.ClosedIn document)
    (field counterpart : Field)
    (directives : Directive.Set)
    (name : String) :
    (implicitManyToMany model field target counterpart directives
        name).Resolves document := by
  refine resolves_bind (resolves_primaryKeyColumns closed) fun _ _ => ?_
  exact resolves_bind (resolves_primaryKeyColumns targetClosed)
    fun _ _ => resolves_pure _

/-- All columns of a junction model are looked up on the model itself. -/
theorem resolves_junctionKeys?
    {pivot : Model}
    (closed : pivot.ClosedIn document)
    {back : Field}
    (isBack : back ∈ pivot.relationFields)
    (model : Model)
    (field : Field) :
    (junctionKeys? model field pivot back).Resolves document := by
  refine resolves_ite (fun _ => resolves_pure none) fun _ => ?_
  simp only
  split
  · rename_i other isOnly
    have isOther := mem_relationFields_of_filter isOnly
    refine resolves_ite (fun _ => resolves_pure none) fun _ => ?_
    refine resolves_bind (resolves_columnsOf
      (closed.hasFields_relationFromFields isBack)) fun _ _ => ?_
    refine resolves_bind (resolves_columnsOf
      (closed.hasFields_relationFromFields isOther)) fun _ _ => ?_
    refine resolves_ite (fun _ => resolves_pure none) fun _ => ?_
    refine resolves_bind (resolves_uniqueSets closed) fun _ _ => ?_
    exact resolves_ite (fun _ => resolves_pure _)
      fun _ => resolves_pure none
  · exact resolves_pure none

theorem resolves_hasRelation
    (targetClosed : target.ClosedIn document)
    {back : Field}
    (isBack : back ∈ target.relationFields)
    (found : document.model? back.typeName = some model)
    (kind : Kind)
    (field : Field)
    (name : String) :
    (hasRelation kind model field target back name).Resolves document := by
  refine resolves_bind (resolves_columnsOf
    (targetClosed.hasFields_relationFromFields isBack)) fun _ _ => ?_
  refine resolves_bind (resolves_columnsOf
    (targetClosed.hasFields_relationToFields isBack found)) fun _ _ => ?_
  exact resolves_pure _

theorem resolves_belongsToRelation
    (closed : model.ClosedIn document)
    {field : Field}
    (member : field ∈ model.relationFields)
    (found : document.model? field.typeName = some target)
    (name : String) :
    (belongsToRelation model field target name).Resolves document := by
  refine resolves_bind (resolves_columnsOf
    (closed.hasFields_relationFromFields member)) fun _ _ => ?_
  refine resolves_bind (resolves_columnsOf
    (closed.hasFields_relationToFields member found)) fun _ _ => ?_
  exact resolves_pure _

/-- Besides the junction model, the far end of the junction and the near end
are asked for columns. -/
theorem resolves_explicitManyToMany?
    {pivot : Model}
    (closed : pivot.ClosedIn document)
    {back : Field}
    (isBack : back ∈ pivot.relationFields)
    (found : document.model? back.typeName = some model)
    (field : Field)
    (directives : Directive.Set)
    (name : String) :
    (explicitManyToMany? document model field pivot back directives
        name).Resolves document := by
  refine resolves_bind (resolves_junctionKeys? closed isBack model field)
    fun keys areKeys => ?_
  rw [outcome_junctionKeys?, Except.ok.injEq] at areKeys
  cases keys with
  | none => exact resolves_pure none
  | some keys =>
      obtain ⟨_, isOnly, _⟩ := junctionKeys?_eq_some_iff.mp areKeys
      have isOther := mem_relationFields_of_filter isOnly
      refine resolves_map some ?_
      refine resolves_bind (resolves_targetOf closed isOther pivot.name)
        fun related isRelated => ?_
      have foundRelated := Document.targetOf_eq_ok_iff.mp isRelated
      refine resolves_bind (resolves_of _) fun _ _ => ?_
      refine resolves_bind (resolves_of _) fun _ _ => ?_
      refine resolves_bind (resolves_columnsOf
        (closed.hasFields_relationToFields isOther foundRelated))
        fun _ _ => ?_
      refine resolves_bind (resolves_columnsOf
        (closed.hasFields_relationToFields isBack found)) fun _ _ => ?_
      exact resolves_pure _

theorem resolves_inferList
    (closed : model.ClosedIn document)
    (targetClosed : target.ClosedIn document)
    {back : Field}
    (isBack : back ∈ target.relationFields)
    (found : document.model? back.typeName = some model)
    (field : Field)
    (directives : Directive.Set)
    (name : String) :
    (inferList document model field target back directives name).Resolves
      document := by
  refine resolves_ite (fun _ => ?_) fun _ => ?_
  · exact resolves_map some (resolves_implicitManyToMany closed
      targetClosed field back directives name)
  refine resolves_bind (resolves_explicitManyToMany? targetClosed isBack
    found field directives name) fun explicit _ => ?_
  cases explicit with
  | some relation => exact resolves_pure _
  | none =>
      refine resolves_ite (fun _ => ?_) fun _ => resolves_pure none
      exact resolves_map some
        (resolves_hasRelation targetClosed isBack found .hasMany field name)

theorem resolves_inferSingle
    (closed : model.ClosedIn document)
    (targetClosed : target.ClosedIn document)
    {field : Field}
    (member : field ∈ model.relationFields)
    (isTarget : document.model? field.typeName = some target)
    {counterpart : Option Field}
    (pointsBack :
      ∀ back, counterpart = some back →
        back ∈ target.relationFields ∧
          document.model? back.typeName = some model)
    (name : String) :
    (inferSingle model field target counterpart name).Resolves
      document := by
  refine resolves_ite (fun _ => ?_) fun _ => ?_
  · exact resolves_map some
      (resolves_belongsToRelation closed member isTarget name)
  cases counterpart with
  | none => exact resolves_pure none
  | some back =>
      obtain ⟨isBack, found⟩ := pointsBack back rfl
      refine resolves_ite (fun _ => ?_) fun _ => resolves_pure none
      exact resolves_map some
        (resolves_hasRelation targetClosed isBack found _ field name)

end Closed

section Document

variable {document : Document}
variable (closed : document.Closed)

include closed

/-- A counterpart is a field of the target that leads back to the model. -/
theorem pointsBack_of_counterpart?
    {model target : Model}
    (inDocument : model ∈ document.models)
    {field back : Field}
    (found : counterpart? model field target = some back) :
    back ∈ target.relationFields ∧
      document.model? back.typeName = some model := by
  obtain ⟨isBack, _, leads, _⟩ := counterpart?_eq_some found
  exact ⟨isBack, leads ▸ closed.model?_eq_some inDocument⟩

theorem resolves_inferField
    (options : Options)
    {model : Model}
    (inDocument : model ∈ document.models)
    {field : Field}
    (member : field ∈ model.relationFields)
    (directives : Directive.Set) :
    (inferField options document model field directives).Resolves
      document := by
  have modelClosed := closed.model model inDocument
  refine resolves_bind (resolves_targetOf modelClosed member model.name)
    fun target isTarget => ?_
  have found := Document.targetOf_eq_ok_iff.mp isTarget
  have targetClosed :=
    closed.model target (Document.mem_of_model? found).1
  refine resolves_ite (fun _ => resolves_of _) fun _ => ?_
  refine resolves_ite (fun _ => ?_) fun _ => ?_
  · cases isCounterpart : counterpart? model field target with
    | none => exact resolves_pure none
    | some back =>
        obtain ⟨isBack, leads⟩ :=
          pointsBack_of_counterpart? closed inDocument isCounterpart
        exact resolves_inferList modelClosed targetClosed isBack leads field
          directives _
  · exact resolves_inferSingle modelClosed targetClosed member found
      (fun _ => pointsBack_of_counterpart? closed inDocument) _

theorem resolves_candidates
    (options : Options)
    {model : Model}
    (inDocument : model ∈ document.models) :
    (candidates options document model).Resolves document := by
  have modelClosed := closed.model model inDocument
  have fields :
      ∀ field ∈ model.relationFields,
        (inferDocumented options document model field).Resolves document := by
    intro field member
    refine resolves_bind (resolves_of _) fun directives _ => ?_
    refine resolves_ite (fun _ => resolves_pure none) fun _ => ?_
    exact resolves_inferField closed options inDocument member directives
  have children : (detectMorphTo options model).Resolves document := by
    refine resolves_ite (fun _ => resolves_pure _) fun _ => ?_
    refine resolves_bind (resolves_mapM fun relation isOwning => ?_)
      fun _ _ => resolves_pure _
    exact resolves_columnsOf (modelClosed.hasFields_relationFromFields
      (model.owningRelations_subset isOwning))
  have owners :
      ∀ morph,
        (ownerMorph options document model morph).Resolves document := by
    intro morph
    refine resolves_bind (resolves_of _) fun _ _ => ?_
    exact resolves_bind (resolves_primaryKeyColumns modelClosed)
      fun _ _ => resolves_pure _
  refine resolves_bind (resolves_mapM fields) fun _ _ => ?_
  refine resolves_bind children fun _ _ => ?_
  refine resolves_bind (resolves_of _) fun directives _ => ?_
  exact resolves_bind (resolves_mapM fun morph _ => owners morph)
    fun _ _ => resolves_pure _

/-- In a closed document the inference looks up nothing in vain. -/
theorem resolves_inferModel (options : Options) (name : String) :
    (inferModel options document name).Resolves document := by
  refine resolves_bind (resolves_of _) fun model required => ?_
  have found := Document.requireModel_eq_ok_iff.mp required
  refine resolves_bind ?_ fun _ _ => resolves_pure _
  exact resolves_candidates closed options (Document.mem_of_model? found).1

end Document

end Tablewright.Traced
