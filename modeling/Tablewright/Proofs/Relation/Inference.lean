import Tablewright.Relation.Inference
import Tablewright.Proofs.Failure
import Tablewright.Proofs.Schema.Closed

namespace Tablewright.Relation

/-!
# Where relations come from

Only a list field whose counterpart is a list, with a key on neither side,
becomes a relation through a conventional junction table.  Everything about
the table follows from the two models: its name, its key columns and the
columns that these refer to.  A list field may lead through a junction model
if its counterpart owns one of the two keys of that model.
-/

open Schema

/-- A relation goes through a junction table that has no model. -/
def Definition.Through
    (relation : Definition)
    (junction : Junction) : Prop :=
  relation.kind = .belongsToManyImplicit ∧
    relation.junction = some junction

/-- A relation of a model through the conventional junction table to a
target. -/
def Definition.Joins
    (relation : Definition)
    (model target : Model) : Prop :=
  ∃ field counterpart directives name,
    relation =
      implicitManyToMany model field target counterpart directives name

/-! ## Fields -/

theorem explicitManyToMany?_kind
    {document : Document}
    {model pivot : Model}
    {field back : Field}
    {directives : Directive.Set}
    {name : String}
    {relation : Definition}
    (inferred :
      explicitManyToMany? document model field pivot back directives name =
        .ok (some relation)) :
    relation.kind = .belongsToManyExplicit := by
  unfold explicitManyToMany? at inferred
  split at inferred
  · cases inferred
  · obtain ⟨_, _, inferred⟩ := Outcome.bind_eq_ok_iff.mp inferred
    obtain ⟨_, _, inferred⟩ := Outcome.bind_eq_ok_iff.mp inferred
    obtain ⟨_, _, inferred⟩ := Outcome.bind_eq_ok_iff.mp inferred
    obtain rfl := Option.some.inj (Except.ok.inj inferred)
    rfl

theorem joins_of_inferList
    {document : Document}
    {model target : Model}
    {field counterpart : Field}
    {directives : Directive.Set}
    {name : String}
    {relation : Definition}
    (inferred :
      inferList document model field target counterpart directives name =
        .ok (some relation))
    (implicit : relation.kind = .belongsToManyImplicit) :
    relation.Joins model target := by
  unfold inferList at inferred
  split at inferred
  · obtain rfl := Option.some.inj (Except.ok.inj inferred)
    exact ⟨field, counterpart, directives, name, rfl⟩
  · obtain ⟨explicit, isExplicit, inferred⟩ :=
      Outcome.bind_eq_ok_iff.mp inferred
    cases explicit with
    | some found =>
        obtain rfl := Option.some.inj (Except.ok.inj inferred)
        rw [explicitManyToMany?_kind isExplicit] at implicit
        cases implicit
    | none =>
        simp only at inferred
        split at inferred
        · obtain rfl := Option.some.inj (Except.ok.inj inferred)
          cases implicit
        · cases inferred

theorem inferSingle_kind
    {model target : Model}
    {field : Field}
    {counterpart : Option Field}
    {name : String}
    {relation : Definition}
    (inferred :
      inferSingle model field target counterpart name = some relation) :
    relation.kind ≠ .belongsToManyImplicit := by
  unfold inferSingle at inferred
  split at inferred
  · obtain rfl := Option.some.inj inferred
    exact Kind.noConfusion
  · split at inferred
    · split at inferred
      · obtain rfl := Option.some.inj inferred
        simp only [hasRelation]
        split <;> exact Kind.noConfusion
      · cases inferred
    · cases inferred

theorem joins_of_inferField
    {options : Options}
    {document : Document}
    {model : Model}
    {field : Field}
    {directives : Directive.Set}
    {relation : Definition}
    (inferred :
      inferField options document model field directives =
        .ok (some relation))
    (implicit : relation.kind = .belongsToManyImplicit) :
    ∃ target ∈ document.models, relation.Joins model target := by
  obtain ⟨target, isTarget, inferred⟩ :=
    Outcome.bind_eq_ok_iff.mp inferred
  have found := Document.targetOf_eq_ok_iff.mp isTarget
  refine ⟨target, (Document.mem_of_model? found).1, ?_⟩
  by_cases alone :
      (!field.isOwning && (counterpart? model field target).isNone) = true
  · simp only [alone, ↓reduceIte] at inferred
    cases inferred
  simp only [alone, Bool.false_eq_true, ↓reduceIte] at inferred
  by_cases isList : field.isList = true
  · simp only [isList, ↓reduceIte] at inferred
    split at inferred
    · exact joins_of_inferList inferred implicit
    · cases inferred
  · simp only [isList, Bool.false_eq_true, ↓reduceIte] at inferred
    exact (inferSingle_kind (Except.ok.inj inferred) implicit).elim

theorem joins_of_inferDocumented
    {options : Options}
    {document : Document}
    {model : Model}
    {field : Field}
    {relation : Definition}
    (inferred :
      inferDocumented options document model field = .ok (some relation))
    (implicit : relation.kind = .belongsToManyImplicit) :
    ∃ target ∈ document.models, relation.Joins model target := by
  obtain ⟨directives, _, inferred⟩ := Outcome.bind_eq_ok_iff.mp inferred
  split at inferred
  · cases inferred
  · exact joins_of_inferField inferred implicit

/-! ## Counterparts -/

/-- A counterpart is another relation field, which shares the name of the
relation and points back. -/
theorem counterpart?_eq_some
    {model target : Model}
    {field other : Field}
    (found : counterpart? model field target = some other) :
    other ∈ target.relationFields ∧
      other.relationName = field.relationName ∧
      other.typeName = model.name ∧
      (target.name = model.name → other.name ≠ field.name) := by
  have fits := List.find?_some found
  simp only [Bool.and_eq_true, beq_iff_eq, Bool.not_eq_true',
    Bool.and_eq_false_imp, beq_eq_false_iff_ne] at fits
  exact ⟨List.mem_of_find?_eq_some found, fits.1.1, fits.1.2, fits.2⟩

/-! ## Junction models -/

/-- What makes a model the junction that a list field leads through. -/
theorem junctionKeys?_eq_some_iff
    {model pivot : Model}
    {field back : Field}
    {keys : JunctionKeys} :
    junctionKeys? model field pivot back = some keys ↔
      (back.isOwning = true ∧ field.isOwning = false) ∧
        pivot.owningRelations.filter
            (fun key => key.name != back.name) =
          [keys.other] ∧
        (pivot.owningRelations.filter
            (fun key => key.typeName == model.name)).length =
          (if keys.other.typeName = model.name then 2 else 1) ∧
        keys.backColumns = pivot.columnsOf back.relationFromFields ∧
        keys.otherColumns =
          pivot.columnsOf keys.other.relationFromFields ∧
        (∀ column ∈ keys.backColumns, column ∉ keys.otherColumns) ∧
        ∃ columns ∈ pivot.uniqueSets,
          Text.sortedDistinct columns =
            Text.sortedDistinct
              (keys.backColumns ++ keys.otherColumns) := by
  obtain ⟨other, backColumns, otherColumns⟩ := keys
  unfold junctionKeys?
  rw [Option.ite_none_left_eq_some]
  refine and_congr (by simp) ?_
  simp only
  split
  · rename_i only isOnly
    simp only [Option.ite_none_left_eq_some, Option.ite_none_right_eq_some,
      Option.some.injEq, JunctionKeys.mk.injEq, isOnly, List.cons.injEq,
      and_true]
    constructor
    · rintro ⟨counted, disjoint, unique, rfl, rfl, rfl⟩
      exact ⟨rfl, by simpa using counted, rfl, rfl, by simpa using disjoint,
        by simpa using unique⟩
    · rintro ⟨rfl, counted, rfl, rfl, disjoint, unique⟩
      exact ⟨by simpa using counted, by simpa using disjoint,
        by simpa using unique, rfl, rfl, rfl⟩
  · rename_i several
    constructor
    · intro found
      cases found
    · rintro ⟨isOnly, _⟩
      exact (several _ isOnly).elim

/-- The only key of a kind is one of the relation fields. -/
theorem mem_relationFields_of_filter
    {pivot : Model}
    {isKind : Field → Bool}
    {only : Field}
    (found : pivot.owningRelations.filter isKind = [only]) :
    only ∈ pivot.relationFields := by
  have picked : only ∈ pivot.owningRelations.filter isKind :=
    found ▸ List.mem_singleton_self only
  exact pivot.owningRelations_subset (List.mem_filter.mp picked).1

/-! ## Models -/

/-- What the child side of a discriminator pair is made of. -/
theorem eq_of_mem_detectMorphTo
    {options : Options}
    {model : Model}
    {relation : Definition}
    (member : relation ∈ detectMorphTo options model) :
    ∃ base column,
      relation =
        { name := Naming.camel base
          kind := .morphTo
          discriminator :=
            some ⟨base, column, base ++ options.morphTypeEnding⟩ } := by
  unfold detectMorphTo at member
  split at member
  · cases member
  · obtain ⟨column, _, detected⟩ := List.mem_filterMap.mp member
    unfold morphToOf? at detected
    split at detected
    · cases detected
    · rename_i base _
      simp only at detected
      split at detected
      · cases detected
      · exact ⟨base, column, (Option.some.inj detected).symm⟩

/-- What an owning side is made of. -/
theorem eq_of_ownerMorph
    {options : Options}
    {document : Document}
    {model : Model}
    {morph : Directive.Morph}
    {relation : Definition}
    (declared : ownerMorph options document model morph = .ok relation) :
    ∃ target,
      relation =
        { name := ownerAccessor morph target
          kind := morph.cardinality.relationKind
          target := some target.name
          foreignKeys := [(ownerDiscriminator options morph).idColumn]
          localKeys := model.primaryKeyColumns
          junction :=
            if morph.cardinality.relationKind.isPivot then
              some { table := morph.table.getD (Naming.pluralize morph.name) }
            else none
          discriminator := some (ownerDiscriminator options morph)
          chain := morph.chain } := by
  obtain ⟨target, _, declared⟩ := Outcome.bind_eq_ok_iff.mp declared
  exact ⟨target, (Except.ok.inj declared).symm⟩

theorem ownerMorph_kind
    {options : Options}
    {document : Document}
    {model : Model}
    {morph : Directive.Morph}
    {relation : Definition}
    (declared : ownerMorph options document model morph = .ok relation) :
    relation.kind ≠ .belongsToManyImplicit := by
  obtain ⟨target, rfl⟩ := eq_of_ownerMorph declared
  cases morph.cardinality <;> simp [Cardinality.relationKind]

theorem joins_of_mem_candidates
    {options : Options}
    {document : Document}
    {model : Model}
    {found : List Definition}
    (inferred : candidates options document model = .ok found)
    {relation : Definition}
    (member : relation ∈ found)
    (implicit : relation.kind = .belongsToManyImplicit) :
    ∃ target ∈ document.models, relation.Joins model target := by
  obtain ⟨fromFields, ofFields, inferred⟩ :=
    Outcome.bind_eq_ok_iff.mp inferred
  obtain ⟨directives, _, inferred⟩ := Outcome.bind_eq_ok_iff.mp inferred
  obtain ⟨owners, ofOwners, inferred⟩ :=
    Outcome.bind_eq_ok_iff.mp inferred
  obtain rfl := Except.ok.inj inferred
  simp only [List.mem_append, List.mem_filterMap, id] at member
  rcases member with (⟨_, ofField, rfl⟩ | detected) | owner
  · obtain ⟨field, _, fromField⟩ :=
      Outcome.exists_of_mem_mapM ofFields ofField
    exact joins_of_inferDocumented fromField implicit
  · obtain ⟨_, _, rfl⟩ := eq_of_mem_detectMorphTo detected
    cases implicit
  · obtain ⟨morph, _, declared⟩ := Outcome.exists_of_mem_mapM ofOwners owner
    exact (ownerMorph_kind declared implicit).elim

theorem Registry.mem_register
    {registry : Registry}
    {model : String}
    {added relation : Definition}
    (member : relation ∈ (registry.register model added).relations) :
    relation = added ∨ relation ∈ registry.relations := by
  unfold register at member
  split at member
  · exact Or.inr member
  · rcases List.mem_append.mp member with earlier | last
    · exact Or.inr earlier
    · exact Or.inl (List.mem_singleton.mp last)

/-- A registry holds nothing but candidates. -/
theorem Registry.mem_foldl_register
    {registry : Registry}
    {model : String}
    {found : List Definition}
    {relation : Definition}
    (member :
      relation ∈
        (found.foldl
          (fun registry relation => registry.register model relation)
          registry).relations) :
    relation ∈ found ∨ relation ∈ registry.relations := by
  induction found generalizing registry with
  | nil => exact Or.inr member
  | cons added rest inductionHypothesis =>
      rcases inductionHypothesis member with later | earlier
      · exact Or.inl (List.mem_cons_of_mem _ later)
      · rcases Registry.mem_register earlier with rfl | before
        · exact Or.inl List.mem_cons_self
        · exact Or.inr before

theorem joins_of_inferModel
    {options : Options}
    {document : Document}
    {name : String}
    {registry : Registry}
    (inferred : inferModel options document name = .ok registry)
    {relation : Definition}
    (member : relation ∈ registry.relations)
    (implicit : relation.kind = .belongsToManyImplicit) :
    ∃ model, document.model? name = some model ∧
      ∃ target ∈ document.models, relation.Joins model target := by
  obtain ⟨model, required, inferred⟩ := Outcome.bind_eq_ok_iff.mp inferred
  obtain ⟨found, isFound, inferred⟩ := Outcome.bind_eq_ok_iff.mp inferred
  obtain rfl := Except.ok.inj inferred
  rcases Registry.mem_foldl_register member with candidate | absent
  · exact ⟨model, Document.requireModel_eq_ok_iff.mp required,
      joins_of_mem_candidates isFound candidate implicit⟩
  · cases absent

/-! ## Sides of a junction table -/

/-- The key columns of a junction table for one side, with the columns and
the table that they refer to. -/
structure JunctionSide where
  columns : List String
  references : List String
  table : String
  deriving Repr, DecidableEq

/-- The two sides of the junction table of a relation. -/
def Junction.sides
    (junction : Junction)
    (relation : Definition)
    (ownTable relatedTable : String) : List JunctionSide :=
  [ ⟨junction.ownKeys, relation.localKeys, ownTable⟩,
    ⟨junction.relatedKeys, relation.foreignKeys, relatedTable⟩ ]

theorem Junction.flatMap_columns_sides
    (junction : Junction)
    (relation : Definition)
    (ownTable relatedTable : String) :
    (junction.sides relation ownTable relatedTable).flatMap
        JunctionSide.columns =
      junction.ownKeys ++ junction.relatedKeys := by
  simp [sides]

/-- The side of a model, with the columns that it usually has. -/
def plainSide (model : Model) : JunctionSide :=
  ⟨model.primaryKeyColumns.map (Naming.junctionKey model.name),
    model.primaryKeyColumns, model.tableName⟩

/-- The second side of a model that is related to itself. -/
def relatedSide (model : Model) : JunctionSide :=
  { plainSide model with columns := relatedColumns (plainSide model).columns }

/-- The sides of the junction table of two models. -/
def conventionalSides (model target : Model) : List JunctionSide :=
  if model.name = target.name then [plainSide model, relatedSide model]
  else [plainSide model, plainSide target]

theorem conventionalSides_comm
    {model target : Model}
    (same : model.name = target.name → model = target) :
    (conventionalSides target model).Perm
      (conventionalSides model target) := by
  by_cases named : model.name = target.name
  · obtain rfl := same named
    exact List.Perm.refl _
  · have renamed : target.name ≠ model.name := fun back =>
      named back.symm
    rw [conventionalSides, conventionalSides, if_neg named,
      if_neg renamed]
    exact List.Perm.swap _ _ _

namespace Definition.Joins

variable {relation : Definition} {model target : Model}

theorem target_eq
    (joins : relation.Joins model target) :
    relation.target = some target.name := by
  obtain ⟨field, counterpart, directives, name, rfl⟩ := joins
  rfl

theorem exists_junction
    (joins : relation.Joins model target) :
    ∃ junction,
      relation.junction = some junction ∧
        junction.table =
          Naming.junctionTable model.tableName target.tableName := by
  obtain ⟨field, counterpart, directives, name, rfl⟩ := joins
  exact ⟨_, rfl, rfl⟩

theorem keys_eq
    (joins : relation.Joins model target) :
    relation.localKeys = model.primaryKeyColumns ∧
      relation.foreignKeys = target.primaryKeyColumns := by
  obtain ⟨field, counterpart, directives, name, rfl⟩ := joins
  exact ⟨rfl, rfl⟩

/-- There is a key column for each key column of the model, and one for each
of the target. -/
theorem length_eq
    (joins : relation.Joins model target)
    {junction : Junction}
    (through : relation.junction = some junction) :
    junction.ownKeys.length = relation.localKeys.length ∧
      junction.relatedKeys.length = relation.foreignKeys.length := by
  obtain ⟨field, counterpart, directives, name, rfl⟩ := joins
  obtain rfl := Option.some.inj through
  simp only [implicitManyToMany, implicitKeys]
  split
  · split
    · simp [relatedColumns]
    · simp [relatedColumns]
  · simp

/-- Models with a primary key have columns in a junction table. -/
theorem columns_ne_nil
    (joins : relation.Joins model target)
    {junction : Junction}
    (through : relation.junction = some junction)
    (hasKey : model.primaryKeyColumns ≠ [])
    (targetHasKey : target.primaryKeyColumns ≠ [])
    {ownTable relatedTable : String} :
    ∀ side ∈ junction.sides relation ownTable relatedTable,
      side.columns ≠ [] := by
  obtain ⟨ownLength, relatedLength⟩ := joins.length_eq through
  rw [joins.keys_eq.1] at ownLength
  rw [joins.keys_eq.2] at relatedLength
  intro side member
  rcases List.mem_pair.mp member with rfl | rfl
  · exact List.ne_nil_of_length_pos
      (ownLength ▸ List.length_pos_of_ne_nil hasKey)
  · exact List.ne_nil_of_length_pos
      (relatedLength ▸ List.length_pos_of_ne_nil targetHasKey)

/-- Up to their order, the sides of a junction table depend on the models
only. -/
theorem sides_perm
    (joins : relation.Joins model target)
    (same : model.name = target.name → model = target)
    {junction : Junction}
    (through : relation.junction = some junction) :
    (junction.sides relation model.tableName target.tableName).Perm
      (conventionalSides model target) := by
  obtain ⟨field, counterpart, directives, name, rfl⟩ := joins
  obtain rfl := Option.some.inj through
  by_cases named : model.name = target.name
  · obtain rfl := same named
    by_cases ordered : counterpart.name < field.name
    · simp only [Junction.sides, implicitManyToMany, implicitKeys,
        ordered, ↓reduceIte, conventionalSides]
      exact List.Perm.swap _ _ _
    · simp only [Junction.sides, implicitManyToMany, implicitKeys,
        ordered, ↓reduceIte, conventionalSides]
      exact List.Perm.refl _
  · simp only [Junction.sides, implicitManyToMany, implicitKeys, named,
      ↓reduceIte, conventionalSides]
    exact List.Perm.refl _

end Definition.Joins

end Tablewright.Relation
