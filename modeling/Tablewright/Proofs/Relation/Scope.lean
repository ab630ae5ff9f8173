import Tablewright.Proofs.Relation.Inference

namespace Tablewright.Relation

/-!
# Relation fields that the models leave out

A registry keeps the first candidate with each accessor name.  A field that
is silent in the models has no candidate.  A local field has one like any
other field: nothing in the inference looks at the scope of a local field.
-/

open Schema

/-- An item of a list that has nothing but items of some kind before it. -/
def Behind {α : Type} (kind : α → Prop) (item : α) (items : List α) :
    Prop :=
  ∃ before after,
    items = before ++ item :: after ∧ ∀ earlier ∈ before, kind earlier

namespace Behind

variable {α : Type} {kind : α → Prop} {item : α}

theorem mem
    {items : List α}
    (behind : Behind kind item items) :
    item ∈ items := by
  obtain ⟨before, after, rfl, _⟩ := behind
  exact List.mem_append_right before List.mem_cons_self

theorem not_nil : ¬Behind kind item [] := fun behind =>
  List.not_mem_nil behind.mem

theorem cons_iff
    {first : α}
    {rest : List α} :
    Behind kind item (first :: rest) ↔
      first = item ∨ kind first ∧ Behind kind item rest := by
  constructor
  · rintro ⟨before, after, shape, kinds⟩
    cases before with
    | nil => exact Or.inl (List.cons.inj shape).1
    | cons head others =>
        obtain ⟨rfl, restShape⟩ := List.cons.inj shape
        exact Or.inr ⟨kinds _ List.mem_cons_self, others, after, restShape,
          fun earlier member => kinds earlier (List.mem_cons_of_mem _ member)⟩
  · rintro (rfl | ⟨isKind, before, after, rfl, kinds⟩)
    · exact ⟨[], rest, rfl, fun _ absent =>
        (List.not_mem_nil absent).elim⟩
    · exact ⟨first :: before, after, rfl,
        List.forall_mem_cons.mpr ⟨isKind, kinds⟩⟩

/-- Whatever is appended stands behind all items. -/
theorem append_iff_of_not_mem
    {items others : List α}
    (elsewhere : item ∉ others) :
    Behind kind item (items ++ others) ↔ Behind kind item items := by
  induction items with
  | nil =>
      exact ⟨fun behind => (elsewhere behind.mem).elim,
        fun behind => (not_nil behind).elim⟩
  | cons first rest inductionHypothesis =>
      rw [List.cons_append, cons_iff, cons_iff, inductionHypothesis]

/-- The results of steps for the items of a list stand in the order of the
items. -/
theorem filterMap_iff_of_forall₂
    {β : Type}
    {step : β → Outcome (Option α)}
    {inputs : List β}
    {results : List (Option α)}
    (related :
      List.Forall₂ (fun input result => step input = .ok result)
        inputs results) :
    Behind kind item (results.filterMap id) ↔
      ∃ input,
        step input = .ok (some item) ∧
          Behind
            (fun earlier =>
              ∀ other, step earlier = .ok (some other) → kind other)
            input inputs := by
  induction related with
  | nil =>
      exact ⟨fun behind => (not_nil behind).elim,
        fun ⟨_, _, behind⟩ => (not_nil behind).elim⟩
  | @cons input result inputs results made _ inductionHypothesis =>
      cases result with
      | none =>
          rw [List.filterMap_cons_none (by rfl), inductionHypothesis]
          refine exists_congr fun other => and_congr_right fun isItem => ?_
          have apart : input ≠ other := by
            rintro rfl
            simp [made] at isItem
          simp [cons_iff, apart, made]
      | some first =>
          rw [List.filterMap_cons_some (by rfl), cons_iff,
            inductionHypothesis]
          have isKind :
              (∀ other, step input = .ok (some other) → kind other) ↔
                kind first := by
            simp [made]
          constructor
          · rintro (rfl | ⟨firstKind, other, isItem, behind⟩)
            · exact ⟨input, made, cons_iff.mpr (Or.inl rfl)⟩
            · exact ⟨other, isItem,
                cons_iff.mpr (Or.inr ⟨isKind.mpr firstKind, behind⟩)⟩
          · rintro ⟨other, isItem, behind⟩
            rcases cons_iff.mp behind with rfl | ⟨inputKind, behind⟩
            · rw [made] at isItem
              exact Or.inl (Option.some.inj (Except.ok.inj isItem))
            · exact Or.inr ⟨isKind.mp inputKind, other, isItem, behind⟩

end Behind

/-! ## Registries -/

namespace Registry

variable {registry : Registry} {model : String}

theorem mem_register_iff
    {added relation : Definition} :
    relation ∈ (registry.register model added).relations ↔
      relation ∈ registry.relations ∨
        registry.contains added.name = false ∧ added = relation := by
  unfold register
  split
  · rename_i taken
    simp [taken]
  · rename_i free
    simp [free, eq_comm]

theorem contains_register_eq_false_iff
    {added : Definition}
    {name : String} :
    (registry.register model added).contains name = false ↔
      registry.contains name = false ∧ added.name ≠ name := by
  unfold register
  split
  · rename_i taken
    refine ⟨fun free => ⟨free, ?_⟩, And.left⟩
    rintro rfl
    exact Bool.false_ne_true (free.symm.trans taken)
  · simp [contains, get?, List.find?_append]

/-- A registry holds the first candidate with each accessor name. -/
theorem mem_foldl_register_iff
    {found : List Definition}
    {relation : Definition} :
    relation ∈
        (found.foldl
          (fun registry relation => registry.register model relation)
          registry).relations ↔
      relation ∈ registry.relations ∨
        registry.contains relation.name = false ∧
          Behind (fun earlier => earlier.name ≠ relation.name) relation
            found := by
  induction found generalizing registry with
  | nil =>
      exact ⟨Or.inl, fun given =>
        given.elim id fun ⟨_, behind⟩ => (Behind.not_nil behind).elim⟩
  | cons added rest inductionHypothesis =>
      rw [List.foldl_cons, inductionHypothesis, Behind.cons_iff,
        mem_register_iff, contains_register_eq_false_iff]
      constructor
      · rintro ((held | ⟨free, rfl⟩) | ⟨⟨free, apart⟩, behind⟩)
        · exact Or.inl held
        · exact Or.inr ⟨free, Or.inl rfl⟩
        · exact Or.inr ⟨free, Or.inr ⟨apart, behind⟩⟩
      · rintro (held | ⟨free, rfl | ⟨apart, behind⟩⟩)
        · exact Or.inl (Or.inl held)
        · exact Or.inl (Or.inr ⟨free, rfl⟩)
        · exact Or.inr ⟨⟨free, apart⟩, behind⟩

end Registry

/-! ## Where a candidate stems from -/

theorem field_detectMorphTo
    {options : Options}
    {model : Model}
    {relation : Definition}
    (member : relation ∈ detectMorphTo options model) :
    relation.field = none := by
  obtain ⟨_, _, rfl⟩ := eq_of_mem_detectMorphTo member
  rfl

theorem field_ownerMorph
    {options : Options}
    {document : Document}
    {model : Model}
    {morph : Directive.Morph}
    {relation : Definition}
    (declared : ownerMorph options document model morph = .ok relation) :
    relation.field = none := by
  obtain ⟨_, rfl⟩ := eq_of_ownerMorph declared
  rfl

theorem field_inferList
    {document : Document}
    {model target : Model}
    {field counterpart : Field}
    {directives : Directive.Set}
    {name : String}
    {relation : Definition}
    (inferred :
      inferList document model field target counterpart directives name =
        .ok (some relation)) :
    relation.field = some field.name := by
  unfold inferList at inferred
  split at inferred
  · obtain rfl := Option.some.inj (Except.ok.inj inferred)
    rfl
  · obtain ⟨explicit, isExplicit, inferred⟩ :=
      Outcome.bind_eq_ok_iff.mp inferred
    cases explicit with
    | some found =>
        obtain rfl := Option.some.inj (Except.ok.inj inferred)
        unfold explicitManyToMany? at isExplicit
        split at isExplicit
        · cases isExplicit
        · obtain ⟨_, _, isExplicit⟩ := Outcome.bind_eq_ok_iff.mp isExplicit
          obtain ⟨_, _, isExplicit⟩ := Outcome.bind_eq_ok_iff.mp isExplicit
          obtain ⟨_, _, isExplicit⟩ := Outcome.bind_eq_ok_iff.mp isExplicit
          obtain rfl := Option.some.inj (Except.ok.inj isExplicit)
          rfl
    | none =>
        simp only at inferred
        split at inferred
        · obtain rfl := Option.some.inj (Except.ok.inj inferred)
          rfl
        · cases inferred

theorem field_inferSingle
    {model target : Model}
    {field : Field}
    {counterpart : Option Field}
    {name : String}
    {relation : Definition}
    (inferred :
      inferSingle model field target counterpart name = some relation) :
    relation.field = some field.name := by
  unfold inferSingle at inferred
  split at inferred
  · obtain rfl := Option.some.inj inferred
    rfl
  · split at inferred
    · split at inferred
      · obtain rfl := Option.some.inj inferred
        rfl
      · cases inferred
    · cases inferred

/-- The relation of a field names the field as its source. -/
theorem field_inferField
    {options : Options}
    {document : Document}
    {model : Model}
    {field : Field}
    {directives : Directive.Set}
    {relation : Definition}
    (inferred :
      inferField options document model field directives =
        .ok (some relation)) :
    relation.field = some field.name := by
  obtain ⟨target, _, inferred⟩ := Outcome.bind_eq_ok_iff.mp inferred
  simp only at inferred
  split at inferred
  · cases inferred
  · split at inferred
    · split at inferred
      · exact field_inferList inferred
      · cases inferred
    · exact field_inferSingle (Except.ok.inj inferred)

/-- Whether a field is local makes no difference to its relation. -/
theorem inferField_localScope
    (options : Options)
    (document : Document)
    (model : Model)
    (field : Field)
    (directives : Directive.Set)
    (scope : Option Directive.Scope) :
    inferField options document model field
        { directives with localScope := scope } =
      inferField options document model field directives :=
  rfl

theorem inferDocumented_eq_ok_some_iff
    {options : Options}
    {document : Document}
    {model : Model}
    {field : Field}
    {relation : Definition} :
    inferDocumented options document model field = .ok (some relation) ↔
      ∃ directives,
        Directive.Set.ofDocumentation field.documentation =
            .ok directives ∧
          directives.silentInModels = false ∧
          inferField options document model field directives =
            .ok (some relation) := by
  unfold inferDocumented
  rw [Outcome.bind_eq_ok_iff]
  refine exists_congr fun directives => and_congr_right fun _ => ?_
  cases directives.silentInModels with
  | true => simp [pure, Except.pure]
  | false => simp

/-! ## Sources -/

variable {options : Options} {document : Document} {name : String}
variable {model : Model} {registry : Registry}

/-- A registry holds the first relation with each accessor name that a field
gives rise to. -/
theorem mem_inferModel_iff
    (found : document.model? name = some model)
    (inferred : inferModel options document name = .ok registry)
    {relation : Definition}
    (sourced : relation.field ≠ none) :
    relation ∈ registry.relations ↔
      ∃ field,
        inferDocumented options document model field =
            .ok (some relation) ∧
          Behind
            (fun earlier =>
              ∀ other,
                inferDocumented options document model earlier =
                    .ok (some other) →
                  other.name ≠ relation.name)
            field model.relationFields := by
  obtain ⟨sameModel, required, inferred⟩ :=
    Outcome.bind_eq_ok_iff.mp inferred
  rw [Document.requireModel_eq_ok_iff, found] at required
  obtain rfl := Option.some.inj required
  obtain ⟨all, areAll, inferred⟩ := Outcome.bind_eq_ok_iff.mp inferred
  obtain rfl := Except.ok.inj inferred
  obtain ⟨fromFields, ofFields, areAll⟩ :=
    Outcome.bind_eq_ok_iff.mp areAll
  obtain ⟨directives, _, areAll⟩ := Outcome.bind_eq_ok_iff.mp areAll
  obtain ⟨owners, ofOwners, areAll⟩ := Outcome.bind_eq_ok_iff.mp areAll
  obtain rfl := Except.ok.inj areAll
  have elsewhere : relation ∉ detectMorphTo options model ++ owners := by
    intro member
    rcases List.mem_append.mp member with detected | owner
    · exact sourced (field_detectMorphTo detected)
    · obtain ⟨morph, _, declared⟩ :=
        Outcome.exists_of_mem_mapM ofOwners owner
      exact sourced (field_ownerMorph declared)
  rw [Registry.mem_foldl_register_iff, List.append_assoc,
    Behind.append_iff_of_not_mem elsewhere,
    Behind.filterMap_iff_of_forall₂ (Outcome.mapM_eq_ok_iff.mp ofFields)]
  simp [Registry.contains, Registry.get?]

/--
A model gets a relation from one of its fields: the models do not leave the
field out, the field gives rise to the relation whether it is local or not,
and no field before it gives rise to a relation with the same accessor name.
-/
structure Contributes
    (options : Options)
    (document : Document)
    (model : Model)
    (field : Field)
    (relation : Definition) : Prop where
  first :
    Behind
      (fun earlier =>
        ∀ other,
          inferDocumented options document model earlier =
              .ok (some other) →
            other.name ≠ relation.name)
      field model.relationFields
  shown :
    ∃ directives,
      Directive.Set.ofDocumentation field.documentation = .ok directives ∧
        directives.silentInModels = false ∧
        ∀ scope,
          inferField options document model field
              { directives with localScope := scope } =
            .ok (some relation)

/--
The fields that the relations of a model stem from are exactly those that
contribute one.  A field that is silent in the models is not among them, and
whether a field is local in the models is never asked.
-/
theorem inferModel_source_iff
    (found : document.model? name = some model)
    (inferred : inferModel options document name = .ok registry)
    (source : String) :
    (∃ relation ∈ registry.relations, relation.field = some source) ↔
      ∃ field relation,
        field.name = source ∧
          Contributes options document model field relation := by
  constructor
  · rintro ⟨relation, member, isSource⟩
    have sourced : relation.field ≠ none := by simp [isSource]
    obtain ⟨field, documented, first⟩ :=
      (mem_inferModel_iff found inferred sourced).mp member
    obtain ⟨directives, read, shown, ofField⟩ :=
      inferDocumented_eq_ok_some_iff.mp documented
    refine ⟨field, relation, ?_, first, directives, read, shown,
      fun _ => ofField⟩
    exact Option.some.inj ((field_inferField ofField).symm.trans isSource)
  · rintro ⟨field, relation, rfl, first, directives, read, shown, ofField⟩
    have isSource : relation.field = some field.name :=
      field_inferField (ofField directives.localScope)
    have sourced : relation.field ≠ none := by simp [isSource]
    refine ⟨relation, (mem_inferModel_iff found inferred sourced).mpr
      ⟨field, ?_, first⟩, isSource⟩
    exact inferDocumented_eq_ok_some_iff.mpr
      ⟨directives, read, shown, ofField directives.localScope⟩

/-! ## Drafts with their authors -/

/-- The author of a draft, which is to be local to the migrations. -/
def draftAuthor : Field :=
  ((Field.relation "author" "User").references ["authorId"]
    ["id"]).withDocumentation "@local(models)"

/-- The editor of a draft, whom the models leave out. -/
def draftEditor : Field :=
  (((Field.relation "editor" "User").references ["editorId"]
    ["id"]).inRelation "edits").withDocumentation "@silent(models)"

def draftModel : Model :=
  { name := "Draft"
    fields :=
      [ .autoincrementId, .scalar "authorId" "Int", draftAuthor,
        .scalar "editorId" "Int", draftEditor ] }

/-- Drafts with an author, who is local in the models, and an editor, who is
silent there. -/
def draftDocument : Document :=
  { models :=
      [ draftModel,
        { name := "User"
          fields :=
            [ .autoincrementId, (Field.relation "drafts" "Draft").list,
              ((Field.relation "edits" "Draft").list).inRelation
                "edits" ] } ] }

/-- A draft has a relation to its author, who is local in the models, and none
to its editor, who is silent there. -/
theorem inferModel_source_iff_draft :
    draftDocument.validate.errors = [] ∧
      draftDocument.model? "Draft" = some draftModel ∧
      ∃ registry,
        inferModel {} draftDocument "Draft" = .ok registry ∧
          (∃ relation ∈ registry.relations,
            relation.field = some "author") ∧
          ¬∃ relation ∈ registry.relations,
            relation.field = some "editor" := by
  have found : draftDocument.model? "Draft" = some draftModel := by
    decide +kernel
  have succeeds :
      (inferModel {} draftDocument "Draft").map (fun _ => ()) =
        .ok () := by
    decide +kernel
  have authored :
      (Directive.Set.ofDocumentation draftAuthor.documentation >>=
          fun directives =>
            inferField {} draftDocument draftModel draftAuthor
              directives).map Option.isSome =
        .ok true := by
    decide +kernel
  have authorShown :
      (Directive.Set.ofDocumentation draftAuthor.documentation).map
          Directive.Set.silentInModels =
        .ok false := by
    decide +kernel
  have editorSilent :
      (Directive.Set.ofDocumentation draftEditor.documentation).map
          Directive.Set.silentInModels =
        .ok true := by
    decide +kernel
  obtain ⟨registry, inferred, _⟩ := Outcome.map_eq_ok_iff.mp succeeds
  have sourceIff := inferModel_source_iff found inferred
  refine ⟨by decide +kernel, found, registry, inferred, ?_, ?_⟩
  · obtain ⟨inferredAuthor, made, isSome⟩ :=
      Outcome.map_eq_ok_iff.mp authored
    obtain ⟨relation, rfl⟩ := Option.isSome_iff_exists.mp isSome
    obtain ⟨directives, read, made⟩ := Outcome.bind_eq_ok_iff.mp made
    rw [read] at authorShown
    refine (sourceIff "author").mpr
      ⟨draftAuthor, relation, rfl, ?_, directives, read,
        Except.ok.inj authorShown, fun _ => made⟩
    exact ⟨[], [draftEditor], rfl, fun _ absent =>
      (List.not_mem_nil absent).elim⟩
  · intro hasSource
    obtain ⟨field, relation, named, first, directives, read, shown, _⟩ :=
      (sourceIff "editor").mp hasSource
    have listed : field ∈ [draftAuthor, draftEditor] := first.mem
    rcases List.mem_pair.mp listed with rfl | rfl
    · exact absurd named (by decide)
    · rw [read] at editorSilent
      exact Bool.false_ne_true
        (shown.symm.trans (Except.ok.inj editorSilent))

/-- A field that is local in the models may still be the source of a relation:
some valid document has such a field. -/
theorem exists_local_source :
    ∃ document : Document, ∃ model ∈ document.models,
    ∃ field ∈ model.relationFields, ∃ directives registry,
      document.validate.errors = [] ∧
        Directive.Set.ofDocumentation field.documentation =
          .ok directives ∧
        directives.localInModels = true ∧
        inferModel {} document model.name = .ok registry ∧
        ∃ relation ∈ registry.relations,
          relation.field = some field.name := by
  have read :
      (Directive.Set.ofDocumentation draftAuthor.documentation).map
          Directive.Set.localInModels =
        .ok true := by
    decide +kernel
  have sources :
      (inferModel {} draftDocument draftModel.name).map
          (fun registry => registry.relations.map Definition.field) =
        .ok [some draftAuthor.name] := by
    decide +kernel
  obtain ⟨directives, read, isLocal⟩ := Outcome.map_eq_ok_iff.mp read
  obtain ⟨registry, inferred, sources⟩ := Outcome.map_eq_ok_iff.mp sources
  refine ⟨draftDocument, draftModel, by decide, draftAuthor, by decide,
    directives, registry, by decide +kernel, read, isLocal, inferred,
    List.mem_map.mp ?_⟩
  rw [sources]
  exact List.mem_singleton_self _

end Tablewright.Relation
