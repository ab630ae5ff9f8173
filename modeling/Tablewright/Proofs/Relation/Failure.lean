import Tablewright.Proofs.Relation.Inference
import Tablewright.Proofs.Schema.Closed

namespace Tablewright.Relation

/-!
# Why relations cannot be inferred

In a closed document every look-up of the inference succeeds, junction models
included.  What is left are the two contradictions that validation does not
look for: a relation field without a counterpart, and a polymorphic relation
that is declared towards a model which does not exist.
-/

open Schema

/-- A contradiction that keeps the relations of a closed document from being
inferred. -/
inductive Unrelated (document : Document) : Failure → Prop
  /-- A relation field has neither a key nor a counterpart. -/
  | noCounterpart
      {model target : Model}
      {field : Field}
      {directives : Directive.Set}
      (inDocument : model ∈ document.models)
      (member : field ∈ model.relationFields)
      (read :
        Directive.Set.ofDocumentation field.documentation =
          .ok directives)
      (shown : directives.silentInModels = false)
      (notOwning : field.isOwning = false)
      (found : document.model? field.typeName = some target)
      (alone : counterpart? model field target = none) :
      Unrelated document
        ((Inconsistency.noCounterpart field.name target.name).failure
          model.name)
  /-- A directive declares a relation to an unknown model. -/
  | unknownMorphTarget
      {model : Model}
      {directives : Directive.Set}
      {morph : Directive.Morph}
      (inDocument : model ∈ document.models)
      (read :
        Directive.Set.ofDocumentation model.documentation =
          .ok directives)
      (declared : morph ∈ directives.morphs)
      (unknown : document.model? morph.model = none) :
      Unrelated document
        ((Inconsistency.unknownMorphTarget morph.name morph.model).failure
          model.name)

/-! ## Polymorphic relations -/

variable {options : Options}
variable {document : Document}

theorem unrelated_of_ownerMorph
    {model : Model}
    (inDocument : model ∈ document.models)
    {directives : Directive.Set}
    (read :
      Directive.Set.ofDocumentation model.documentation = .ok directives)
    {morph : Directive.Morph}
    (declared : morph ∈ directives.morphs)
    {failure : Failure}
    (failed : ownerMorph options document model morph = .error failure) :
    Unrelated document failure := by
  unfold ownerMorph Inconsistency.orFail at failed
  cases found : document.model? morph.model with
  | none =>
      simp only [found, bind, Except.bind] at failed
      obtain rfl := Except.error.inj failed
      exact .unknownMorphTarget inDocument read declared found
  | some target =>
      simp only [found, bind, Except.bind] at failed
      cases failed

/-! ## Junction models -/

theorem exists_extraColumns
    (keyColumns : List String)
    {columns : List Field}
    (readable :
      ∀ column ∈ columns, ∃ directives,
        Directive.Set.ofDocumentation column.documentation =
          .ok directives) :
    ∃ extra, extraColumns keyColumns columns = .ok extra := by
  induction columns with
  | nil => exact ⟨[], rfl⟩
  | cons column rest inductionHypothesis =>
      obtain ⟨directives, read⟩ := readable column List.mem_cons_self
      obtain ⟨others, areOthers⟩ :=
        inductionHypothesis fun other member =>
          readable other (List.mem_cons_of_mem _ member)
      rw [extraColumns, read, areOthers]
      simp only [bind, Except.bind]
      split
      · exact ⟨_, rfl⟩
      · exact ⟨_, rfl⟩

section Closed

variable (closed : document.Closed)

include closed

theorem exists_explicitManyToMany?
    (model : Model)
    (field : Field)
    {pivot : Model}
    (pivotIn : pivot ∈ document.models)
    (back : Field)
    (directives : Directive.Set)
    (name : String) :
    ∃ relation,
      explicitManyToMany? document model field pivot back directives name =
        .ok relation := by
  unfold explicitManyToMany?
  cases found : junctionKeys? model field pivot back with
  | none => exact ⟨none, rfl⟩
  | some keys =>
      obtain ⟨_, isOnly, _⟩ := junctionKeys?_eq_some_iff.mp found
      obtain ⟨related, isRelated⟩ :=
        (closed.model pivot pivotIn).exists_targetOf
          (mem_relationFields_of_filter isOnly) pivot.name
      obtain ⟨pivotDirectives, read⟩ :=
        closed.modelDocumentation pivot pivotIn
      have readable :
          ∀ column ∈ pivot.columns, ∃ directives,
            Directive.Set.ofDocumentation column.documentation =
              .ok directives :=
        fun column member =>
          closed.fieldDocumentation pivot pivotIn column
            (List.mem_filter.mp member).1
      obtain ⟨extra, isExtra⟩ :=
        exists_extraColumns (keys.backColumns ++ keys.otherColumns)
          readable
      simp only [isRelated, read, isExtra, bind, Except.bind]
      exact ⟨_, rfl⟩

theorem exists_inferList
    (model : Model)
    (field : Field)
    {target : Model}
    (targetIn : target ∈ document.models)
    (counterpart : Field)
    (directives : Directive.Set)
    (name : String) :
    ∃ relation,
      inferList document model field target counterpart directives name =
        .ok relation := by
  unfold inferList
  split
  · exact ⟨_, rfl⟩
  · obtain ⟨explicit, isExplicit⟩ :=
      exists_explicitManyToMany? closed model field targetIn counterpart
        directives name
    rw [isExplicit]
    cases explicit with
    | some relation => exact ⟨some relation, rfl⟩
    | none =>
        simp only [bind, Except.bind]
        split
        · exact ⟨_, rfl⟩
        · exact ⟨_, rfl⟩

/-! ## Relation fields -/

/-- Only the lack of a counterpart keeps a field from being judged. -/
theorem inferField_eq_error
    {model : Model}
    (inDocument : model ∈ document.models)
    {field : Field}
    (member : field ∈ model.relationFields)
    {directives : Directive.Set}
    {failure : Failure}
    (failed :
      inferField options document model field directives =
        .error failure) :
    ∃ target,
      document.model? field.typeName = some target ∧
        field.isOwning = false ∧
        counterpart? model field target = none ∧
        failure =
          (Inconsistency.noCounterpart field.name target.name).failure
            model.name := by
  obtain ⟨target, isTarget⟩ :=
    (closed.model model inDocument).exists_targetOf member model.name
  have found := Document.targetOf_eq_ok_iff.mp isTarget
  unfold inferField at failed
  simp only [isTarget, bind, Except.bind] at failed
  by_cases alone :
      (!field.isOwning && (counterpart? model field target).isNone) = true
  · simp only [alone, ↓reduceIte] at failed
    obtain ⟨notOwning, isNone⟩ := Bool.and_eq_true_iff.mp alone
    exact ⟨target, found, by simpa using notOwning, by simpa using isNone,
      (Except.error.inj failed).symm⟩
  · simp only [alone, Bool.false_eq_true, ↓reduceIte] at failed
    by_cases isList : field.isList = true
    · simp only [isList, ↓reduceIte] at failed
      split at failed
      · rename_i counterpart _
        obtain ⟨relation, inferred⟩ :=
          exists_inferList closed model field
            (Document.mem_of_model? found).1 counterpart directives
            (options.accessorName field.name)
        rw [inferred] at failed
        cases failed
      · cases failed
    · simp only [isList, Bool.false_eq_true, ↓reduceIte] at failed
      cases failed

theorem unrelated_of_inferDocumented
    {model : Model}
    (inDocument : model ∈ document.models)
    {field : Field}
    (member : field ∈ model.relationFields)
    {failure : Failure}
    (failed :
      inferDocumented options document model field = .error failure) :
    Unrelated document failure := by
  obtain ⟨directives, read⟩ :=
    closed.fieldDocumentation model inDocument field
      (List.mem_filter.mp member).1
  unfold inferDocumented at failed
  simp only [read, bind, Except.bind] at failed
  by_cases silent : directives.silentInModels = true
  · simp only [silent, ↓reduceIte] at failed
    cases failed
  · simp only [silent, Bool.false_eq_true, ↓reduceIte] at failed
    obtain ⟨target, found, notOwning, alone, rfl⟩ :=
      inferField_eq_error closed inDocument member failed
    exact .noCounterpart inDocument member read (by simpa using silent)
      notOwning found alone

/-! ## Models -/

theorem unrelated_of_candidates
    {model : Model}
    (inDocument : model ∈ document.models)
    {failure : Failure}
    (failed : candidates options document model = .error failure) :
    Unrelated document failure := by
  obtain ⟨directives, read⟩ := closed.modelDocumentation model inDocument
  rcases Outcome.bind_eq_error_iff.mp failed with
      ofFields | ⟨_, _, failed⟩
  · obtain ⟨field, member, ofField⟩ :=
      Outcome.exists_of_mapM_eq_error ofFields
    exact unrelated_of_inferDocumented closed inDocument member ofField
  · rw [read] at failed
    rcases Outcome.bind_eq_error_iff.mp failed with
        unread | ⟨_, same, failed⟩
    · cases unread
    · obtain rfl := Except.ok.inj same
      rcases Outcome.bind_eq_error_iff.mp failed with
          ofMorphs | ⟨_, _, failed⟩
      · obtain ⟨morph, declared, ofMorph⟩ :=
          Outcome.exists_of_mapM_eq_error ofMorphs
        exact unrelated_of_ownerMorph inDocument read declared ofMorph
      · cases failed

theorem unrelated_of_inferModel
    {model : Model}
    (inDocument : model ∈ document.models)
    {failure : Failure}
    (failed : inferModel options document model.name = .error failure) :
    Unrelated document failure := by
  have required : document.requireModel model.name = .ok model :=
    Document.requireModel_eq_ok_iff.mpr (closed.model?_eq_some inDocument)
  unfold inferModel at failed
  rw [required] at failed
  rcases Outcome.bind_eq_error_iff.mp failed with
      unknown | ⟨_, same, failed⟩
  · cases unknown
  · obtain rfl := Except.ok.inj same
    rcases Outcome.bind_eq_error_iff.mp failed with
        contradicts | ⟨_, _, failed⟩
    · exact unrelated_of_candidates closed inDocument contradicts
    · cases failed

/-- The relations of a closed document can be inferred unless the document
has one of the two contradictions. -/
theorem unrelated_of_inferDocument
    {failure : Failure}
    (failed : inferDocument options document = .error failure) :
    Unrelated document failure := by
  obtain ⟨model, inDocument, failed⟩ :=
    Outcome.exists_of_mapM_eq_error failed
  rcases Outcome.bind_eq_error_iff.mp failed with
      contradicts | ⟨_, _, failed⟩
  · exact unrelated_of_inferModel closed inDocument contradicts
  · cases failed

end Closed

end Tablewright.Relation
