import Tablewright.Proofs.Failure
import Tablewright.Proofs.Schema.Validation

namespace Tablewright.Schema

/-!
# Closed documents

In a closed document every name leads somewhere: relation fields to models,
keys and indexes to fields, enumeration fields to enumerations, and every
documentation string can be read.  Validation accepts closed documents only.
-/

/-- A model has fields of all these names. -/
def Model.HasFields (model : Model) (names : List String) : Prop :=
  ∀ name ∈ names, ∃ field, model.field? name = some field

/-- A model all of whose names belong to something in a document. -/
structure Model.ClosedIn (model : Model) (document : Document) : Prop where
  relation :
    ∀ field ∈ model.relationFields, ∃ target,
      document.model? field.typeName = some target ∧
        model.HasFields field.relationFromFields ∧
        target.HasFields field.relationToFields
  enumeration :
    ∀ field ∈ model.fields,
      field.kind = .enumeration →
        ∃ enumeration, document.enum? field.typeName = some enumeration
  key :
    model.HasFields ((model.primaryKey.map PrimaryKey.fields).getD [])
  index : ∀ index ∈ model.indexes, model.HasFields index.fields

/-- A document in which every name that is used belongs to something. -/
structure Document.Closed (document : Document) : Prop
    extends document.Distinct where
  model : ∀ model ∈ document.models, model.ClosedIn document
  modelDocumentation :
    ∀ model ∈ document.models, ∃ directives,
      Directive.Set.ofDocumentation model.documentation = .ok directives
  fieldDocumentation :
    ∀ model ∈ document.models, ∀ field ∈ model.fields, ∃ directives,
      Directive.Set.ofDocumentation field.documentation = .ok directives

namespace Check

theorem hasFields_of_filter
    {model : Model}
    {names : List String}
    (silent :
      names.filter (fun name => (model.field? name).isNone) = []) :
    model.HasFields names := by
  intro name member
  have found := List.filter_eq_nil_iff.mp silent name member
  exact Option.ne_none_iff_exists'.mp (by simpa using found)

/-- A relation field passes its check if its target exists and has the fields
that are referred to. -/
theorem closed_of_relationErrors
    {document : Document}
    {model : Model}
    {field : Field}
    (silent : relationErrors document model field = []) :
    ∃ target,
      document.model? field.typeName = some target ∧
        model.HasFields field.relationFromFields ∧
        target.HasFields field.relationToFields := by
  unfold relationErrors at silent
  cases found : document.model? field.typeName with
  | none =>
      rw [found] at silent
      cases silent
  | some target =>
      simp only [found, List.append_eq_nil_iff, List.map_eq_nil_iff]
        at silent
      exact ⟨target, rfl, hasFields_of_filter silent.1,
        hasFields_of_filter silent.2⟩

theorem exists_enum_of_enumErrors
    {document : Document}
    {model : Model}
    (silent : enumErrors document model = [])
    {field : Field}
    (member : field ∈ model.fields)
    (isEnumeration : field.kind = .enumeration) :
    ∃ enumeration, document.enum? field.typeName = some enumeration := by
  have found :=
    List.filter_eq_nil_iff.mp (List.map_eq_nil_iff.mp silent) field member
  exact Option.ne_none_iff_exists'.mp (by simpa [isEnumeration] using found)

theorem hasFields_of_indexErrors
    {model : Model}
    (silent : indexErrors model = []) :
    model.HasFields ((model.primaryKey.map PrimaryKey.fields).getD []) ∧
      ∀ index ∈ model.indexes, model.HasFields index.fields := by
  have all := hasFields_of_filter (List.map_eq_nil_iff.mp silent)
  constructor
  · intro name inKey
    exact all name (List.mem_append_left _ inKey)
  · intro index member name inIndex
    exact all name (List.mem_append_right _
      (List.mem_flatMap.mpr ⟨index, member, inIndex⟩))

theorem exists_directives_of_directiveErrors
    {model : Model}
    (silent : directiveErrors model = [])
    {documentation : Option String}
    (member :
      documentation ∈
        model.documentation :: model.fields.map Field.documentation) :
    ∃ directives,
      Directive.Set.ofDocumentation documentation = .ok directives := by
  have read := List.filterMap_eq_nil_iff.mp silent documentation member
  cases outcome : Directive.Set.ofDocumentation documentation with
  | ok directives => exact ⟨directives, rfl⟩
  | error failure =>
      rw [outcome] at read
      cases read

end Check

/-- Validation accepts closed documents only. -/
theorem Document.closed_of_valid
    {document : Document}
    (valid : document.validate.errors = []) :
    document.Closed := by
  have noError :
      ∀ check : Check, check ∈ Check.all →
        (check.run document).errors = [] :=
    fun check isRun => errors_run_of_valid valid isRun
  have relations :
      ∀ model ∈ document.models, ∀ field ∈ model.relationFields,
        Check.relationErrors document model field = [] := by
    intro model inDocument field member
    have silent := List.flatMap_eq_nil_iff.mp
      (noError .relationReferences (by decide)) model inDocument
    exact List.flatMap_eq_nil_iff.mp silent field member
  have enumerations :
      ∀ model ∈ document.models, Check.enumErrors document model = [] :=
    List.flatMap_eq_nil_iff.mp (noError .enumReferences (by decide))
  have indexes :
      ∀ model ∈ document.models, Check.indexErrors model = [] :=
    List.flatMap_eq_nil_iff.mp (noError .indexFields (by decide))
  have directives :
      ∀ model ∈ document.models, Check.directiveErrors model = [] :=
    List.flatMap_eq_nil_iff.mp (noError .directives (by decide))
  have closedIn :
      ∀ model ∈ document.models, model.ClosedIn document := by
    intro model inDocument
    obtain ⟨key, index⟩ :=
      Check.hasFields_of_indexErrors (indexes model inDocument)
    exact {
      relation := fun field member =>
        Check.closed_of_relationErrors
          (relations model inDocument field member)
      enumeration := fun _ member =>
        Check.exists_enum_of_enumErrors
          (enumerations model inDocument) member
      key := key
      index := index }
  exact {
    toDistinct := distinct_of_valid (Report.toOutcome_eq_ok_iff.mpr valid)
    model := closedIn
    modelDocumentation := fun model inDocument =>
      Check.exists_directives_of_directiveErrors
        (directives model inDocument) List.mem_cons_self
    fieldDocumentation := fun model inDocument _ member =>
      Check.exists_directives_of_directiveErrors
        (directives model inDocument)
        (List.mem_cons_of_mem _ (List.mem_map_of_mem member)) }

/-! ## What the names lead to -/

/-- A relation that owns its key is a relation. -/
theorem Model.owningRelations_subset (model : Model) :
    model.owningRelations ⊆ model.relationFields := by
  intro field isKey
  obtain ⟨member, owning⟩ := List.mem_filter.mp isKey
  exact List.mem_filter.mpr ⟨member, (Bool.and_eq_true_iff.mp owning).1⟩

namespace Model.ClosedIn

variable {model : Model} {document : Document}

/-- The fields of a primary key exist, whichever way the key is declared. -/
theorem hasFields_primaryKeyFields
    (closed : model.ClosedIn document) :
    model.HasFields model.primaryKeyFields := by
  unfold primaryKeyFields
  simp only
  split
  · exact closed.key
  · split
    · intro name flagged
      obtain ⟨field, member, rfl⟩ := List.mem_map.mp flagged
      refine Option.isSome_iff_exists.mp (List.find?_isSome.mpr ?_)
      exact ⟨field, (List.mem_filter.mp member).1, by simp⟩
    · cases found :
          model.indexes.find? (fun index => index.kind == .id) with
      | none => exact fun name absent => (List.not_mem_nil absent).elim
      | some index =>
          exact closed.index index (List.mem_of_find?_eq_some found)

/-- The target of a relation field can be looked up. -/
theorem exists_targetOf
    (closed : model.ClosedIn document)
    {field : Field}
    (member : field ∈ model.relationFields)
    (name : String) :
    ∃ target, document.targetOf name field = .ok target := by
  obtain ⟨target, found, _⟩ := closed.relation field member
  exact ⟨target, Document.targetOf_eq_ok_iff.mpr found⟩

/-- The fields that hold the key of a relation field are fields of its
model. -/
theorem hasFields_relationFromFields
    (closed : model.ClosedIn document)
    {field : Field}
    (member : field ∈ model.relationFields) :
    model.HasFields field.relationFromFields := by
  obtain ⟨_, _, known, _⟩ := closed.relation field member
  exact known

/-- The fields that a relation field refers to are fields of its target. -/
theorem hasFields_relationToFields
    (closed : model.ClosedIn document)
    {field : Field}
    (member : field ∈ model.relationFields)
    {target : Model}
    (found : document.model? field.typeName = some target) :
    target.HasFields field.relationToFields := by
  obtain ⟨other, isOther, _, known⟩ := closed.relation field member
  rw [found] at isOther
  obtain rfl := Option.some.inj isOther
  exact known

end Model.ClosedIn

end Tablewright.Schema
