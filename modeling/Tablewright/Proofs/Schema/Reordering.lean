import Tablewright.Proofs.Schema.Closed

namespace Tablewright.Schema

/-!
# Documents in another order

Every lookup in a document of distinct names finds the same, however its
models are ordered.  The validation asks for nothing else, so a valid document
stays valid in any order.
-/

/-- A document with the same models in another order. -/
structure Document.Reordered (document other : Document) : Prop where
  models : other.models.Perm document.models
  enums : other.enums = document.enums

namespace Document.Reordered

variable {document other : Document}

theorem symm
    (reordered : document.Reordered other) :
    other.Reordered document :=
  ⟨reordered.models.symm, reordered.enums.symm⟩

theorem mem_iff
    (reordered : document.Reordered other)
    {model : Model} :
    model ∈ other.models ↔ model ∈ document.models :=
  reordered.models.mem_iff

theorem distinct
    (reordered : document.Reordered other)
    (distinct : document.Distinct) :
    other.Distinct := by
  constructor
  · exact (reordered.models.map Model.name).nodup_iff.mpr distinct.models
  · intro model member
    exact distinct.fields model (reordered.mem_iff.mp member)

/-- The same model is found for every name. -/
theorem model?_eq
    (reordered : document.Reordered other)
    (distinct : document.Distinct) :
    other.model? = document.model? := by
  funext name
  exact find?_eq_of_perm reordered.models distinct.models name

/-- The same enumeration is found for every name. -/
theorem enum?_eq
    (reordered : document.Reordered other) :
    other.enum? = document.enum? := by
  funext name
  rw [enum?, reordered.enums, enum?]

theorem enumValues_eq
    (reordered : document.Reordered other) :
    other.enumValues = document.enumValues := by
  funext name
  rw [enumValues, reordered.enum?_eq, enumValues]

/-- What no model gives rise to does not arise in another order either. -/
theorem flatMap_eq_nil
    (reordered : document.Reordered other)
    {β : Type}
    {read : Model → List β}
    (silent : document.models.flatMap read = []) :
    other.models.flatMap read = [] := by
  apply List.flatMap_eq_nil_iff.mpr
  intro model member
  exact List.flatMap_eq_nil_iff.mp silent model
    (reordered.mem_iff.mp member)

/-- A check that passes a document of distinct names passes it in every
order. -/
theorem errors_run
    (reordered : document.Reordered other)
    (distinct : document.Distinct)
    {check : Check}
    (silent : (check.run document).errors = []) :
    (check.run other).errors = [] := by
  cases check with
  | modelNames =>
      obtain ⟨_, _, fields⟩ := Check.modelNameErrors_eq_nil_iff.mp silent
      refine Check.modelNameErrors_eq_nil_iff.mpr
        ⟨(reordered.distinct distinct).models,
          fun _ _ => List.not_mem_nil, ?_⟩
      intro model member
      exact fields model (reordered.mem_iff.mp member)
  | relationReferences =>
      have sameErrors :
          Check.relationErrors other = Check.relationErrors document := by
        funext model field
        simp only [Check.relationErrors, reordered.model?_eq distinct]
      simp only [Check.run, sameErrors] at silent ⊢
      exact reordered.flatMap_eq_nil silent
  | enumReferences =>
      have sameErrors :
          Check.enumErrors other = Check.enumErrors document := by
        funext model
        simp only [Check.enumErrors, reordered.enum?_eq]
      simp only [Check.run, sameErrors] at silent ⊢
      exact reordered.flatMap_eq_nil silent
  | indexFields => exact reordered.flatMap_eq_nil silent
  | directives => exact reordered.flatMap_eq_nil silent

/-- A valid document is valid in every order. -/
theorem valid
    (reordered : document.Reordered other)
    (valid : document.validate.errors = []) :
    other.validate.errors = [] := by
  have distinct := distinct_of_valid (Report.toOutcome_eq_ok_iff.mpr valid)
  apply errors_validate_eq_nil_iff.mpr
  intro check isRun
  exact reordered.errors_run distinct (errors_run_of_valid valid isRun)

/-- Relation fields refer to the same models. -/
theorem targetOf_eq
    (reordered : document.Reordered other)
    (distinct : document.Distinct) :
    other.targetOf = document.targetOf := by
  funext modelName field
  simp only [targetOf, reordered.model?_eq distinct]

theorem requireModel_eq
    (reordered : document.Reordered other)
    (distinct : document.Distinct) :
    other.requireModel = document.requireModel := by
  funext name
  simp only [requireModel, reordered.model?_eq distinct]

end Document.Reordered

end Tablewright.Schema
