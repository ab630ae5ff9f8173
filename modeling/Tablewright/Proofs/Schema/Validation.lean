import Mathlib.Data.List.Nodup
import Tablewright.Schema.Inconsistency
import Tablewright.Schema.Validation

namespace Tablewright.Schema

/-!
# What validation guarantees

The models of a valid document are told apart by their names, and so are the
fields of a model.
-/

theorem repeated_eq_nil_iff
    {seen items : List String} :
    repeated seen items = [] ↔
      items.Nodup ∧ ∀ item ∈ items, item ∉ seen := by
  induction items generalizing seen with
  | nil => simp [repeated]
  | cons item rest inductionHypothesis =>
      rw [repeated]
      by_cases known : item ∈ seen
      · simp [known]
      · have unseen : seen.contains item = false := by simpa using known
        rw [unseen, if_neg Bool.false_ne_true, inductionHypothesis,
          List.nodup_cons]
        constructor
        · rintro ⟨nodup, fresh⟩
          refine ⟨⟨?_, nodup⟩, ?_⟩
          · intro again
            exact fresh item again List.mem_cons_self
          · intro other member
            rcases List.mem_cons.mp member with rfl | later
            · exact known
            · exact fun inSeen =>
                fresh other later (List.mem_cons_of_mem _ inSeen)
        · rintro ⟨⟨once, nodup⟩, fresh⟩
          refine ⟨nodup, ?_⟩
          intro other member inSeen
          rcases List.mem_cons.mp inSeen with rfl | inSeen
          · exact once member
          · exact fresh other (List.mem_cons_of_mem _ member) inSeen

namespace Check

theorem nodup_of_fieldNameErrors
    {model : Model}
    (silent : fieldNameErrors model = []) :
    (model.fields.map Field.name).Nodup :=
  (repeated_eq_nil_iff.mp (List.map_eq_nil_iff.mp silent)).1

/-- A document passes the check of names just if no name is repeated. -/
theorem modelNameErrors_eq_nil_iff
    {seen : List String}
    {models : List Model} :
    modelNameErrors seen models = [] ↔
      (models.map Model.name).Nodup ∧
        (∀ model ∈ models, model.name ∉ seen) ∧
        ∀ model ∈ models, fieldNameErrors model = [] := by
  induction models generalizing seen with
  | nil => simp [modelNameErrors]
  | cons model rest inductionHypothesis =>
      have own :
          (if seen.contains model.name then
              [(⟨.duplicateModelName, model.name,
                "Duplicate model name: '" ++ model.name ++ "'"⟩ :
                Finding ErrorCode)]
            else []) = [] ↔ model.name ∉ seen := by
        simp
      simp only [modelNameErrors, List.append_eq_nil_iff, own,
        inductionHypothesis, List.map_cons, List.nodup_cons,
        List.forall_mem_cons]
      simp only [List.mem_cons, not_or]
      constructor
      · rintro ⟨⟨unseen, fields⟩, nodup, fresh, later⟩
        refine ⟨⟨?_, nodup⟩, ⟨unseen, fun other member =>
          (fresh other member).2⟩, fields, later⟩
        intro again
        obtain ⟨other, member, sameName⟩ := List.mem_map.mp again
        exact (fresh other member).1 sameName
      · rintro ⟨⟨once, nodup⟩, ⟨unseen, fresh⟩, fields, later⟩
        refine ⟨⟨unseen, fields⟩, nodup, ?_, later⟩
        intro other member
        refine ⟨?_, fresh other member⟩
        intro sameName
        exact once (sameName ▸ List.mem_map_of_mem member)

end Check

/-! ## Valid documents -/

/-- A report stops a compilation only with an error. -/
theorem Report.toOutcome_eq_ok_iff
    {report : Report} :
    report.toOutcome = .ok () ↔ report.errors = [] := by
  unfold toOutcome
  cases report.errors with
  | nil => simp
  | cons first rest => simp

/-- Several checks report what each of them reports. -/
theorem Document.errors_validateWith
    (document : Document)
    (checks : List Check) :
    (document.validateWith checks).errors =
      checks.flatMap fun check => (check.run document).errors := by
  have onto :
      ∀ report : Report,
        (checks.foldl
            (fun report check => report.merge (check.run document))
            report).errors =
          report.errors ++
            checks.flatMap fun check => (check.run document).errors := by
    induction checks with
    | nil => simp
    | cons check rest inductionHypothesis =>
        intro report
        rw [List.foldl_cons, inductionHypothesis, List.flatMap_cons,
          ← List.append_assoc]
        rfl
  exact onto {}

/-- A document is valid just if no check reports an error. -/
theorem Document.errors_validate_eq_nil_iff
    {document : Document} :
    document.validate.errors = [] ↔
      ∀ check ∈ Check.all, (check.run document).errors = [] := by
  rw [validate, errors_validateWith, List.flatMap_eq_nil_iff]

/-- In a valid document no check reports an error. -/
theorem Document.errors_run_of_valid
    {document : Document}
    (valid : document.validate.errors = [])
    {check : Check}
    (isRun : check ∈ Check.all) :
    (check.run document).errors = [] :=
  errors_validate_eq_nil_iff.mp valid check isRun

/-- A document in which models have distinct names, and the fields of every
model as well. -/
structure Document.Distinct (document : Document) : Prop where
  models : (document.models.map Model.name).Nodup
  fields :
    ∀ model ∈ document.models, (model.fields.map Field.name).Nodup

theorem Document.distinct_of_valid
    {document : Document}
    (valid : document.validate.toOutcome = .ok ()) :
    document.Distinct := by
  have named : (Check.modelNames.run document).errors = [] :=
    errors_run_of_valid (Report.toOutcome_eq_ok_iff.mp valid) (by decide)
  obtain ⟨models, _, fields⟩ :=
    Check.modelNameErrors_eq_nil_iff.mp named
  exact ⟨models, fun model member =>
    Check.nodup_of_fieldNameErrors (fields model member)⟩

/-- Among distinct names, a name finds the item that has it. -/
theorem find?_eq_some_of_nodup
    {α : Type}
    {name : α → String}
    {items : List α}
    (nodup : (items.map name).Nodup)
    {item : α}
    (member : item ∈ items) :
    items.find? (fun other => name other == name item) = some item := by
  cases found : items.find? (fun other => name other == name item) with
  | none =>
      have absent := List.find?_eq_none.mp found item member
      simp at absent
  | some other =>
      have sameName : name other = name item := by
        simpa using List.find?_some found
      rw [List.inj_on_of_nodup_map nodup
        (List.mem_of_find?_eq_some found) member sameName]

/-- Among distinct names, the order of the items does not decide which one is
found. -/
theorem find?_eq_of_perm
    {α : Type}
    {name : α → String}
    {items reordered : List α}
    (permuted : reordered.Perm items)
    (nodup : (items.map name).Nodup)
    (key : String) :
    reordered.find? (fun item => name item == key) =
      items.find? (fun item => name item == key) := by
  cases found : items.find? (fun item => name item == key) with
  | none =>
      apply List.find?_eq_none.mpr
      intro item member
      exact List.find?_eq_none.mp found item (permuted.mem_iff.mp member)
  | some item =>
      have named : name item = key := by
        simpa using List.find?_some found
      have member := List.mem_of_find?_eq_some found
      rw [← named]
      exact find?_eq_some_of_nodup
        ((permuted.map name).nodup_iff.mpr nodup)
        (permuted.mem_iff.mpr member)

namespace Document.Distinct

variable {document : Document}

theorem model?_eq_some
    (distinct : document.Distinct)
    {model : Model}
    (member : model ∈ document.models) :
    document.model? model.name = some model :=
  find?_eq_some_of_nodup distinct.models member

theorem field?_eq_some
    (distinct : document.Distinct)
    {model : Model}
    (inDocument : model ∈ document.models)
    {field : Field}
    (member : field ∈ model.fields) :
    model.field? field.name = some field :=
  find?_eq_some_of_nodup (distinct.fields model inDocument) member

end Document.Distinct

theorem Document.mem_of_model?
    {document : Document}
    {name : String}
    {model : Model}
    (found : document.model? name = some model) :
    model ∈ document.models ∧ model.name = name :=
  ⟨List.mem_of_find?_eq_some found, by simpa using List.find?_some found⟩

theorem Document.requireModel_eq_ok_iff
    {document : Document}
    {name : String}
    {model : Model} :
    document.requireModel name = .ok model ↔
      document.model? name = some model := by
  unfold Document.requireModel
  cases document.model? name with
  | none => simp
  | some found => simp

theorem Document.targetOf_eq_ok_iff
    {document : Document}
    {modelName : String}
    {field : Field}
    {target : Model} :
    document.targetOf modelName field = .ok target ↔
      document.model? field.typeName = some target := by
  unfold Document.targetOf Inconsistency.orFail
  cases document.model? field.typeName with
  | none => simp
  | some found => simp

end Tablewright.Schema
