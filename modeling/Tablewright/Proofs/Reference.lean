import Tablewright.Proofs.Schema.Closed

namespace Tablewright

/-!
# References that a compilation follows

Keys, indexes and relations name what they are about.  The compiler looks
the names up as it goes along; a field that does not exist is passed off as a
column of the same name, and an enumeration that does not exist as an empty
one.  A traced computation has an outcome and notes all that was looked up on
the way to it, be it found or not.
-/

open Schema

/-- Something that is looked up by its name. -/
inductive Reference where
  /-- The column of a field of a model. -/
  | column (model : Model) (name : String)
  /-- The model that a relation field leads to. -/
  | target (field : Field)
  /-- The enumeration of a field. -/
  | enumeration (field : Field)
  deriving Repr, DecidableEq

/-- What is looked up exists, so that nothing is passed off as it. -/
def Reference.Resolves (document : Document) : Reference → Prop
  | .column model name => ∃ field, model.field? name = some field
  | .target field =>
      ∃ target, document.model? field.typeName = some target
  | .enumeration field =>
      ∃ enumeration, document.enum? field.typeName = some enumeration

/-- An outcome together with the references that were followed to get it, in
the order in which they were followed. -/
structure Traced (α : Type) where
  outcome : Outcome α
  references : List Reference

namespace Traced

/-- A computation that looks nothing up. -/
def of {α : Type} (outcome : Outcome α) : Traced α :=
  ⟨outcome, []⟩

/-- Two computations.  The second one is left out if the first one fails. -/
def andThen
    {α β : Type}
    (first : Traced α)
    (second : α → Traced β) :
    Traced β :=
  match first.outcome with
  | .error failure => ⟨.error failure, first.references⟩
  | .ok value =>
      ⟨(second value).outcome,
        first.references ++ (second value).references⟩

instance : Monad Traced where
  pure value := of (.ok value)
  bind := andThen

theorem andThen_assoc
    {α β γ : Type}
    (first : Traced α)
    (second : α → Traced β)
    (third : β → Traced γ) :
    (first.andThen second).andThen third =
      first.andThen fun value => (second value).andThen third := by
  obtain ⟨outcome, references⟩ := first
  cases outcome with
  | error failure => rfl
  | ok value =>
      simp only [andThen]
      cases (second value).outcome with
      | error failure => rfl
      | ok middle => simp only [List.append_assoc]

theorem andThen_of_ok
    {α : Type}
    (traced : Traced α) :
    traced.andThen (fun value => of (.ok value)) = traced := by
  obtain ⟨outcome, references⟩ := traced
  cases outcome with
  | error failure => rfl
  | ok value => simp only [andThen, of, List.append_nil]

instance : LawfulMonad Traced :=
  LawfulMonad.mk' Traced
    (fun traced => andThen_of_ok traced)
    (fun _ _ => rfl)
    (fun first second third => andThen_assoc first second third)

/-! ## Outcomes of traced computations -/

section Outcome

variable {α β : Type}

@[simp]
theorem outcome_of (outcome : Outcome α) :
    (of outcome).outcome = outcome :=
  rfl

@[simp]
theorem outcome_pure (value : α) :
    (pure value : Traced α).outcome = .ok value :=
  rfl

@[simp]
theorem outcome_bind
    (first : Traced α)
    (second : α → Traced β) :
    (first >>= second).outcome =
      first.outcome >>= fun value => (second value).outcome := by
  obtain ⟨outcome, references⟩ := first
  cases outcome with
  | error failure => rfl
  | ok value => rfl

@[simp]
theorem outcome_map
    (change : α → β)
    (traced : Traced α) :
    (change <$> traced).outcome = change <$> traced.outcome := by
  rw [map_eq_pure_bind, outcome_bind, map_eq_pure_bind]
  rfl

theorem outcome_ite
    (condition : Prop)
    [Decidable condition]
    (first second : Traced α) :
    (if condition then first else second).outcome =
      if condition then first.outcome else second.outcome :=
  apply_ite Traced.outcome condition first second

theorem outcome_mapM
    {step : α → Traced β}
    {plain : α → Outcome β}
    (same : ∀ input, (step input).outcome = plain input)
    (inputs : List α) :
    (inputs.mapM step).outcome = inputs.mapM plain := by
  induction inputs with
  | nil => rfl
  | cons input rest inductionHypothesis =>
      simp only [List.mapM_cons, outcome_bind, outcome_pure, same,
        inductionHypothesis]
      rfl

/-- Steps that cannot fail have the results of a plain function. -/
theorem outcome_mapM_eq_ok
    {step : α → Traced β}
    {plain : α → β}
    (same : ∀ input, (step input).outcome = .ok (plain input))
    (inputs : List α) :
    (inputs.mapM step).outcome = .ok (inputs.map plain) :=
  (outcome_mapM same inputs).trans List.mapM_pure

end Outcome

/-! ## References of traced computations -/

/-- Whatever a computation looks up exists. -/
def Resolves
    {α : Type}
    (document : Document)
    (traced : Traced α) :
    Prop :=
  ∀ reference ∈ traced.references, reference.Resolves document

section Resolves

variable {α β : Type}
variable {document : Document}

theorem resolves_of (outcome : Outcome α) :
    (of outcome).Resolves document :=
  fun _ absent => (List.not_mem_nil absent).elim

theorem resolves_pure (value : α) :
    (pure value : Traced α).Resolves document :=
  resolves_of (.ok value)

theorem resolves_bind
    {first : Traced α}
    {second : α → Traced β}
    (resolvesFirst : first.Resolves document)
    (resolvesSecond :
      ∀ value, first.outcome = .ok value →
        (second value).Resolves document) :
    (first >>= second).Resolves document := by
  obtain ⟨outcome, references⟩ := first
  cases outcome with
  | error failure => exact resolvesFirst
  | ok value =>
      intro reference member
      rcases List.mem_append.mp member with earlier | later
      · exact resolvesFirst reference earlier
      · exact resolvesSecond value rfl reference later

theorem resolves_ite
    {condition : Prop}
    [Decidable condition]
    {first second : Traced α}
    (resolvesFirst : condition → first.Resolves document)
    (resolvesSecond : ¬condition → second.Resolves document) :
    (if condition then first else second).Resolves document := by
  split
  · exact resolvesFirst ‹_›
  · exact resolvesSecond ‹_›

theorem resolves_map
    {traced : Traced α}
    (change : α → β)
    (resolves : traced.Resolves document) :
    (change <$> traced).Resolves document := by
  rw [map_eq_pure_bind]
  exact resolves_bind resolves fun _ _ => resolves_pure _

theorem resolves_mapM
    {step : α → Traced β}
    {inputs : List α}
    (resolves : ∀ input ∈ inputs, (step input).Resolves document) :
    (inputs.mapM step).Resolves document := by
  induction inputs with
  | nil => exact resolves_pure []
  | cons input rest inductionHypothesis =>
      rw [List.mapM_cons]
      refine resolves_bind (resolves input List.mem_cons_self) fun _ _ => ?_
      refine resolves_bind ?_ fun _ _ => resolves_pure _
      exact inductionHypothesis fun other member =>
        resolves other (List.mem_cons_of_mem _ member)

end Resolves

/-! ## Lookups -/

/-- Look up the column of a field. -/
def columnOf (model : Model) (name : String) : Traced String :=
  ⟨.ok (model.columnOf name), [.column model name]⟩

/-- Look up the columns of several fields. -/
def columnsOf (model : Model) (names : List String) :
    Traced (List String) :=
  names.mapM (columnOf model)

/-- Look up the model that a relation field leads to. -/
def targetOf (document : Document) (name : String) (field : Field) :
    Traced Model :=
  ⟨document.targetOf name field, [.target field]⟩

/-- Look up the values of the enumeration of a field. -/
def enumValues (document : Document) (field : Field) :
    Traced (List String) :=
  ⟨.ok (document.enumValues field.typeName), [.enumeration field]⟩

/-- `Model.primaryKeyColumns`, traced. -/
def primaryKeyColumns (model : Model) : Traced (List String) :=
  columnsOf model model.primaryKeyFields

/-- `Model.uniqueSets`, traced. -/
def uniqueSets (model : Model) : Traced (List (List String)) := do
  let key ← primaryKeyColumns model
  let indexed := model.indexes.filter
    (fun index => index.kind == .unique || index.kind == .id)
  let flagged := model.fields.filter Field.isUnique
  let sets ← indexed.mapM (fun index => columnsOf model index.fields)
  return (if key.isEmpty then [] else [key]) ++ sets ++
    flagged.map (fun field => [field.columnName])

@[simp]
theorem outcome_columnsOf (model : Model) (names : List String) :
    (columnsOf model names).outcome = .ok (model.columnsOf names) :=
  outcome_mapM_eq_ok (fun _ => rfl) names

@[simp]
theorem outcome_targetOf
    (document : Document)
    (name : String)
    (field : Field) :
    (targetOf document name field).outcome =
      document.targetOf name field :=
  rfl

@[simp]
theorem outcome_primaryKeyColumns (model : Model) :
    (primaryKeyColumns model).outcome = .ok model.primaryKeyColumns :=
  outcome_columnsOf model model.primaryKeyFields

@[simp]
theorem outcome_uniqueSets (model : Model) :
    (uniqueSets model).outcome = .ok model.uniqueSets := by
  simp only [uniqueSets, outcome_bind, outcome_primaryKeyColumns,
    outcome_mapM_eq_ok (fun index : Index =>
      outcome_columnsOf model index.fields),
    outcome_pure]
  rfl

section Closed

variable {document : Document}
variable {model : Model}

theorem resolves_columnsOf
    {names : List String}
    (known : model.HasFields names) :
    (columnsOf model names).Resolves document := by
  refine resolves_mapM fun name member reference followed => ?_
  obtain rfl := List.mem_singleton.mp followed
  exact known name member

variable (closed : model.ClosedIn document)

include closed

theorem resolves_targetOf
    {field : Field}
    (member : field ∈ model.relationFields)
    (name : String) :
    (targetOf document name field).Resolves document := by
  intro reference followed
  obtain rfl := List.mem_singleton.mp followed
  obtain ⟨target, found, _⟩ := closed.relation field member
  exact ⟨target, found⟩

theorem resolves_enumValues
    {field : Field}
    (member : field ∈ model.fields)
    (isEnumeration : field.kind = .enumeration) :
    (enumValues document field).Resolves document := by
  intro reference followed
  obtain rfl := List.mem_singleton.mp followed
  exact closed.enumeration field member isEnumeration

theorem resolves_primaryKeyColumns :
    (primaryKeyColumns model).Resolves document :=
  resolves_columnsOf closed.hasFields_primaryKeyFields

theorem resolves_uniqueSets :
    (uniqueSets model).Resolves document := by
  refine resolves_bind (resolves_primaryKeyColumns closed) fun _ _ => ?_
  refine resolves_bind (resolves_mapM fun index member => ?_)
    fun _ _ => resolves_pure _
  exact resolves_columnsOf
    (closed.index index (List.mem_filter.mp member).1)

end Closed

end Traced

end Tablewright
