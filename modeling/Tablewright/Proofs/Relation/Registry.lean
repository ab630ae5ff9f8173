import Mathlib.Data.List.Induction
import Tablewright.Proofs.Relation.Scope

namespace Tablewright.Relation

open List
open Schema

/-!
# Registering candidates

The candidates of a model are registered in their order, and the first one
with an accessor name keeps it.  Every candidate is settled exactly once:
either it becomes a relation of the model, or a diagnostic reports it.
Candidates are told apart by their positions, since two of them may be equal.
-/

/-- Whether no candidate has an accessor name. -/
def isNew (found : List Definition) (name : String) : Bool :=
  found.all fun earlier => earlier.name != name

theorem isNew_eq_true_iff
    {found : List Definition}
    {name : String} :
    isNew found name = true ↔ ∀ earlier ∈ found, earlier.name ≠ name := by
  simp [isNew]

/-- The candidates in their order, each with whether its accessor name is new
behind the candidates in front of its position. -/
def verdicts (found : List Definition) : List (Definition × Bool) :=
  found.zipIdx.map fun (relation, position) =>
    (relation, isNew (found.take position) relation.name)

/-- The first candidate with each accessor name. -/
def keptCandidates (found : List Definition) : List Definition :=
  ((verdicts found).filter fun verdict => verdict.2).map Prod.fst

/-- The candidates whose accessor name an earlier candidate has. -/
def droppedCandidates (found : List Definition) : List Definition :=
  ((verdicts found).filter fun verdict => !verdict.2).map Prod.fst

theorem map_fst_verdicts
    (found : List Definition) :
    (verdicts found).map Prod.fst = found := by
  rw [verdicts, List.map_map]
  exact List.zipIdx_map_fst 0 found

/-- One more candidate leaves the verdicts on those before it alone. -/
theorem verdicts_append_singleton
    (found : List Definition)
    (added : Definition) :
    verdicts (found ++ [added]) =
      verdicts found ++ [(added, isNew found added.name)] := by
  have earlier :
      ∀ candidate ∈ found.zipIdx,
        (found ++ [added]).take candidate.2 = found.take candidate.2 := by
    intro candidate member
    have within := List.snd_lt_of_mem_zipIdx member
    exact List.take_append_of_le_length (by omega)
  rw [verdicts, List.zipIdx_append, List.map_append]
  congr 1
  · refine List.map_congr_left fun (relation, position) member => ?_
    exact congrArg
      (fun before => (relation, isNew before relation.name))
      (earlier _ member)
  · simp

/-- One more candidate is kept if its accessor name is new. -/
theorem keptCandidates_append_singleton
    (found : List Definition)
    (added : Definition) :
    keptCandidates (found ++ [added]) =
      keptCandidates found ++
        if isNew found added.name then [added] else [] := by
  rw [keptCandidates, verdicts_append_singleton, List.filter_append,
    List.map_append, keptCandidates]
  cases fresh : isNew found added.name with
  | false => simp
  | true => simp

/-- One more candidate is dropped if its accessor name is taken. -/
theorem droppedCandidates_append_singleton
    (found : List Definition)
    (added : Definition) :
    droppedCandidates (found ++ [added]) =
      droppedCandidates found ++
        if isNew found added.name then [] else [added] := by
  rw [droppedCandidates, verdicts_append_singleton, List.filter_append,
    List.map_append, droppedCandidates]
  cases fresh : isNew found added.name with
  | false => simp
  | true => simp

/-- The kept candidates are candidates, in their order. -/
theorem keptCandidates_sublist
    (found : List Definition) :
    keptCandidates found <+ found := by
  have picked :
      keptCandidates found <+ (verdicts found).map Prod.fst :=
    List.filter_sublist.map Prod.fst
  rwa [map_fst_verdicts] at picked

/-- No two kept candidates have one accessor name. -/
theorem nodup_names_keptCandidates
    (found : List Definition) :
    ((keptCandidates found).map Definition.name).Nodup := by
  induction found using List.reverseRecOn with
  | nil => exact List.nodup_nil
  | append_singleton found added inductionHypothesis =>
      rw [keptCandidates_append_singleton, List.map_append]
      split
      · rename_i fresh
        refine List.nodup_append.mpr
          ⟨inductionHypothesis, List.nodup_singleton _, ?_⟩
        intro name isKept other isAdded
        obtain ⟨earlier, member, rfl⟩ := List.mem_map.mp isKept
        obtain rfl := List.mem_singleton.mp isAdded
        exact isNew_eq_true_iff.mp fresh earlier
          ((keptCandidates_sublist found).subset member)
      · simpa using inductionHypothesis

/-- Each candidate is either kept or dropped. -/
theorem length_keptCandidates_add
    (found : List Definition) :
    (keptCandidates found).length + (droppedCandidates found).length =
      found.length := by
  have all := congrArg List.length (map_fst_verdicts found)
  have parts := List.length_eq_length_filter_add (l := verdicts found)
    fun verdict => verdict.2
  rw [List.length_map] at all
  rw [keptCandidates, droppedCandidates, List.length_map, List.length_map]
  omega

namespace Registry

variable {model : String}

/-- The names that are taken are those of the candidates so far. -/
theorem contains_foldl_register_eq_false_iff
    (found : List Definition)
    (name : String) :
    (found.foldl
        (fun registry relation => register registry model relation)
        {}).contains name = false ↔ isNew found name = true := by
  rw [isNew_eq_true_iff]
  induction found using List.reverseRecOn with
  | nil => simp [contains, get?]
  | append_singleton found added inductionHypothesis =>
      rw [List.foldl_append, List.foldl_cons, List.foldl_nil,
        contains_register_eq_false_iff, inductionHypothesis]
      simp [or_imp, forall_and]

/--
Registering settles every candidate: the first with each accessor name is
among the relations, and every other one is reported, both in the order of
the candidates.
-/
theorem foldl_register
    (found : List Definition) :
    found.foldl
        (fun registry relation => register registry model relation) {} =
      { relations := keptCandidates found
        diagnostics :=
          (droppedCandidates found).map (collision model) } := by
  induction found using List.reverseRecOn with
  | nil => rfl
  | append_singleton found added inductionHypothesis =>
      have free :=
        @contains_foldl_register_eq_false_iff model found added.name
      rw [inductionHypothesis] at free
      rw [List.foldl_append, List.foldl_cons, List.foldl_nil,
        keptCandidates_append_singleton, droppedCandidates_append_singleton,
        inductionHypothesis, Registry.register]
      cases fresh : isNew found added.name with
      | false =>
          have taken := mt free.mp (by simp [fresh])
          simp [Bool.not_eq_false _ ▸ taken]
      | true => simp [free.mpr fresh]

end Registry

/-! ## The candidates of a model -/

/-- The column whose ending makes a model the child of a relation is the id
column of the relation. -/
theorem idColumn_of_morphToOf?
    {options : Options}
    {keyColumns columns : List String}
    {column : String}
    {relation : Definition}
    (detected :
      morphToOf? options keyColumns columns column = some relation) :
    relation.discriminator.map Discriminator.idColumn = some column := by
  unfold morphToOf? at detected
  split at detected
  · cases detected
  · obtain ⟨_, made⟩ := Option.ite_none_left_eq_some.mp detected
    obtain rfl := Option.some.inj made
    rfl

/-- The discriminator pairs of a model are detected in the order of their id
columns. -/
theorem detectMorphTo_inColumnOrder
    (options : Options)
    (model : Model) :
    (detectMorphTo options model).map
        (fun relation => relation.discriminator.map Discriminator.idColumn) <+
      model.columns.map fun column => some column.columnName := by
  unfold detectMorphTo
  split
  · exact List.nil_sublist _
  · simp only
    generalize model.owningRelations.flatMap _ = keyColumns
    have inOrder :
        ∀ names columns : List String,
          (names.filterMap (morphToOf? options keyColumns columns)).map
              (fun relation =>
                relation.discriminator.map Discriminator.idColumn) <+
            names.map some := by
      intro names columns
      induction names with
      | nil => exact List.nil_sublist _
      | cons name rest inductionHypothesis =>
          cases detected : morphToOf? options keyColumns columns name with
          | none =>
              rw [List.filterMap_cons_none detected]
              exact inductionHypothesis.cons _
          | some relation =>
              rw [List.filterMap_cons_some detected, List.map_cons,
                idColumn_of_morphToOf? detected]
              exact inductionHypothesis.cons_cons _
    have sublist := inOrder (model.columns.map Field.columnName)
      (model.columns.map Field.columnName)
    rwa [List.map_map] at sublist

/--
The candidates of a model: first those of its relation fields, in the order of
declaration, then its discriminator pairs, in the order of the id columns, and
then the owning sides that its directives declare, in their order.
-/
structure Lists
    (options : Options)
    (document : Document)
    (model : Model)
    (found : List Definition) : Prop where
  sections :
    ∃ fromFields directives owners,
      List.Forall₂
          (fun field result =>
            inferDocumented options document model field = .ok result)
          model.relationFields fromFields ∧
        Directive.Set.ofDocumentation model.documentation =
          .ok directives ∧
        List.Forall₂
          (fun morph relation =>
            ownerMorph options document model morph = .ok relation)
          directives.morphs owners ∧
        found =
          fromFields.filterMap id ++ detectMorphTo options model ++ owners
  pairsInOrder :
    (detectMorphTo options model).map
        (fun relation => relation.discriminator.map Discriminator.idColumn) <+
      model.columns.map fun column => some column.columnName

/-- Candidates that can be inferred are listed. -/
theorem lists_of_candidates
    {options : Options}
    {document : Document}
    {model : Model}
    {found : List Definition}
    (inferred : candidates options document model = .ok found) :
    Lists options document model found := by
  obtain ⟨fromFields, ofFields, inferred⟩ :=
    Outcome.bind_eq_ok_iff.mp inferred
  obtain ⟨directives, read, inferred⟩ := Outcome.bind_eq_ok_iff.mp inferred
  obtain ⟨owners, ofMorphs, inferred⟩ :=
    Outcome.bind_eq_ok_iff.mp inferred
  obtain rfl := Except.ok.inj inferred
  exact
    { sections :=
        ⟨fromFields, directives, owners,
          Outcome.mapM_eq_ok_iff.mp ofFields, read,
          Outcome.mapM_eq_ok_iff.mp ofMorphs, rfl⟩
      pairsInOrder := detectMorphTo_inColumnOrder options model }

/--
A registry settles the candidates of a model, each exactly once: the relations
are the first candidates with their accessor names, and for every other
candidate there is one diagnostic, both in the order of the candidates.
-/
structure Registry.Settles
    (registry : Registry)
    (model : String)
    (found : List Definition) : Prop where
  kept : registry.relations = keptCandidates found
  reported :
    registry.diagnostics =
      (droppedCandidates found).map (Registry.collision model)
  ordered : registry.relations <+ found
  distinct : (registry.relations.map Definition.name).Nodup
  counted :
    registry.relations.length + registry.diagnostics.length = found.length

/-- Whatever the producers of candidates name them, each candidate becomes a
relation or is reported. -/
theorem inferModel_settles_candidates
    {options : Options}
    {document : Document}
    {name : String}
    {registry : Registry}
    (inferred : inferModel options document name = .ok registry) :
    ∃ model found,
      document.model? name = some model ∧
        Lists options document model found ∧
        registry.Settles model.name found := by
  obtain ⟨model, required, inferred⟩ := Outcome.bind_eq_ok_iff.mp inferred
  obtain ⟨found, isFound, inferred⟩ := Outcome.bind_eq_ok_iff.mp inferred
  obtain rfl := Except.ok.inj inferred
  refine ⟨model, found, Document.requireModel_eq_ok_iff.mp required,
    lists_of_candidates isFound, ?_⟩
  rw [Registry.foldl_register]
  exact
    { kept := rfl
      reported := rfl
      ordered := keptCandidates_sublist found
      distinct := nodup_names_keptCandidates found
      counted := by
        rw [List.length_map]
        exact length_keptCandidates_add found }

/-! ## Comments with colliding accessors -/

/-- Comments belong to a user under the name of their own discriminator pair.
Their documentation declares marks, and a latest mark under that name once
more. -/
def commentModel : Model :=
  { name := "Comment"
    documentation := some
      ("@morph(name: markable, type: many, model: Mark) " ++
        "@morph(name: markable, type: one, model: Mark, as: commentable)")
    fields :=
      [ .autoincrementId, .scalar "commentable_id" "Int",
        .scalar "commentable_type" "String", .scalar "ownerRef" "Int",
        (Field.relation "commentable" "User").references ["ownerRef"]
          ["id"] ] }

def commentDocument : Document :=
  { models :=
      [ commentModel,
        { name := "User"
          fields :=
            [.autoincrementId, (Field.relation "comments" "Comment").list] },
        { name := "Mark", fields := [.autoincrementId] } ] }

/-- How a diagnostic about an accessor name ends. -/
def collides : String :=
  " collides with an existing accessor and was dropped"

/-- All three producers name an accessor of a comment `commentable`.  The
relation field keeps the name, and the other two are reported in order. -/
theorem inferModel_settles_candidates_comment :
    ∃ registry,
      inferModel {} commentDocument "Comment" = .ok registry ∧
        registry.relations.map
            (fun relation => (relation.name, relation.kind)) =
          [("commentable", .belongsTo), ("marks", .morphMany)] ∧
        registry.diagnostics =
          [ "Comment: relation 'commentable' (morphTo)" ++ collides,
            "Comment: relation 'commentable' (morphOne)" ++ collides ] ∧
        ∃ model found,
          commentDocument.model? "Comment" = some model ∧
            Lists {} commentDocument model found ∧
            registry.Settles model.name found := by
  have outcome :
      (inferModel {} commentDocument "Comment").map
          (fun registry =>
            (registry.relations.map
              (fun relation => (relation.name, relation.kind)),
              registry.diagnostics)) =
        .ok
          ([("commentable", .belongsTo), ("marks", .morphMany)],
            [ "Comment: relation 'commentable' (morphTo)" ++ collides,
              "Comment: relation 'commentable' (morphOne)" ++ collides ]) := by
    decide +kernel
  obtain ⟨registry, inferred, shown⟩ := Outcome.map_eq_ok_iff.mp outcome
  obtain ⟨names, messages⟩ := Prod.mk.inj shown
  exact ⟨registry, inferred, names, messages,
    inferModel_settles_candidates inferred⟩

end Tablewright.Relation
