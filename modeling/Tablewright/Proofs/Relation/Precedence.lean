import Tablewright.Proofs.Relation.Failure
import Tablewright.Proofs.Relation.Symmetry

namespace Tablewright.Relation

/-!
# Precedence of relations

What is inferred for a relation field is laid down in a table, which looks at
the field and its counterpart only: whether they are lists, whether they own
their keys, and whether the counterpart belongs to a junction model.  At most
one row of the table applies to a field, and where none does there is no
relation.
-/

open Schema

/-- What is inferred for a field, in outline. -/
inductive Verdict where
  | related (kind : Kind) (target : Option String)
  | unrelated
  | rejected
  deriving Repr, DecidableEq

/-- The outline of an outcome. -/
def Verdict.of : Outcome (Option Definition) → Verdict
  | .ok (some relation) => .related relation.kind relation.target
  | .ok none => .unrelated
  | .error _ => .rejected

/-- A model is the junction of two keys: it owns no other one, they share no
column, and together they are unique in each row. -/
structure IsJunction (pivot : Model) (back other : Field) : Prop where
  keys : ∀ key, key ∈ pivot.owningRelations ↔ key = back ∨ key = other
  apart : other ≠ back
  disjoint :
    ∀ column ∈ pivot.columnsOf back.relationFromFields,
      column ∉ pivot.columnsOf other.relationFromFields
  unique :
    ∃ columns ∈ pivot.uniqueSets, ∀ column,
      column ∈ columns ↔
        column ∈ pivot.columnsOf back.relationFromFields ∨
          column ∈ pivot.columnsOf other.relationFromFields

/-- The table of relations: a field with its target and its counterpart, and
what is inferred for it. -/
inductive Precedence (field : Field) (target : Model) :
    Option Field → Verdict → Prop
  | belongsTo
      {counterpart : Option Field}
      (single : field.isList = false)
      (owning : field.isOwning = true) :
      Precedence field target counterpart
        (.related .belongsTo target.name)
  | hasOne
      {other : Field}
      (single : field.isList = false)
      (notOwning : field.isOwning = false)
      (otherOwning : other.isOwning = true)
      (otherSingle : other.isList = false) :
      Precedence field target (some other) (.related .hasOne target.name)
  | hasManyOfSingle
      {other : Field}
      (single : field.isList = false)
      (notOwning : field.isOwning = false)
      (otherOwning : other.isOwning = true)
      (otherIsList : other.isList = true) :
      Precedence field target (some other) (.related .hasMany target.name)
  | implicit
      {other : Field}
      (isList : field.isList = true)
      (notOwning : field.isOwning = false)
      (otherNotOwning : other.isOwning = false)
      (otherIsList : other.isList = true) :
      Precedence field target (some other)
        (.related .belongsToManyImplicit target.name)
  | explicit
      {back other : Field}
      (isList : field.isList = true)
      (notOwning : field.isOwning = false)
      (backOwning : back.isOwning = true)
      (junction : IsJunction target back other) :
      Precedence field target (some back)
        (.related .belongsToManyExplicit other.typeName)
  | hasMany
      {back : Field}
      (isList : field.isList = true)
      (backOwning : back.isOwning = true)
      (noJunction :
        field.isOwning = false → ∀ other, ¬IsJunction target back other) :
      Precedence field target (some back) (.related .hasMany target.name)
  | rejected
      (notOwning : field.isOwning = false) :
      Precedence field target none .rejected

/-- Where the counterpart owns its key, some row of the table applies. -/
theorem Precedence.exists_of_owning
    {field other : Field}
    {target : Model}
    (otherOwning : other.isOwning = true) :
    ∃ verdict, Precedence field target (some other) verdict := by
  cases isList : field.isList with
  | true =>
      by_cases leads :
          field.isOwning = false ∧ ∃ onward, IsJunction target other onward
      · obtain ⟨notOwning, onward, junction⟩ := leads
        exact ⟨_, .explicit isList notOwning otherOwning junction⟩
      · exact ⟨_, .hasMany isList otherOwning
          fun notOwning onward junction =>
            leads ⟨notOwning, onward, junction⟩⟩
  | false =>
      cases owning : field.isOwning with
      | true => exact ⟨_, .belongsTo isList owning⟩
      | false =>
          cases otherIsList : other.isList with
          | true =>
              exact ⟨_, .hasManyOfSingle isList owning otherOwning
                otherIsList⟩
          | false =>
              exact ⟨_, .hasOne isList owning otherOwning otherIsList⟩

/-- Whether a column is to be read along with relations through its table. -/
def isPivotColumn (column : Field) : Bool :=
  match Directive.Set.ofDocumentation column.documentation with
  | .ok directives => directives.pivot
  | .error _ => false

/-! ## Junction models -/

/-- Among fields with distinct names, a junction has exactly one key besides
the one that leads back, and both lead to the same model just if that model
is referred to twice. -/
theorem IsJunction.owningRelations
    {pivot : Model}
    {back other : Field}
    (junction : IsJunction pivot back other)
    (nodup : (pivot.fields.map Field.name).Nodup) :
    pivot.owningRelations.Perm [back, other] ∧ back.name ≠ other.name := by
  have nodupOwning : pivot.owningRelations.Nodup :=
    nodup.of_map.filter Field.isOwning
  have nodupPair : [back, other].Nodup := by
    simpa using junction.apart.symm
  refine ⟨(List.perm_ext_iff_of_nodup nodupOwning nodupPair).mpr
    fun key => (junction.keys key).trans List.mem_pair.symm, ?_⟩
  intro named
  have backIn := (junction.keys back).mpr (Or.inl rfl)
  have otherIn := (junction.keys other).mpr (Or.inr rfl)
  exact junction.apart.symm
    (List.inj_on_of_nodup_map nodup (List.mem_filter.mp backIn).1
      (List.mem_filter.mp otherIn).1 named)

/-- A junction refers to a model once for each of its keys that leads there. -/
theorem IsJunction.length_references
    {model pivot : Model}
    {back other : Field}
    (junction : IsJunction pivot back other)
    (nodup : (pivot.fields.map Field.name).Nodup)
    (returns : back.typeName = model.name) :
    (pivot.owningRelations.filter
        (fun key => key.typeName == model.name)).length =
      if other.typeName = model.name then 2 else 1 := by
  have references :=
    ((junction.owningRelations nodup).1.filter
      (fun key => key.typeName == model.name)).length_eq
  rw [references]
  by_cases joined : other.typeName = model.name
  · simp [joined, returns]
  · simp [joined, returns]

/-- The keys of a junction model are found just if it is a junction. -/
theorem junctionKeys?_eq_some_iff_isJunction
    {model pivot : Model}
    (nodup : (pivot.fields.map Field.name).Nodup)
    {field back : Field}
    (backIn : back ∈ pivot.relationFields)
    (returns : back.typeName = model.name)
    {keys : JunctionKeys} :
    junctionKeys? model field pivot back = some keys ↔
      field.isOwning = false ∧
        IsJunction pivot back keys.other ∧
        keys.backColumns = pivot.columnsOf back.relationFromFields ∧
        keys.otherColumns =
          pivot.columnsOf keys.other.relationFromFields := by
  rw [junctionKeys?_eq_some_iff]
  constructor
  · rintro ⟨⟨backOwning, notOwning⟩, isOnly, _, backColumns, otherColumns,
      disjoint, columns, inSets, unique⟩
    have backOwns : back ∈ pivot.owningRelations :=
      List.mem_filter.mpr ⟨(List.mem_filter.mp backIn).1, backOwning⟩
    obtain ⟨pair, different⟩ := owningRelations_perm nodup backOwns isOnly
    refine ⟨notOwning, ⟨?_, ?_, ?_, columns, inSets, ?_⟩, backColumns,
      otherColumns⟩
    · exact fun key => pair.mem_iff.trans List.mem_pair
    · exact fun same => different (congrArg Field.name same.symm)
    · rw [← backColumns, ← otherColumns]
      exact disjoint
    · intro column
      rw [← backColumns, ← otherColumns, ← List.mem_append,
        ← Text.mem_sortedDistinct, unique, Text.mem_sortedDistinct]
  · rintro ⟨notOwning, junction, backColumns, otherColumns⟩
    obtain ⟨pair, different⟩ := junction.owningRelations nodup
    have backOwns := (junction.keys back).mpr (Or.inl rfl)
    obtain ⟨columns, inSets, unique⟩ := junction.unique
    refine ⟨⟨(List.mem_filter.mp backOwns).2, notOwning⟩, ?_,
      junction.length_references nodup returns, backColumns, otherColumns,
      ?_, columns, inSets, ?_⟩
    · have others := pair.filter (fun key => key.name != back.name)
      simpa [different.symm] using others
    · rw [backColumns, otherColumns]
      exact junction.disjoint
    · rw [backColumns, otherColumns]
      refine Text.sortedDistinct_congr fun column => ?_
      rw [List.mem_append]
      exact unique column

/-- A model has no keys of a junction for a counterpart if it is no
junction. -/
theorem junctionKeys?_eq_none
    {model pivot : Model}
    (nodup : (pivot.fields.map Field.name).Nodup)
    {field back : Field}
    (found : counterpart? model field pivot = some back)
    (noJunction :
      field.isOwning = false → ∀ other, ¬IsJunction pivot back other) :
    junctionKeys? model field pivot back = none := by
  obtain ⟨backIn, _, returns, _⟩ := counterpart?_eq_some found
  cases isKeys : junctionKeys? model field pivot back with
  | none => rfl
  | some keys =>
      obtain ⟨notOwning, junction, _⟩ :=
        (junctionKeys?_eq_some_iff_isJunction nodup backIn returns).mp
          isKeys
      exact (noJunction notOwning keys.other junction).elim

/-- The columns that are read along are the pivot columns outside of the
keys, in their order. -/
theorem extraColumns_eq_ok
    {keyColumns : List String}
    {columns : List Field}
    {extra : List String}
    (found : extraColumns keyColumns columns = .ok extra) :
    extra =
      (columns.filter fun column =>
        isPivotColumn column &&
          !keyColumns.contains column.columnName).map
        Field.columnName := by
  induction columns generalizing extra with
  | nil =>
      obtain rfl := Except.ok.inj found
      rfl
  | cons column rest inductionHypothesis =>
      obtain ⟨directives, read, found⟩ := Outcome.bind_eq_ok_iff.mp found
      obtain ⟨others, areOthers, found⟩ := Outcome.bind_eq_ok_iff.mp found
      have flagged : isPivotColumn column = directives.pivot := by
        rw [isPivotColumn, read]
      rw [List.filter_cons, flagged]
      split at found
      · rename_i along
        obtain rfl := Except.ok.inj found
        rw [if_pos along, List.map_cons, inductionHypothesis areOthers]
      · rename_i left
        obtain rfl := Except.ok.inj found
        rw [if_neg left, inductionHypothesis areOthers]

/-! ## Fields -/

section Fields

variable {options : Options} {document : Document}
variable {model target : Model} {field : Field}
variable (isTarget : document.model? field.typeName = some target)
variable (directives : Directive.Set)

include isTarget

theorem inferField_of_single
    (single : field.isList = false)
    (judged :
      field.isOwning = true ∨ counterpart? model field target ≠ none) :
    inferField options document model field directives =
      .ok (inferSingle model field target
        (counterpart? model field target)
        (options.accessorName field.name)) := by
  unfold inferField
  rw [Document.targetOf_eq_ok_iff.mpr isTarget, Outcome.ok_bind]
  have counted :
      (!field.isOwning &&
          (counterpart? model field target).isNone) = false := by
    rcases judged with owning | found
    · simp [owning]
    · rw [Option.isNone_eq_false_iff.mpr
        (Option.isSome_iff_ne_none.mpr found), Bool.and_false]
  simp only [counted, single, Bool.false_eq_true, ↓reduceIte]
  rfl

theorem inferField_of_alone
    (notOwning : field.isOwning = false)
    (alone : counterpart? model field target = none) :
    inferField options document model field directives =
      .error ((Inconsistency.noCounterpart field.name target.name).failure
        model.name) := by
  unfold inferField
  rw [Document.targetOf_eq_ok_iff.mpr isTarget, Outcome.ok_bind]
  simp [notOwning, alone]

/-- A list without a counterpart and a field whose counterpart owns no key
have no relation, if no row of the table applies. -/
theorem inferField_eq_none
    (never :
      ∀ verdict,
        ¬Precedence field target (counterpart? model field target)
          verdict) :
    inferField options document model field directives = .ok none := by
  cases isFound : counterpart? model field target with
  | none =>
      rw [isFound] at never
      have owning : field.isOwning = true := by
        by_contra notOwning
        exact never _ (.rejected (by simpa using notOwning))
      have isList : field.isList = true := by
        by_contra single
        exact never _ (.belongsTo (by simpa using single) owning)
      unfold inferField
      rw [Document.targetOf_eq_ok_iff.mpr isTarget, Outcome.ok_bind]
      simp [owning, isList, isFound, pure, Except.pure]
  | some other =>
      rw [isFound] at never
      have otherNotOwning : other.isOwning = false := by
        by_contra otherOwning
        obtain ⟨verdict, precedes⟩ :=
          Precedence.exists_of_owning (by simpa using otherOwning)
        exact never verdict precedes
      cases isList : field.isList with
      | true =>
          have notImplicit : ¬(field.isOwning = false ∧ other.isList = true) :=
            fun ⟨notOwning, otherIsList⟩ => never _
              (.implicit isList notOwning otherNotOwning otherIsList)
          rw [inferField_of_isList directives isTarget isFound isList,
            inferList, if_neg (by simpa [otherNotOwning] using notImplicit),
            explicitManyToMany?, junctionKeys?,
            if_pos (by simp [otherNotOwning])]
          simp [Outcome.ok_bind, otherNotOwning, pure, Except.pure]
      | false =>
          have notOwning : field.isOwning = false := by
            by_contra owning
            exact never _ (.belongsTo isList (by simpa using owning))
          rw [inferField_of_single isTarget directives isList
            (Or.inr (by simp [isFound])), isFound]
          simp [inferSingle, notOwning, otherNotOwning]

end Fields

section Closed

variable {options : Options} {document : Document}
variable (closed : document.Closed)
variable {model target : Model} {field : Field}
variable (isTarget : document.model? field.typeName = some target)
variable (directives : Directive.Set)

include closed isTarget

/-- A list that leads through a junction has a relation to the target of the
other key, with the pivot columns outside of both keys. -/
theorem exists_explicit_of_isJunction
    {back other : Field}
    (found : counterpart? model field target = some back)
    (isList : field.isList = true)
    (notOwning : field.isOwning = false)
    (junction : IsJunction target back other) :
    ∃ relation through,
      inferField options document model field directives =
          .ok (some relation) ∧
        relation.kind = .belongsToManyExplicit ∧
        relation.target = some other.typeName ∧
        relation.junction = some through ∧
        through.extraColumns =
          (target.columns.filter fun column =>
            isPivotColumn column &&
              !(target.columnsOf back.relationFromFields ++
                target.columnsOf other.relationFromFields).contains
                  column.columnName).map
            Field.columnName := by
  have targetIn := (Document.mem_of_model? isTarget).1
  have nodup := closed.fields target targetIn
  obtain ⟨backIn, _, returns, _⟩ := counterpart?_eq_some found
  let keys : JunctionKeys :=
    ⟨other, target.columnsOf back.relationFromFields,
      target.columnsOf other.relationFromFields⟩
  have areKeys : junctionKeys? model field target back = some keys :=
    (junctionKeys?_eq_some_iff_isJunction nodup backIn returns).mpr
      ⟨notOwning, junction, rfl, rfl⟩
  have backOwns := (junction.keys back).mpr (Or.inl rfl)
  have otherOwns := (junction.keys other).mpr (Or.inr rfl)
  obtain ⟨related, isRelated, _⟩ :=
    (closed.model target targetIn).relation other
      (target.owningRelations_subset otherOwns)
  obtain ⟨pivotDirectives, read⟩ :=
    closed.modelDocumentation target targetIn
  have readable :
      ∀ column ∈ target.columns, ∃ directives,
        Directive.Set.ofDocumentation column.documentation =
          .ok directives :=
    fun column member =>
      closed.fieldDocumentation target targetIn column
        (List.mem_filter.mp member).1
  obtain ⟨extra, isExtra⟩ :=
    exists_extraColumns
      (target.columnsOf back.relationFromFields ++
        target.columnsOf other.relationFromFields) readable
  refine ⟨explicitRelation model field target back keys related extra
    directives pivotDirectives (options.accessorName field.name), _, ?_,
    rfl, ?_, rfl, extraColumns_eq_ok isExtra⟩
  · rw [inferField_of_isList directives isTarget found isList]
    refine inferList_of_explicitManyToMany? (List.mem_filter.mp backOwns).2
      (explicitManyToMany?_eq_ok_some_iff.mpr
        ⟨keys, related, pivotDirectives, extra, areKeys, isRelated, read,
          isExtra, rfl⟩)
  · exact congrArg some (Document.mem_of_model? isRelated).2

/-- Each row of the table says what is inferred. -/
theorem of_precedence
    (options : Options)
    {verdict : Verdict}
    (precedes :
      Precedence field target (counterpart? model field target) verdict) :
    Verdict.of (inferField options document model field directives) =
      verdict := by
  have targetIn := (Document.mem_of_model? isTarget).1
  have nodup := closed.fields target targetIn
  generalize isFound : counterpart? model field target = found at precedes
  cases precedes with
  | belongsTo single owning =>
      rw [inferField_of_single isTarget directives single (Or.inl owning)]
      simp only [inferSingle, owning, ↓reduceIte]
      rfl
  | hasOne single notOwning otherOwning otherSingle =>
      rw [inferField_of_single isTarget directives single
        (Or.inr (by simp [isFound])), isFound]
      simp only [inferSingle, notOwning, otherOwning, otherSingle,
        Bool.false_eq_true, ↓reduceIte]
      rfl
  | hasManyOfSingle single notOwning otherOwning otherIsList =>
      rw [inferField_of_single isTarget directives single
        (Or.inr (by simp [isFound])), isFound]
      simp only [inferSingle, notOwning, otherOwning, otherIsList,
        Bool.false_eq_true, ↓reduceIte]
      rfl
  | implicit isList notOwning otherNotOwning otherIsList =>
      rw [inferField_of_isList directives isTarget isFound isList,
        inferList,
        if_pos (by simp [notOwning, otherNotOwning, otherIsList])]
      rfl
  | explicit isList notOwning backOwning junction =>
      obtain ⟨relation, _, inferred, kind, leadsTo, _⟩ :=
        exists_explicit_of_isJunction closed isTarget directives isFound
          isList notOwning junction
      rw [inferred, Verdict.of, kind, leadsTo]
  | hasMany isList backOwning noJunction =>
      have noKeys := junctionKeys?_eq_none nodup isFound noJunction
      rw [inferField_of_isList directives isTarget isFound isList,
        inferList, if_neg (by simp [backOwning]), explicitManyToMany?,
        noKeys]
      simp only [Outcome.ok_bind, backOwning, ↓reduceIte]
      rfl
  | rejected notOwning =>
      rw [inferField_of_alone isTarget directives notOwning isFound]
      rfl

/-- What is inferred for a relation field is what the table of relations says,
and there is no relation where the table says nothing. -/
theorem verdict_eq_iff
    (verdict : Verdict) :
    Verdict.of (inferField options document model field directives) =
        verdict ↔
      Precedence field target (counterpart? model field target) verdict ∨
        verdict = .unrelated ∧
          ∀ other,
            ¬Precedence field target (counterpart? model field target)
              other := by
  by_cases ruled :
      ∃ row,
        Precedence field target (counterpart? model field target) row
  · obtain ⟨row, precedes⟩ := ruled
    rw [of_precedence closed isTarget directives options precedes]
    constructor
    · rintro rfl
      exact Or.inl precedes
    · rintro (other | ⟨_, never⟩)
      · rw [← of_precedence closed isTarget directives options precedes,
          of_precedence closed isTarget directives options other]
      · exact (never row precedes).elim
  · have never := not_exists.mp ruled
    rw [inferField_eq_none isTarget directives never]
    constructor
    · rintro rfl
      exact Or.inr ⟨rfl, never⟩
    · rintro (precedes | ⟨rfl, _⟩)
      · exact (never _ precedes).elim
      · rfl

end Closed

/--
What is inferred for a relation field of a valid document is what the table of
relations says, and there is no relation where the table says nothing.  A list
that leads through a junction reads the pivot columns outside of both keys
along, in their order; such a junction always refers to the model as often as
the inference expects.
-/
theorem inferField_follows_precedence
    {document : Document}
    (valid : document.validate.errors = [])
    {model : Model}
    (inDocument : model ∈ document.models)
    {field : Field}
    (member : field ∈ model.relationFields)
    (options : Options)
    (directives : Directive.Set) :
    ∃ target,
      document.model? field.typeName = some target ∧
        (∀ verdict,
          Verdict.of (inferField options document model field directives) =
              verdict ↔
            Precedence field target (counterpart? model field target)
                verdict ∨
              verdict = .unrelated ∧
                ∀ other,
                  ¬Precedence field target
                    (counterpart? model field target) other) ∧
        ∀ back other,
          counterpart? model field target = some back →
          field.isList = true →
          field.isOwning = false →
          IsJunction target back other →
          (target.owningRelations.filter
              (fun key => key.typeName == model.name)).length =
              (if other.typeName = model.name then 2 else 1) ∧
            ∃ relation through,
              inferField options document model field directives =
                  .ok (some relation) ∧
                relation.kind = .belongsToManyExplicit ∧
                relation.target = some other.typeName ∧
                relation.junction = some through ∧
                through.extraColumns =
                  (target.columns.filter fun column =>
                    isPivotColumn column &&
                      !(target.columnsOf back.relationFromFields ++
                        target.columnsOf
                          other.relationFromFields).contains
                            column.columnName).map
                    Field.columnName := by
  have closed := Document.closed_of_valid valid
  obtain ⟨target, isTarget, _⟩ :=
    (closed.model model inDocument).relation field member
  refine ⟨target, isTarget, verdict_eq_iff closed isTarget directives, ?_⟩
  intro back other found isList notOwning junction
  obtain ⟨_, _, returns, _⟩ := counterpart?_eq_some found
  have nodup :=
    closed.fields target (Document.mem_of_model? isTarget).1
  exact ⟨junction.length_references nodup returns,
    exists_explicit_of_isJunction closed isTarget directives found isList
      notOwning junction⟩

/-- Students are related to courses through their enrollments, along with the
grade; the other key of an enrollment leads on. -/
theorem inferField_follows_precedence_school :
    schoolDocument.validate.errors = [] ∧
      schoolStudent ∈ schoolDocument.models ∧
      schoolList "enrollments" "Enrollment" "Learner" ∈
        schoolStudent.relationFields ∧
      IsJunction schoolEnrollment schoolLearner schoolLesson ∧
      Verdict.of
          (inferField {} schoolDocument schoolStudent
            (schoolList "enrollments" "Enrollment" "Learner") {}) =
        .related .belongsToManyExplicit "Course" ∧
      ∃ relation through,
        inferField {} schoolDocument schoolStudent
            (schoolList "enrollments" "Enrollment" "Learner") {} =
            .ok (some relation) ∧
          relation.junction = some through ∧
          through.extraColumns = ["grade"] := by
  have valid : schoolDocument.validate.errors = [] := by decide +kernel
  have inDocument : schoolStudent ∈ schoolDocument.models := by decide
  have member :
      schoolList "enrollments" "Enrollment" "Learner" ∈
        schoolStudent.relationFields := by
    decide
  obtain ⟨target, isTarget, follows, explicit⟩ :=
    inferField_follows_precedence valid inDocument member {} {}
  have isPivot :
      schoolDocument.model? "Enrollment" = some schoolEnrollment := by
    decide +kernel
  obtain rfl := Option.some.inj (isPivot.symm.trans isTarget)
  have found :
      counterpart? schoolStudent
          (schoolList "enrollments" "Enrollment" "Learner")
          schoolEnrollment =
        some schoolLearner := by
    decide +kernel
  have junction :
      IsJunction schoolEnrollment schoolLearner schoolLesson := by
    have owning :
        schoolEnrollment.owningRelations =
          [schoolLearner, schoolLesson] := by
      decide
    refine ⟨fun key => by rw [owning, List.mem_pair], by decide,
      by decide, ["studentId", "courseId"], by decide, fun column => ?_⟩
    have columns :
        schoolEnrollment.columnsOf schoolLearner.relationFromFields =
            ["studentId"] ∧
          schoolEnrollment.columnsOf schoolLesson.relationFromFields =
            ["courseId"] := by
      decide
    rw [columns.1, columns.2, List.mem_pair, List.mem_singleton,
      List.mem_singleton]
  obtain ⟨_, relation, through, inferred, _, _, isThrough, extra⟩ :=
    explicit schoolLearner schoolLesson found rfl rfl junction
  refine ⟨valid, inDocument, member, junction, ?_, relation, through,
    inferred, isThrough, ?_⟩
  · rw [follows, found]
    exact Or.inl (.explicit rfl rfl rfl junction)
  · rw [extra]
    decide +kernel

end Tablewright.Relation
