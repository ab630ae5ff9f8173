import Mathlib.Data.List.Nodup
import Mathlib.Data.String.Basic
import Tablewright.Proofs.Relation.Inference
import Tablewright.Proofs.Schema.Closed
import Tablewright.Proofs.Text.Order

namespace Tablewright.Relation

/-!
# Both ends of a many-to-many relation

The two fields of a many-to-many relation are judged apart, each from its own
model.  They nevertheless agree on the junction table: what is the own side
for one of them is the related side for the other.
-/

open Schema

/-- Two relations lead through one junction table in opposite directions. -/
structure Definition.Mirrors (relation mirrored : Definition) : Prop where
  kind_eq : mirrored.kind = relation.kind
  localKeys_eq : mirrored.localKeys = relation.foreignKeys
  foreignKeys_eq : mirrored.foreignKeys = relation.localKeys
  junction :
    ∃ near far,
      relation.junction = some near ∧
        mirrored.junction = some far ∧
        far.table = near.table ∧
        far.ownKeys = near.relatedKeys ∧
        far.relatedKeys = near.ownKeys ∧
        far.usingModel = near.usingModel ∧
        far.extraColumns = near.extraColumns

/-! ## List fields -/

theorem inferField_of_isList
    {options : Options}
    {document : Document}
    {model target : Model}
    {field other : Field}
    (directives : Directive.Set)
    (isTarget : document.model? field.typeName = some target)
    (found : counterpart? model field target = some other)
    (isList : field.isList = true) :
    inferField options document model field directives =
      inferList document model field target other directives
        (options.accessorName field.name) := by
  unfold inferField
  rw [Document.targetOf_eq_ok_iff.mpr isTarget]
  simp only [bind, Except.bind, found, isList, Option.isNone_some,
    Bool.and_false, Bool.false_eq_true, ↓reduceIte]

/-! ## Conventional junction tables -/

/-- The name of a junction table does not depend on the side. -/
theorem junctionTable_comm (first second : String) :
    Naming.junctionTable first second =
      Naming.junctionTable second first := by
  unfold Naming.junctionTable
  rcases lt_trichotomy first second with before | same | after
  · rw [if_neg before.asymm, if_pos before]
  · rw [same]
  · rw [if_pos after, if_neg after.asymm]

/-- The own columns of one side are the related columns of the other. -/
theorem implicitKeys_swap
    {model target : Model}
    {field other : Field}
    (apart :
      model.name = target.name →
        model = target ∧ field.name ≠ other.name) :
    implicitKeys target other model field =
      (implicitKeys model field target other).swap := by
  unfold implicitKeys
  by_cases named : model.name = target.name
  · obtain ⟨rfl, different⟩ := apart named
    rcases lt_or_gt_of_ne different with before | after
    · simp only [↓reduceIte, before, before.asymm,
        Prod.swap_prod_mk]
    · simp only [↓reduceIte, after, after.asymm,
        Prod.swap_prod_mk]
  · have renamed : target.name ≠ model.name := fun back =>
      named back.symm
    simp only [named, renamed, ↓reduceIte, Prod.swap_prod_mk]

theorem implicitManyToMany_mirrors
    {model target : Model}
    {field other : Field}
    (apart :
      model.name = target.name →
        model = target ∧ field.name ≠ other.name)
    (directives otherDirectives : Directive.Set)
    (name otherName : String) :
    (implicitManyToMany model field target other directives
      name).Mirrors
        (implicitManyToMany target other model field otherDirectives
          otherName) := by
  have swapped := implicitKeys_swap apart
  refine ⟨rfl, rfl, rfl, _, _, rfl, rfl, ?_, ?_, ?_, rfl, rfl⟩
  · exact junctionTable_comm _ _
  · exact congrArg Prod.fst swapped
  · exact congrArg Prod.snd swapped

/-! ## Junction models -/

/-- A junction model owns the key that leads back and the one that leads on,
and no other. -/
theorem owningRelations_perm
    {pivot : Model}
    (nodup : (pivot.fields.map Field.name).Nodup)
    {back onward : Field}
    (backIn : back ∈ pivot.owningRelations)
    (isOnly :
      pivot.owningRelations.filter (fun key => key.name != back.name) =
        [onward]) :
    pivot.owningRelations.Perm [back, onward] ∧
      back.name ≠ onward.name := by
  have picked :
      ∀ key,
        (key ∈ pivot.owningRelations ∧ key.name ≠ back.name) ↔
          key = onward := by
    intro key
    rw [← List.mem_singleton, ← isOnly, List.mem_filter]
    simp
  have different : onward.name ≠ back.name := ((picked onward).mpr rfl).2
  refine ⟨?_, different.symm⟩
  have nodupOwning : pivot.owningRelations.Nodup :=
    nodup.of_map.filter Field.isOwning
  have nodupPair : [back, onward].Nodup := by
    have distinct : back ≠ onward := fun same =>
      different (congrArg Field.name same.symm)
    simpa using distinct
  refine (List.perm_ext_iff_of_nodup nodupOwning nodupPair).mpr ?_
  intro key
  rw [List.mem_pair]
  constructor
  · intro member
    by_cases named : key.name = back.name
    · exact Or.inl (List.inj_on_of_nodup_map nodup
        (List.mem_filter.mp member).1 (List.mem_filter.mp backIn).1 named)
    · exact Or.inr ((picked key).mp ⟨member, named⟩)
  · rintro (rfl | rfl)
    · exact backIn
    · exact ((picked key).mpr rfl).1

/-- A junction model is one from either end, with its keys exchanged. -/
theorem junctionKeys?_swap
    {model target pivot : Model}
    (nodup : (pivot.fields.map Field.name).Nodup)
    {field other back : Field}
    (backIn : back ∈ pivot.owningRelations)
    {keys : JunctionKeys}
    (found : junctionKeys? model field pivot back = some keys)
    (leadsOn : keys.other.typeName = target.name)
    (notOwning : other.isOwning = false) :
    junctionKeys? target other pivot keys.other =
      some ⟨back, keys.otherColumns, keys.backColumns⟩ := by
  obtain ⟨_, isOnly, _, backColumns, otherColumns, disjoint, columns,
    inSets, unique⟩ := junctionKeys?_eq_some_iff.mp found
  obtain ⟨pair, different⟩ := owningRelations_perm nodup backIn isOnly
  have owning : keys.other.isOwning = true :=
    (List.mem_filter.mp
      (pair.mem_iff.mpr (List.mem_cons_of_mem _ List.mem_cons_self))).2
  refine junctionKeys?_eq_some_iff.mpr
    ⟨⟨owning, notOwning⟩, ?_, ?_, otherColumns, backColumns, ?_, columns,
      inSets, ?_⟩
  · have others :=
      pair.filter (fun key => key.name != keys.other.name)
    simpa [different] using others
  · have references :=
      (pair.filter (fun key => key.typeName == target.name)).length_eq
    rw [references]
    by_cases joined : back.typeName = target.name
    · simp [joined, leadsOn]
    · simp [joined, leadsOn]
  · intro column inOther inBack
    exact disjoint column inBack inOther
  · rw [unique]
    exact Text.sortedDistinct_congr fun column => by
      simp only [List.mem_append]
      exact or_comm

/-- Which columns are read along depends on the key columns, not on their
order. -/
theorem extraColumns_congr
    {first second : List String}
    (same : ∀ column, column ∈ first ↔ column ∈ second)
    (columns : List Field) :
    extraColumns first columns = extraColumns second columns := by
  induction columns with
  | nil => rfl
  | cons column rest inductionHypothesis =>
      have contains :
          first.contains column.columnName =
            second.contains column.columnName := by
        rw [Bool.eq_iff_iff, List.contains_iff_mem, List.contains_iff_mem]
        exact same column.columnName
      simp only [extraColumns, inductionHypothesis, contains]

/-- The relation of a field through a junction model with given keys. -/
def explicitRelation
    (model : Model)
    (field : Field)
    (pivot : Model)
    (back : Field)
    (keys : JunctionKeys)
    (related : Model)
    (extra : List String)
    (directives pivotDirectives : Directive.Set)
    (name : String) : Definition :=
  { name := name
    kind := .belongsToManyExplicit
    target := some related.name
    field := some field.name
    foreignKeys := related.columnsOf keys.other.relationToFields
    localKeys := model.columnsOf back.relationToFields
    junction := some {
      table := pivot.tableName
      ownKeys := keys.backColumns
      relatedKeys := keys.otherColumns
      extraColumns := extra
      timestamps := directives.timestamps || pivotDirectives.timestamps
      recordName := directives.pivotAlias.or pivotDirectives.pivotAlias
      usingModel := some pivot.name } }

theorem explicitManyToMany?_eq_ok_some_iff
    {document : Document}
    {model pivot : Model}
    {field back : Field}
    {directives : Directive.Set}
    {name : String}
    {relation : Definition} :
    explicitManyToMany? document model field pivot back directives name =
        .ok (some relation) ↔
      ∃ keys related pivotDirectives extra,
        junctionKeys? model field pivot back = some keys ∧
          document.model? keys.other.typeName = some related ∧
          Directive.Set.ofDocumentation pivot.documentation =
            .ok pivotDirectives ∧
          extraColumns (keys.backColumns ++ keys.otherColumns)
            pivot.columns = .ok extra ∧
          explicitRelation model field pivot back keys related extra
            directives pivotDirectives name = relation := by
  unfold explicitManyToMany?
  cases found : junctionKeys? model field pivot back with
  | none => simp
  | some keys =>
      simp only [Outcome.bind_eq_ok_iff, Document.targetOf_eq_ok_iff,
        pure, Except.pure, Except.ok.injEq, Option.some.injEq]
      constructor
      · rintro ⟨related, isRelated, pivotDirectives, read, extra, isExtra,
          rfl⟩
        exact ⟨keys, related, pivotDirectives, extra, rfl, isRelated, read,
          isExtra, rfl⟩
      · rintro ⟨_, related, pivotDirectives, extra, rfl, isRelated, read,
          isExtra, rfl⟩
        exact ⟨related, isRelated, pivotDirectives, read, extra, isExtra,
          rfl⟩

/-- A list field is led through a junction model by the keys of that model
only. -/
theorem explicitManyToMany?_of_inferList
    {document : Document}
    {model pivot : Model}
    {field back : Field}
    {directives : Directive.Set}
    {name : String}
    {relation : Definition}
    (inferred :
      inferList document model field pivot back directives name =
        .ok (some relation))
    (explicit : relation.kind = .belongsToManyExplicit) :
    explicitManyToMany? document model field pivot back directives name =
      .ok (some relation) := by
  unfold inferList at inferred
  split at inferred
  · obtain rfl := Option.some.inj (Except.ok.inj inferred)
    cases explicit
  · obtain ⟨found, isFound, inferred⟩ :=
      Outcome.bind_eq_ok_iff.mp inferred
    cases found with
    | some through =>
        obtain rfl := Option.some.inj (Except.ok.inj inferred)
        exact isFound
    | none =>
        simp only at inferred
        split at inferred
        · obtain rfl := Option.some.inj (Except.ok.inj inferred)
          cases explicit
        · cases inferred

theorem inferList_of_explicitManyToMany?
    {document : Document}
    {model pivot : Model}
    {field back : Field}
    {directives : Directive.Set}
    {name : String}
    {relation : Definition}
    (owning : back.isOwning = true)
    (found :
      explicitManyToMany? document model field pivot back directives name =
        .ok (some relation)) :
    inferList document model field pivot back directives name =
      .ok (some relation) := by
  unfold inferList
  rw [if_neg (by simp [owning]), found]
  rfl

/-! ## Both ends -/

section Ends

variable {options : Options}
variable {document : Document}
variable {model target : Model}

/-- Two lists that are each other's counterparts, with a key on neither side,
share a conventional junction table. -/
theorem exists_implicit_ends
    (distinct : document.Distinct)
    (inDocument : model ∈ document.models)
    (targetIn : target ∈ document.models)
    {field other : Field}
    (isList : field.isList = true)
    (notOwning : field.isOwning = false)
    (otherIsList : other.isList = true)
    (otherNotOwning : other.isOwning = false)
    (found : counterpart? model field target = some other)
    (foundBack : counterpart? target other model = some field)
    (directives otherDirectives : Directive.Set) :
    ∃ relation mirrored,
      inferField options document model field directives =
          .ok (some relation) ∧
        inferField options document target other otherDirectives =
          .ok (some mirrored) ∧
        relation.kind = .belongsToManyImplicit ∧
        relation.target = some target.name ∧
        mirrored.target = some model.name ∧
        relation.Mirrors mirrored := by
  obtain ⟨_, _, returns, different⟩ := counterpart?_eq_some found
  obtain ⟨_, _, leadsOn, _⟩ := counterpart?_eq_some foundBack
  have apart :
      model.name = target.name →
        model = target ∧ field.name ≠ other.name := by
    intro named
    refine ⟨?_, (different named.symm).symm⟩
    exact List.inj_on_of_nodup_map distinct.models inDocument targetIn named
  have isTarget : document.model? field.typeName = some target :=
    leadsOn ▸ distinct.model?_eq_some targetIn
  have isModel : document.model? other.typeName = some model :=
    returns ▸ distinct.model?_eq_some inDocument
  refine ⟨
    implicitManyToMany model field target other directives
      (options.accessorName field.name),
    implicitManyToMany target other model field otherDirectives
      (options.accessorName other.name),
    ?_, ?_, rfl, rfl, rfl, implicitManyToMany_mirrors apart _ _ _ _⟩
  · rw [inferField_of_isList directives isTarget found isList, inferList,
      if_pos (by simp [notOwning, otherNotOwning, otherIsList])]
  · rw [inferField_of_isList otherDirectives isModel foundBack otherIsList,
      inferList, if_pos (by simp [notOwning, otherNotOwning, isList])]

/-- A list that leads through a junction model is answered by the list of the
related model whose counterpart is the other key of the junction. -/
theorem exists_explicit_end
    (distinct : document.Distinct)
    (inDocument : model ∈ document.models)
    (targetIn : target ∈ document.models)
    {field other back onward : Field}
    {pivot : Model}
    {directives : Directive.Set}
    {relation : Definition}
    (isPivot : document.model? field.typeName = some pivot)
    (found : counterpart? model field pivot = some back)
    (isList : field.isList = true)
    (inferred :
      inferField options document model field directives =
        .ok (some relation))
    (explicit : relation.kind = .belongsToManyExplicit)
    (onwardIn : onward ∈ pivot.owningRelations)
    (apart : onward.name ≠ back.name)
    (otherIsPivot : document.model? other.typeName = some pivot)
    (otherFound : counterpart? target other pivot = some onward)
    (otherIsList : other.isList = true)
    (otherNotOwning : other.isOwning = false)
    (otherDirectives : Directive.Set) :
    ∃ mirrored,
      inferField options document target other otherDirectives =
          .ok (some mirrored) ∧
        relation.target = some target.name ∧
        mirrored.target = some model.name ∧
        (mirrored.junction.bind Junction.usingModel) =
          some pivot.name ∧
        relation.Mirrors mirrored := by
  obtain ⟨backIn, _, returns, _⟩ := counterpart?_eq_some found
  obtain ⟨_, _, leadsOn, _⟩ := counterpart?_eq_some otherFound
  have nodup :=
    distinct.fields pivot (Document.mem_of_model? isPivot).1
  rw [inferField_of_isList directives isPivot found isList] at inferred
  obtain ⟨keys, related, pivotDirectives, extra, areKeys, isRelated, read,
    isExtra, rfl⟩ :=
    explicitManyToMany?_eq_ok_some_iff.mp
      (explicitManyToMany?_of_inferList inferred explicit)
  obtain ⟨⟨backOwning, _⟩, isOnly, _⟩ :=
    junctionKeys?_eq_some_iff.mp areKeys
  have backOwns : back ∈ pivot.owningRelations :=
    List.mem_filter.mpr ⟨(List.mem_filter.mp backIn).1, backOwning⟩
  -- The key that leads on is the only one besides the key that leads back.
  obtain rfl : onward = keys.other := by
    have isOther :
        onward ∈
          pivot.owningRelations.filter
            (fun key => key.name != back.name) :=
      List.mem_filter.mpr ⟨onwardIn, by simpa using apart⟩
    rw [isOnly] at isOther
    exact List.mem_singleton.mp isOther
  obtain rfl : target = related := by
    rw [leadsOn, distinct.model?_eq_some targetIn] at isRelated
    exact Option.some.inj isRelated
  have swapped :=
    junctionKeys?_swap nodup backOwns areKeys leadsOn otherNotOwning
  have isModel : document.model? back.typeName = some model :=
    returns ▸ distinct.model?_eq_some inDocument
  have sameExtra :
      extraColumns (keys.otherColumns ++ keys.backColumns) pivot.columns =
        .ok extra := by
    rw [← isExtra]
    exact extraColumns_congr
      (fun column => by simp only [List.mem_append]; exact or_comm) _
  let mirrored :=
    explicitRelation target other pivot keys.other
      ⟨back, keys.otherColumns, keys.backColumns⟩ model extra
      otherDirectives pivotDirectives (options.accessorName other.name)
  have answered :
      explicitManyToMany? document target other pivot keys.other
          otherDirectives (options.accessorName other.name) =
        .ok (some mirrored) :=
    explicitManyToMany?_eq_ok_some_iff.mpr
      ⟨_, model, pivotDirectives, extra, swapped, isModel, read, sameExtra,
        rfl⟩
  refine ⟨mirrored, ?_, rfl, rfl, rfl,
    ⟨rfl, rfl, rfl, _, _, rfl, rfl, rfl, rfl, rfl, rfl, rfl⟩⟩
  rw [inferField_of_isList otherDirectives otherIsPivot otherFound
    otherIsList]
  exact inferList_of_explicitManyToMany? (List.mem_filter.mp onwardIn).2
    answered

end Ends

/--
Both ends of a many-to-many relation of a valid document are inferred alike.
Two lists without keys that are each other's counterparts share one
conventional junction table, which either of them reads in its own direction.
If a list leads through a junction model, by one key back to its model and by
another one on to the related model, then the list of the related model whose
counterpart is that other key leads back through the same junction model.
-/
theorem inferField_mirrors
    {options : Options}
    {document : Document}
    (valid : document.validate.errors = [])
    {model target : Model}
    (inDocument : model ∈ document.models)
    (targetIn : target ∈ document.models) :
    (∀ field other : Field, ∀ directives otherDirectives : Directive.Set,
      field.isList = true →
      field.isOwning = false →
      other.isList = true →
      other.isOwning = false →
      counterpart? model field target = some other →
      counterpart? target other model = some field →
      ∃ relation mirrored,
        inferField options document model field directives =
            .ok (some relation) ∧
          inferField options document target other otherDirectives =
            .ok (some mirrored) ∧
          relation.kind = .belongsToManyImplicit ∧
          relation.target = some target.name ∧
          mirrored.target = some model.name ∧
          relation.Mirrors mirrored) ∧
      ∀ field other back onward : Field, ∀ pivot : Model,
      ∀ directives otherDirectives : Directive.Set,
      ∀ relation : Definition,
        field.isList = true →
        document.model? field.typeName = some pivot →
        counterpart? model field pivot = some back →
        inferField options document model field directives =
          .ok (some relation) →
        relation.kind = .belongsToManyExplicit →
        onward ∈ pivot.owningRelations →
        onward.name ≠ back.name →
        other.isList = true →
        other.isOwning = false →
        document.model? other.typeName = some pivot →
        counterpart? target other pivot = some onward →
        ∃ mirrored,
          inferField options document target other otherDirectives =
              .ok (some mirrored) ∧
            relation.target = some target.name ∧
            mirrored.target = some model.name ∧
            (mirrored.junction.bind Junction.usingModel) =
              some pivot.name ∧
            relation.Mirrors mirrored := by
  have distinct := (Document.closed_of_valid valid).toDistinct
  constructor
  · intro field other directives otherDirectives isList notOwning
      otherIsList otherNotOwning found foundBack
    exact exists_implicit_ends distinct inDocument targetIn isList
      notOwning otherIsList otherNotOwning found foundBack directives
      otherDirectives
  · intro field other back onward pivot directives otherDirectives relation
      isList isPivot found inferred explicit onwardIn apart otherIsList
      otherNotOwning otherIsPivot otherFound
    exact exists_explicit_end distinct inDocument targetIn isPivot found
      isList inferred explicit onwardIn apart otherIsPivot otherFound
      otherIsList otherNotOwning otherDirectives

/-- A field of the school that is one end of a relation. -/
def schoolEnd (name model relation : String) : Field :=
  (Field.relation name model).inRelation relation

/-- A field of the school that is the list end of a relation. -/
def schoolList (name model relation : String) : Field :=
  (schoolEnd name model relation).list

def schoolStudent : Model :=
  { name := "Student"
    fields :=
      [ .autoincrementId,
        schoolList "favourites" "Course" "Favourite",
        schoolList "enrollments" "Enrollment" "Learner" ] }

def schoolCourse : Model :=
  { name := "Course"
    fields :=
      [ .autoincrementId,
        schoolList "fans" "Student" "Favourite",
        schoolList "enrollments" "Enrollment" "Lesson" ] }

/-- The key of an enrollment that leads to its student. -/
def schoolLearner : Field :=
  (schoolEnd "student" "Student" "Learner").references
    ["studentId"] ["id"]

/-- The key of an enrollment that leads to its course. -/
def schoolLesson : Field :=
  (schoolEnd "course" "Course" "Lesson").references ["courseId"] ["id"]

def schoolEnrollment : Model :=
  { name := "Enrollment"
    fields :=
      [ .scalar "studentId" "Int", .scalar "courseId" "Int",
        (Field.scalar "grade" "Int").withDocumentation "@pivot",
        schoolLearner, schoolLesson ]
    primaryKey := some { fields := ["studentId", "courseId"] } }

/-- Students have favourite courses, and they are enrolled in courses with a
grade. -/
def schoolDocument : Document :=
  { models := [schoolStudent, schoolCourse, schoolEnrollment] }

/-- Students and courses mirror each other in both of their relations, the
favourites without a junction model and the enrollments through one. -/
theorem inferField_mirrors_school :
    schoolDocument.validate.errors = [] ∧
      (∃ relation mirrored,
        inferField {} schoolDocument schoolStudent
            (schoolList "favourites" "Course" "Favourite") {} =
            .ok (some relation) ∧
          inferField {} schoolDocument schoolCourse
              (schoolList "fans" "Student" "Favourite") {} =
            .ok (some mirrored) ∧
          relation.kind = .belongsToManyImplicit ∧
          relation.Mirrors mirrored) ∧
      ∃ relation mirrored,
        inferField {} schoolDocument schoolStudent
            (schoolList "enrollments" "Enrollment" "Learner") {} =
            .ok (some relation) ∧
          inferField {} schoolDocument schoolCourse
              (schoolList "enrollments" "Enrollment" "Lesson") {} =
            .ok (some mirrored) ∧
          relation.kind = .belongsToManyExplicit ∧
          relation.Mirrors mirrored := by
  have valid : schoolDocument.validate.errors = [] := by decide +kernel
  obtain ⟨implicit, explicit⟩ :=
    @inferField_mirrors {} schoolDocument valid schoolStudent schoolCourse
      (by decide) (by decide)
  refine ⟨valid, ?favourites, ?enrollments⟩
  case favourites =>
    obtain ⟨relation, mirrored, inferred, answered, kind, _, _, mirrors⟩ :=
      implicit (schoolList "favourites" "Course" "Favourite")
        (schoolList "fans" "Student" "Favourite") {} {} rfl rfl rfl rfl
        (by decide +kernel) (by decide +kernel)
    exact ⟨relation, mirrored, inferred, answered, kind, mirrors⟩
  case enrollments =>
    have enrolled :
        (inferField {} schoolDocument schoolStudent
            (schoolList "enrollments" "Enrollment" "Learner") {}).map
              (Option.map Definition.kind) =
          .ok (some .belongsToManyExplicit) := by
      decide +kernel
    obtain ⟨found, inferred, isExplicit⟩ :=
      Outcome.map_eq_ok_iff.mp enrolled
    obtain ⟨relation, rfl, kind⟩ := Option.map_eq_some_iff.mp isExplicit
    obtain ⟨mirrored, answered, _, _, _, mirrors⟩ :=
      explicit (schoolList "enrollments" "Enrollment" "Learner")
        (schoolList "enrollments" "Enrollment" "Lesson") schoolLearner
        schoolLesson schoolEnrollment {} {} relation rfl
        (by decide +kernel) (by decide +kernel) inferred kind
        (by decide) (by decide) rfl rfl (by decide +kernel)
        (by decide +kernel)
    exact ⟨relation, mirrored, inferred, answered, kind, mirrors⟩

end Tablewright.Relation
