import Tablewright.Proofs.Generator.Tables
import Tablewright.Proofs.Migration.Silence
import Tablewright.Proofs.Migration.Synthesis

namespace Tablewright

/-!
# Namesakes of junction models

A synthesized junction model has no documentation, but it is compiled like any
other model: the directives of its fields are looked up under the name of the
model and the name of the field.  They are found as soon as a model of the
document, which may have nothing to do with the junction, bears the name of
the junction model and has a field of the same name.
-/

open Schema

/-- Directives that leave no trace in the column or marker of a field. -/
structure Directive.Set.Traceless
    (directives : Directive.Set)
    (field : Field) : Prop where
  comment : directives.comment = none
  shown : directives.silentInMigrations = false
  enforced :
    field.isOwning = true → directives.localInMigrations = false

theorem Directive.Set.traceless_empty (field : Field) :
    ({} : Directive.Set).Traceless field :=
  ⟨rfl, rfl, fun _ => rfl⟩

/-- A column or marker in which no directive has left a trace. -/
structure Column.Undirected (column : Column) : Prop where
  comment : column.comment = none
  shown : column.silent = false
  enforced :
    column.isMarker = true →
      ∀ key ∈ column.foreignKey, key.isLocal = false

/-- No directive has left a trace in a migration: its columns have no comment
and none is silent, and no marker of the table that was resolved keeps its key
out of the database. -/
structure Migration.Undirected
    (migration : Migration)
    (start : Table) : Prop where
  plain :
    ∀ column ∈ migration.resolved.columns,
      column.comment = none ∧ column.silent = false
  enforced :
    ∀ column ∈ start.columns,
      column.isMarker = true →
        ∀ key ∈ column.foreignKey, key.isLocal = false

namespace Column

variable {context : Context} {model : Model}
variable {keyColumns : List String} {field : Field} {column : Column}

/-- The key of a marker is local just if the directives of its field say
so. -/
theorem isLocal_ofModelField_iff
    (built : ofModelField context model keyColumns field = .ok column) :
    (column.isMarker = true →
        ∀ key ∈ column.foreignKey, key.isLocal = false) ↔
      (field.isOwning = true →
        (context.fieldDirectives model.name
          field.name).localInMigrations = false) := by
  cases isRelation : field.isRelation with
  | false =>
      have marks := isMarker_ofModelField built
      simp only [Field.isColumn, isRelation, Bool.not_false,
        Bool.not_true] at marks
      simp [marks, Field.isOwning, isRelation]
  | true =>
      obtain ⟨marker, isMarked, marks, sameKey, _⟩ :=
        ofModelField_of_isRelation isRelation built
      rw [sameKey]
      constructor
      · intro enforced owning
        have made := isMarked
        unfold markerOf at made
        simp only [owning, Bool.not_true, Bool.false_eq_true, ↓reduceIte]
          at made
        obtain ⟨target, isTarget, _⟩ := Outcome.bind_eq_ok_iff.mp made
        exact enforced marks _
          ((foreignKey_markerOf_iff isMarked).mpr
            ⟨owning, target, Document.targetOf_eq_ok_iff.mp isTarget,
              rfl⟩)
      · intro enforced _ key isKey
        obtain ⟨owning, target, _, rfl⟩ :=
          (foreignKey_markerOf_iff isMarked).mp isKey
        exact enforced owning

theorem undirected_ofModelField_iff
    (built : ofModelField context model keyColumns field = .ok column) :
    column.Undirected ↔
      (context.fieldDirectives model.name
        field.name).Traceless field := by
  have comment := comment_ofModelField built
  have silent := silent_ofModelField built
  have enforced := isLocal_ofModelField_iff built
  constructor
  · rintro ⟨noComment, shown, isEnforced⟩
    exact ⟨comment ▸ noComment, silent ▸ shown, enforced.mp isEnforced⟩
  · rintro ⟨noComment, shown, isEnforced⟩
    exact ⟨comment.trans noComment, silent.trans shown,
      enforced.mpr isEnforced⟩

end Column

/-- A table is free of directives just if the directives that are found for
the fields of its model leave no trace. -/
theorem Table.undirected_ofModel_iff
    {context : Context}
    {model : Model}
    {table : Table}
    (built : ofModel context model = .ok table) :
    (∀ column ∈ table.columns, column.Undirected) ↔
      ∀ field ∈ model.fields,
        (context.fieldDirectives model.name
          field.name).Traceless field := by
  obtain ⟨columns, fromFields, rest⟩ := Outcome.bind_eq_ok_iff.mp built
  obtain rfl := Except.ok.inj rest
  constructor
  · intro undirected field member
    obtain ⟨column, inTable, made⟩ :=
      Outcome.exists_result_of_mem_mapM fromFields member
    exact (Column.undirected_ofModelField_iff made).mp
      (undirected column inTable)
  · intro traceless column inTable
    obtain ⟨field, member, made⟩ :=
      Outcome.exists_of_mem_mapM fromFields inTable
    exact (Column.undirected_ofModelField_iff made).mpr
      (traceless field member)

/-- A resolution with the built-in rules leaves comments and silence alone. -/
theorem RuleSet.forall_plain_resolve_iff
    (context : RuleContext)
    (table : Table) :
    (∀ column ∈ (standard.resolve context table).table.columns,
        column.comment = none ∧ column.silent = false) ↔
      ∀ column ∈ table.columns,
        column.comment = none ∧ column.silent = false := by
  have later := (Table.pass_positions context table).later.forall₂_columns
  have sameTraits := Outcome.map_eq_map_of_forall₂
    (later.imp fun column changed kept =>
      (Prod.ext kept.comment_eq.symm kept.silent_eq.symm :
        (column.comment, column.silent) =
          (changed.comment, changed.silent)))
  have onTraits :
      ∀ columns : List Column,
        (∀ column ∈ columns,
            column.comment = none ∧ column.silent = false) ↔
          ∀ traits ∈ columns.map
              (fun column => (column.comment, column.silent)),
            traits.1 = none ∧ traits.2 = false := by
    simp
  rw [resolve, columns_resolveUtilities, onTraits, ← sameTraits,
    ← onTraits]

/-- What a migration says about directives is settled before its table is
resolved. -/
theorem Migration.undirected_iff_of_compile
    {context : Context}
    {model : Model}
    {silent pivot : Bool}
    {migration : Migration}
    (compiled :
      compile context RuleSet.standard model silent pivot =
        .ok migration)
    {start : Table}
    (built : Table.ofModel context model = .ok start) :
    migration.Undirected start ↔
      ∀ column ∈ start.columns, column.Undirected := by
  obtain ⟨_, builtAgain, rest⟩ := Outcome.bind_eq_ok_iff.mp compiled
  obtain rfl := Except.ok.inj (built.symm.trans builtAgain)
  obtain rfl := Except.ok.inj rest
  have settled :=
    RuleSet.forall_plain_resolve_iff ⟨model.name, model.tableName⟩ start
  constructor
  · rintro ⟨plain, enforced⟩ column member
    obtain ⟨comment, shown⟩ := settled.mp plain column member
    exact ⟨comment, shown, enforced column member⟩
  · intro undirected
    refine ⟨settled.mpr fun column member => ?_, fun column member => ?_⟩
    · exact ⟨(undirected column member).comment,
        (undirected column member).shown⟩
    · exact (undirected column member).enforced

namespace Context

variable {document : Document} {settings : Settings} {context : Context}

/-- The directives that are found for a field of some model leave no trace
just if those of every namesake in the document do. -/
theorem traceless_fieldDirectives_iff
    (distinct : document.Distinct)
    (opened : ofDocument document settings = .ok context)
    {modelName : String}
    {own : Field} :
    (context.fieldDirectives modelName own.name).Traceless own ↔
      ∀ model ∈ document.models,
        model.name = modelName →
          ∀ field ∈ model.fields,
            field.name = own.name →
              ∀ directives,
                Directive.Set.ofDocumentation field.documentation =
                    .ok directives →
                  directives.Traceless own := by
  constructor
  · rintro traceless model inDocument rfl field member named directives
      read
    rw [← named, fieldDirectives_eq distinct opened inDocument member read]
      at traceless
    exact traceless
  · intro traceless
    rcases (documented_of_ofDocument opened).fieldDirectives modelName
        own.name with none | ⟨model, inDocument, named, field, member,
          sameName, read⟩
    · rw [none]
      exact Directive.Set.traceless_empty own
    · exact traceless model inDocument named field member sameName _ read

end Context

namespace Generator

/--
The migration of a synthesized junction model is compiled from a model without
documentation.  No directive leaves a trace in it just if no model of the
document with the name of the junction model documents one of its fields: a
comment, a silent field, or a relation that is local to the models reaches the
junction from a field of the same name.
-/
theorem pivot_undirected_iff
    {settings : Settings}
    {document : Document}
    {output : Output}
    (generated :
      ({ settings := settings } : Generator).generate document =
        .ok output)
    {migration : Migration}
    (member : migration ∈ output.migrations)
    (isPivot : migration.pivot = true) :
    ∃ context registries junctions,
      Context.ofDocument document settings = .ok context ∧
        Relation.inferDocument settings.options document =
          .ok registries ∧
        Migration.synthesizePivots document registries = .ok junctions ∧
        ∃ pivot ∈ junctions,
          (∀ own ∈ pivot.fields, own.documentation = none) ∧
            migration.model = pivot.name ∧
            pivot.name = Naming.pascal migration.table ∧
            Migration.ofPivot context RuleSet.standard pivot =
              .ok migration ∧
            ∃ start,
              Table.ofModel context pivot = .ok start ∧
                (migration.Undirected start ↔
                  ∀ own ∈ pivot.fields,
                    ∀ model ∈ document.models,
                      model.name = pivot.name →
                        ∀ field ∈ model.fields,
                          field.name = own.name →
                            ∀ directives,
                              Directive.Set.ofDocumentation
                                  field.documentation =
                                .ok directives →
                              directives.Traceless own) := by
  obtain ⟨stages⟩ := nonempty_stages_of_generate generated
  have inAdded : migration ∈ stages.added :=
    stages.perm_pivots.mem_iff.mp
      (List.mem_filter.mpr ⟨member, isPivot⟩)
  obtain ⟨pivot, isJunction, compiled⟩ :=
    Outcome.exists_of_mem_mapM stages.compiledJunctions inAdded
  have synthesized :
      Migration.synthesizePivots document stages.registries =
        .ok stages.junctions := by
    have given := stages.synthesized
    unfold pivots at given
    split at given
    · exact given
    · rw [← Except.ok.inj given] at isJunction
      cases isJunction
  obtain ⟨start, built, rest⟩ := Outcome.bind_eq_ok_iff.mp compiled
  have sameName : migration.model = pivot.name := by
    obtain rfl := Except.ok.inj rest
    rfl
  obtain ⟨first, _, made⟩ :=
    Outcome.exists_of_mem_mapM synthesized isJunction
  have table := (Migration.table_of_compile compiled).1
  refine ⟨stages.context, stages.registries, stages.junctions, stages.read,
    stages.inferred, synthesized, pivot, isJunction, ?_, sameName, ?_,
    compiled, start, built, ?_⟩
  · exact Migration.documentation_of_pivotModel made
  · rw [table, Migration.tableName_of_pivotModel made]
    exact Migration.name_of_pivotModel made
  · rw [Migration.undirected_iff_of_compile compiled built,
      Table.undirected_ofModel_iff built]
    exact forall₂_congr fun own _ =>
      Context.traceless_fieldDirectives_iff stages.distinct stages.read

/-- Posts and tags share a junction table.  The ratings of posts are a model
of its own, but it bears the name of the junction model. -/
def ratedDocument (rated tagged post : Option String) : Document :=
  { models :=
      [ { name := "Post"
          fields :=
            [ .autoincrementId, (Field.relation "tags" "Tag").list,
              (Field.relation "ratings" "PostTag").list ] },
        { name := "Tag"
          fields :=
            [.autoincrementId, (Field.relation "posts" "Post").list] },
        { name := "PostTag"
          dbName := some "ratings"
          fields :=
            [ .autoincrementId,
              { Field.scalar "post_id" "Int" with documentation := rated },
              { Field.scalar "tag_id" "Int" with documentation := tagged },
              { (Field.relation "post" "Post").references ["post_id"]
                  ["id"] with documentation := post } ] } ] }

/-- A namesake that documents none of its fields leaves no trace in the
junction. -/
theorem pivot_undirected_iff_rated :
    ∃ output,
      ({} : Generator).generate (ratedDocument none none none) =
          .ok output ∧
        ∃ migration ∈ output.migrations,
          migration.pivot = true ∧
            migration.model = "PostTag" ∧
            ∃ context pivot start,
              Table.ofModel context pivot = .ok start ∧
                Migration.ofPivot context RuleSet.standard pivot =
                  .ok migration ∧
                migration.Undirected start := by
  have compiled :
      (({} : Generator).generate (ratedDocument none none none)).map
          (fun output => output.migrations.map fun migration =>
            (migration.model, migration.pivot)) =
        .ok
          [ ("Post", false), ("Tag", false), ("PostTag", false),
            ("PostTag", true) ] := by
    decide +kernel
  obtain ⟨output, generated, units⟩ := Outcome.map_eq_ok_iff.mp compiled
  have isLast :
      ("PostTag", true) ∈ output.migrations.map fun migration =>
        (migration.model, migration.pivot) := by
    rw [units]
    decide
  obtain ⟨migration, member, shape⟩ := List.mem_map.mp isLast
  obtain ⟨named, isPivot⟩ := Prod.mk.inj shape
  obtain ⟨context, _, _, _, _, _, pivot, _, _, _, _, made, start, built,
    undirected_iff⟩ := pivot_undirected_iff generated member isPivot
  have undocumented :
      ∀ model ∈ (ratedDocument none none none).models,
        ∀ field ∈ model.fields, field.documentation = none := by
    decide
  refine ⟨output, generated, migration, member, isPivot, named, context,
    pivot, start, built, made, undirected_iff.mpr ?_⟩
  intro own _ model inDocument _ field inModel _ directives read
  rw [undocumented model inDocument field inModel] at read
  obtain rfl := Except.ok.inj read
  exact Directive.Set.traceless_empty own

/-- Directives of a namesake do reach a junction: a comment, a key column that
is left out, and a foreign key that is kept out of the database. -/
theorem exists_directed_pivot :
    ∃ document : Document,
      document.validate.errors = [] ∧
        ∃ output,
          ({} : Generator).generate document = .ok output ∧
            ∃ migration ∈ output.migrations,
              migration.pivot = true ∧
                (∃ column ∈ migration.resolved.columns,
                  column.comment = some "The rated post") ∧
                (∃ column ∈ migration.resolved.columns,
                  column.silent = true) ∧
                ∃ column ∈ migration.resolved.columns,
                  column.isMarker = true ∧
                    column.foreignKey.map ForeignKey.isLocal =
                      some true := by
  refine ⟨ratedDocument (some "The rated post")
    (some "@silent(migrations)") (some "@local(migrations)"),
    by decide +kernel, ?_⟩
  have compiled :
      (({} : Generator).generate
          (ratedDocument (some "The rated post")
            (some "@silent(migrations)")
            (some "@local(migrations)"))).map
          (fun output =>
            decide
              (∃ migration ∈ output.migrations,
                migration.pivot = true ∧
                  (∃ column ∈ migration.resolved.columns,
                    column.comment = some "The rated post") ∧
                  (∃ column ∈ migration.resolved.columns,
                    column.silent = true) ∧
                  ∃ column ∈ migration.resolved.columns,
                    column.isMarker = true ∧
                      column.foreignKey.map ForeignKey.isLocal =
                        some true)) =
        .ok true := by
    decide +kernel
  obtain ⟨output, generated, directed⟩ :=
    Outcome.map_eq_ok_iff.mp compiled
  exact ⟨output, generated, of_decide_eq_true directed⟩

end Generator

end Tablewright
