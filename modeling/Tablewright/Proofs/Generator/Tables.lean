import Tablewright.Proofs.Generator
import Tablewright.Proofs.Migration.Pivot

namespace Tablewright

/-!
# Tables of a compilation

A compilation has a table for every model of the document, named as the model
says, and a table for every junction table of the implicit relations of its
classes.  Validation compares the names of models only, so nothing tells these
tables apart: whether some table is created twice can be seen from the
document and the classes.
-/

open Tablewright.Relation

/-! ## Migrations -/

namespace Migration

theorem table_of_compile
    {context : Context}
    {rules : RuleSet}
    {model : Schema.Model}
    {silent pivot : Bool}
    {migration : Migration}
    (compiled :
      compile context rules model silent pivot = .ok migration) :
    migration.table = model.tableName ∧ migration.pivot = pivot := by
  obtain ⟨_, _, rest⟩ := Outcome.bind_eq_ok_iff.mp compiled
  obtain rfl := Except.ok.inj rest
  exact ⟨rfl, rfl⟩

end Migration

/-! ## Classes -/

/-- The implicit relations of the classes of a compilation. -/
def Output.implicitRelations (output : Output) :
    List Migration.Implicit :=
  output.classes.flatMap fun modelClass =>
    modelClass.relations.filterMap
      (Migration.implicitOf? modelClass.className)

theorem Output.mem_implicitRelations_iff
    {output : Output}
    {found : Migration.Implicit} :
    found ∈ output.implicitRelations ↔
      ∃ modelClass ∈ output.classes,
        modelClass.className = found.model ∧
          found.relation ∈ modelClass.relations ∧
            found.relation.Through found.junction := by
  simp only [implicitRelations, List.mem_flatMap, List.mem_filterMap,
    Migration.implicitOf?_eq_some_iff]
  constructor
  · rintro ⟨modelClass, inClasses, _, declared, named, rfl, through⟩
    exact ⟨modelClass, inClasses, named.symm, declared, through⟩
  · rintro ⟨modelClass, inClasses, named, declared, through⟩
    exact ⟨modelClass, inClasses, _, declared, named.symm, rfl, through⟩

/-- The class of a model has the relations that were inferred for it. -/
structure ModelClass.Shows
    (modelClass : ModelClass)
    (model : Schema.Model)
    (relations : List Definition) : Prop where
  className_eq : modelClass.className = model.name
  table_eq : modelClass.table = model.tableName
  primaryKey_eq : modelClass.primaryKey = model.primaryKeyColumns
  relations_eq : modelClass.relations = relations

namespace Generator

theorem shows_of_classOf
    {context : Context}
    {model : Schema.Model}
    {registry : Registry}
    {modelClass : ModelClass}
    (built : classOf context model registry = .ok modelClass) :
    modelClass.Shows model registry.relations := by
  obtain ⟨_, _, rest⟩ := Outcome.bind_eq_ok_iff.mp built
  obtain rfl := Except.ok.inj rest
  exact ⟨rfl, rfl, rfl, rfl⟩

namespace Stages

variable {generator : Generator}
variable {document : Schema.Document}
variable {output : Output}
variable (stages : Stages generator document output)

include stages

theorem distinct : document.Distinct :=
  Schema.Document.distinct_of_valid stages.valid

theorem map_table_declared :
    stages.declared.map Migration.table =
      document.models.map Schema.Model.tableName :=
  Outcome.map_eq_of_mapM stages.compiled fun _ _ made =>
    (Migration.table_of_compile made).1

theorem map_table_added :
    stages.added.map Migration.table =
      stages.junctions.map Schema.Model.tableName :=
  Outcome.map_eq_of_mapM stages.compiledJunctions fun _ _ made =>
    (Migration.table_of_compile made).1

theorem perm_migrations :
    output.migrations.Perm (stages.declared ++ stages.added) :=
  Migration.perm_of_sort stages.sorted

/-- The migrations of junction tables are those that were added. -/
theorem perm_pivots :
    (output.migrations.filter Migration.pivot).Perm stages.added := by
  have noneDeclared :
      stages.declared.filter Migration.pivot = [] := by
    rw [List.filter_eq_nil_iff]
    intro migration member isPivot
    obtain ⟨_, _, made⟩ := Outcome.exists_of_mem_mapM stages.compiled member
    rw [(Migration.table_of_compile made).2] at isPivot
    cases isPivot
  have allAdded : stages.added.filter Migration.pivot = stages.added := by
    rw [List.filter_eq_self]
    intro migration member
    obtain ⟨_, _, made⟩ :=
      Outcome.exists_of_mem_mapM stages.compiledJunctions member
    exact (Migration.table_of_compile made).2
  have pivots := stages.perm_migrations.filter Migration.pivot
  rwa [List.filter_append, noneDeclared, allAdded, List.nil_append]
    at pivots

/-- Every model is followed by the registry of its relations. -/
theorem paired_registries :
    List.Forall₂
      (fun model entry =>
        entry.1 = model.name ∧
          inferModel generator.settings.options document model.name =
            .ok entry.2)
      document.models stages.registries := by
  refine (Outcome.mapM_eq_ok_iff.mp stages.inferred).imp ?_
  intro model entry inferred
  obtain ⟨registry, isRegistry, rest⟩ :=
    Outcome.bind_eq_ok_iff.mp inferred
  obtain rfl := Except.ok.inj rest
  exact ⟨rfl, isRegistry⟩

/-- Every class shows a model with the relations inferred for it. -/
theorem exists_model_of_mem_classes
    {modelClass : ModelClass}
    (member : modelClass ∈ output.classes) :
    ∃ model ∈ document.models, ∃ registry,
      (model.name, registry) ∈ stages.registries ∧
        inferModel generator.settings.options document model.name =
          .ok registry ∧
        modelClass.Shows model registry.relations := by
  obtain ⟨⟨model, name, registry⟩, inZip, built⟩ :=
    Outcome.exists_of_mem_mapM stages.built member
  obtain ⟨named, inferred⟩ :=
    List.forall₂_zip stages.paired_registries inZip
  obtain ⟨inDocument, inRegistries⟩ := List.of_mem_zip inZip
  obtain rfl : name = model.name := named
  exact ⟨model, inDocument, registry, inRegistries, inferred,
    shows_of_classOf built⟩

/-- Every model has a class. -/
theorem exists_class_of_mem_models
    {model : Schema.Model}
    (member : model ∈ document.models) :
    ∃ modelClass ∈ output.classes, ∃ relations,
      modelClass.Shows model relations := by
  have sameLength := stages.paired_registries.length_eq
  rw [← List.map_fst_zip sameLength.le] at member
  obtain ⟨⟨_, name, registry⟩, inZip, rfl⟩ := List.mem_map.mp member
  obtain ⟨modelClass, inClasses, built⟩ :=
    Outcome.exists_result_of_mem_mapM stages.built inZip
  exact ⟨modelClass, inClasses, _, shows_of_classOf built⟩

/-- Every registry has been read into a class. -/
theorem exists_class_of_mem_registries
    {name : String}
    {registry : Registry}
    (member : (name, registry) ∈ stages.registries) :
    ∃ modelClass ∈ output.classes,
      modelClass.className = name ∧
        modelClass.relations = registry.relations := by
  have sameLength := stages.paired_registries.length_eq
  rw [← List.map_snd_zip sameLength.ge] at member
  obtain ⟨⟨model, entry⟩, inZip, rfl⟩ := List.mem_map.mp member
  obtain ⟨named, _⟩ := List.forall₂_zip stages.paired_registries inZip
  obtain ⟨modelClass, inClasses, built⟩ :=
    Outcome.exists_result_of_mem_mapM stages.built inZip
  have shown := shows_of_classOf built
  exact ⟨modelClass, inClasses, shown.className_eq.trans named.symm,
    shown.relations_eq⟩

/-- The implicit relations that are found are those of the classes. -/
theorem mem_implicitRelations_iff
    {found : Migration.Implicit} :
    found ∈ Migration.implicitRelations stages.registries ↔
      found ∈ output.implicitRelations := by
  rw [Migration.mem_implicitRelations_iff,
    Output.mem_implicitRelations_iff]
  constructor
  · rintro ⟨registry, inRegistries, declared, through⟩
    obtain ⟨modelClass, inClasses, named, shown⟩ :=
      stages.exists_class_of_mem_registries inRegistries
    exact ⟨modelClass, inClasses, named, shown ▸ declared, through⟩
  · rintro ⟨modelClass, inClasses, named, declared, through⟩
    obtain ⟨model, _, registry, inRegistries, _, shown⟩ :=
      stages.exists_model_of_mem_classes inClasses
    have sameName := named.symm.trans shown.className_eq
    exact ⟨registry, sameName ▸ inRegistries,
      shown.relations_eq ▸ declared, through⟩

/-- A junction table is added for the first relation through it, if at
all. -/
theorem map_tableName_junctions :
    stages.junctions.map Schema.Model.tableName =
      if generator.settings.implicitPivots then
        (Migration.firstOfTables []
          (Migration.implicitRelations stages.registries)).map
            (fun found => found.junction.table)
      else [] := by
  have synthesized := stages.synthesized
  unfold Generator.pivots at synthesized
  by_cases asked : generator.settings.implicitPivots = true
  · rw [if_pos asked] at synthesized ⊢
    exact Migration.map_tableName_synthesizePivots synthesized
  · rw [if_neg asked] at synthesized ⊢
    rw [← Except.ok.inj synthesized, List.map_nil]

theorem nodup_map_tableName_junctions :
    (stages.junctions.map Schema.Model.tableName).Nodup := by
  rw [stages.map_tableName_junctions]
  split
  · exact Migration.nodup_tables_firstOfTables _ _
  · exact List.nodup_nil

/-- The tables that are added are those of the implicit relations of the
classes. -/
theorem mem_map_tableName_junctions_iff
    {table : String} :
    table ∈ stages.junctions.map Schema.Model.tableName ↔
      generator.settings.implicitPivots = true ∧
        ∃ found ∈ output.implicitRelations,
          found.junction.table = table := by
  rw [stages.map_tableName_junctions]
  by_cases asked : generator.settings.implicitPivots = true
  · rw [if_pos asked, List.mem_map]
    constructor
    · rintro ⟨first, isFirst, rfl⟩
      have found := (Migration.mem_firstOfTables isFirst).1
      exact ⟨asked, first, stages.mem_implicitRelations_iff.mp found, rfl⟩
    · rintro ⟨_, found, member, rfl⟩
      apply Migration.exists_mem_firstOfTables
      · exact stages.mem_implicitRelations_iff.mpr member
      · exact List.not_mem_nil
  · rw [if_neg asked]
    constructor
    · intro absent
      cases absent
    · rintro ⟨isAsked, _⟩
      exact (asked isAsked).elim

end Stages

/-! ## Repeated tables -/

/--
The junction tables of a compilation are distinct.  All tables are distinct
just if the models of the document name distinct tables, and none of these
is the junction table of an implicit relation that a table is added for.
-/
theorem generate_tables_nodup_iff
    {generator : Generator}
    {document : Schema.Document}
    {output : Output}
    (generated : generator.generate document = .ok output) :
    ((output.migrations.filter Migration.pivot).map
        Migration.table).Nodup ∧
      (output.tableOrder.Nodup ↔
        (document.models.map Schema.Model.tableName).Nodup ∧
          (generator.settings.implicitPivots = true →
            ∀ found ∈ output.implicitRelations,
              ∀ model ∈ document.models,
                model.tableName ≠ found.junction.table)) := by
  obtain ⟨stages⟩ := nonempty_stages_of_generate generated
  have pivots := stages.perm_pivots.map Migration.table
  rw [stages.map_table_added] at pivots
  have tables := stages.perm_migrations.map Migration.table
  rw [List.map_append, stages.map_table_declared, stages.map_table_added]
    at tables
  have junctionsNodup := stages.nodup_map_tableName_junctions
  refine ⟨pivots.nodup_iff.mpr junctionsNodup, ?_⟩
  rw [Output.tableOrder, tables.nodup_iff, List.nodup_append]
  constructor
  · rintro ⟨declaredNodup, _, apart⟩
    refine ⟨declaredNodup, ?_⟩
    intro asked found member model inDocument
    apply apart
    · exact List.mem_map_of_mem inDocument
    · exact stages.mem_map_tableName_junctions_iff.mpr
        ⟨asked, found, member, rfl⟩
  · rintro ⟨declaredNodup, apart⟩
    refine ⟨declaredNodup, junctionsNodup, ?_⟩
    intro table isDeclared other isAdded
    obtain ⟨model, inDocument, rfl⟩ := List.mem_map.mp isDeclared
    obtain ⟨asked, found, member, rfl⟩ :=
      stages.mem_map_tableName_junctions_iff.mp isAdded
    exact apart asked found member model inDocument

/-- The tables of a blog are distinct, so that its junction table is not the
table of a model. -/
theorem generate_tables_nodup_iff_blog :
    ∃ output,
      ({} : Generator).generate blogDocument = .ok output ∧
        ((output.migrations.filter Migration.pivot).map
          Migration.table).Nodup ∧
        output.tableOrder.Nodup ∧
        ∀ found ∈ output.implicitRelations,
          ∀ model ∈ blogDocument.models,
            model.tableName ≠ found.junction.table := by
  have compiled :
      (({} : Generator).generate blogDocument).map Output.tableOrder =
        .ok ["User", "Tag", "Post", "Post_Tag"] := by
    decide +kernel
  obtain ⟨output, generated, tables⟩ := Outcome.map_eq_ok_iff.mp compiled
  have nodup : output.tableOrder.Nodup := by
    rw [tables]
    decide
  obtain ⟨pivots, apart⟩ := generate_tables_nodup_iff generated
  exact ⟨output, generated, pivots, nodup, (apart.mp nodup).2 rfl⟩

/-- Drafts are kept in the table of the posts. -/
def draftsDocument : Schema.Document :=
  { models :=
      [ { name := "Post"
          dbName := some "posts"
          fields := [.autoincrementId] },
        { name := "Draft"
          dbName := some "posts"
          fields := [.autoincrementId] } ] }

/-- The labels of posts are kept in the table that the posts implicitly share
with tags. -/
def labelsDocument : Schema.Document :=
  { models :=
      [ { name := "Post"
          fields :=
            [.autoincrementId, (Schema.Field.relation "tags" "Tag").list] },
        { name := "Tag"
          fields :=
            [ .autoincrementId,
              (Schema.Field.relation "posts" "Post").list ] },
        { name := "Label"
          dbName := some "Post_Tag"
          fields := [.autoincrementId] } ] }

/-- A table is created twice for two models that name it, and for a model
that names a junction table. -/
theorem generate_repeats_tables :
    (∃ output,
      ({} : Generator).generate draftsDocument = .ok output ∧
        ¬ output.tableOrder.Nodup) ∧
      ∃ output,
        ({} : Generator).generate labelsDocument = .ok output ∧
          ¬ output.tableOrder.Nodup := by
  constructor
  · have compiled :
        (({} : Generator).generate draftsDocument).map
            Output.tableOrder =
          .ok ["posts", "posts"] := by
      decide +kernel
    obtain ⟨output, generated, tables⟩ :=
      Outcome.map_eq_ok_iff.mp compiled
    exact ⟨output, generated, by rw [tables]; decide⟩
  · have compiled :
        (({} : Generator).generate labelsDocument).map
            Output.tableOrder =
          .ok ["Post", "Tag", "Post_Tag", "Post_Tag"] := by
      decide +kernel
    obtain ⟨output, generated, tables⟩ :=
      Outcome.map_eq_ok_iff.mp compiled
    exact ⟨output, generated, by rw [tables]; decide⟩

end Generator

end Tablewright
