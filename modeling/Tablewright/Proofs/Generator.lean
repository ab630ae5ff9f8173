import Tablewright.Generator
import Tablewright.Proofs.Column.Builder
import Tablewright.Proofs.Migration.Order
import Tablewright.Proofs.Rule.Dependencies

namespace Tablewright

/-!
# Generated migrations

A compilation shows every table once and every table behind the ones that
its constraints refer to.  The sort only knows what a resolved table depends
on, so the constraints in the lines have to be among those dependencies.
-/

open List Code

namespace Migration

/-- A migration compiled with the built-in rules consists of statements. -/
theorem exists_statement_of_compile
    {context : Context}
    {model : Schema.Model}
    {silent pivot : Bool}
    {migration : Migration}
    (compiled :
      compile context RuleSet.standard model silent pivot =
        .ok migration)
    {line : Line}
    (member : line ∈ migration.lines) :
    ∃ written, line = .statement written := by
  obtain ⟨table, _, rest⟩ := Outcome.bind_eq_ok_iff.mp compiled
  obtain rfl := Except.ok.inj rest
  exact RuleSet.exists_statement_of_mem_lines member

/-- A constraint on another table makes a compiled migration depend on that
table. -/
theorem mem_dependencies_of_compile
    {context : Context}
    {model : Schema.Model}
    {silent pivot : Bool}
    {migration : Migration}
    (compiled :
      compile context RuleSet.standard model silent pivot =
        .ok migration)
    {line : Line}
    (member : line ∈ migration.lines)
    {target : String}
    (constrains : target ∈ line.targets)
    (other : target ≠ migration.table) :
    target ∈ migration.dependencies := by
  obtain ⟨table, built, rest⟩ := Outcome.bind_eq_ok_iff.mp compiled
  obtain rfl := Except.ok.inj rest
  have depends :=
    RuleSet.mem_dependencies_of_mem_targets
      ⟨model.name, model.tableName⟩ (Table.foreignKey_ofModel built)
      member constrains
  exact List.mem_filter.mpr ⟨depends, by simpa using other⟩

end Migration

namespace Generator

/-- The stages that a successful compilation has gone through. -/
structure Stages
    (generator : Generator)
    (document : Schema.Document)
    (output : Output) where
  context : Context
  registries : List (String × Relation.Registry)
  /-- The migrations of the models of the document. -/
  declared : List Migration
  junctions : List Schema.Model
  /-- The migrations of the junction models. -/
  added : List Migration
  valid : document.validate.toOutcome = .ok ()
  read : Context.ofDocument document generator.settings = .ok context
  inferred :
    Relation.inferDocument generator.settings.options document =
      .ok registries
  compiled :
    document.models.mapM (Migration.ofModel context generator.rules) =
      .ok declared
  synthesized : generator.pivots document registries = .ok junctions
  compiledJunctions :
    junctions.mapM (Migration.ofPivot context generator.rules) =
      .ok added
  sorted : Migration.sort (declared ++ added) = .ok output.migrations
  built :
    (document.models.zip registries).mapM
        (fun (model, _, registry) => classOf context model registry) =
      .ok output.classes

theorem nonempty_stages_of_generate
    {generator : Generator}
    {document : Schema.Document}
    {output : Output}
    (generated : generator.generate document = .ok output) :
    Nonempty (Stages generator document output) := by
  unfold generate at generated
  obtain ⟨_, _, generated⟩ := Outcome.bind_eq_ok_iff.mp generated
  obtain ⟨_, valid, generated⟩ := Outcome.bind_eq_ok_iff.mp generated
  obtain ⟨context, read, generated⟩ :=
    Outcome.bind_eq_ok_iff.mp generated
  obtain ⟨registries, inferred, generated⟩ :=
    Outcome.bind_eq_ok_iff.mp generated
  obtain ⟨declared, compiled, generated⟩ :=
    Outcome.bind_eq_ok_iff.mp generated
  obtain ⟨junctions, synthesized, generated⟩ :=
    Outcome.bind_eq_ok_iff.mp generated
  obtain ⟨added, compiledJunctions, generated⟩ :=
    Outcome.bind_eq_ok_iff.mp generated
  obtain ⟨migrations, sorted, generated⟩ :=
    Outcome.bind_eq_ok_iff.mp generated
  obtain ⟨classes, built, generated⟩ :=
    Outcome.bind_eq_ok_iff.mp generated
  obtain rfl := Except.ok.inj generated
  exact ⟨{
    context := context
    registries := registries
    declared := declared
    junctions := junctions
    added := added
    valid := valid
    read := read
    inferred := inferred
    compiled := compiled
    synthesized := synthesized
    compiledJunctions := compiledJunctions
    sorted := sorted
    built := built }⟩

/-- Stages that succeed make a successful compilation. -/
theorem Stages.exists_generate
    {generator : Generator}
    {document : Schema.Document}
    {output : Output}
    (stages : Stages generator document output)
    (usable : generator.settings.validate = .ok ()) :
    ∃ warnings,
      generator.generate document =
        .ok { output with warnings := warnings } := by
  unfold generate
  rw [usable, Outcome.ok_bind]
  simp only [stages.valid, stages.read, stages.inferred, stages.compiled,
    stages.synthesized, stages.compiledJunctions, stages.sorted,
    stages.built, Outcome.ok_bind]
  exact ⟨_, rfl⟩

/-- The class of a model is built from the relations inferred for it. -/
theorem mapM_classOf_zip
    {options : Relation.Options}
    {document : Schema.Document}
    {registries : List (String × Relation.Registry)}
    (inferred : Relation.inferDocument options document = .ok registries)
    (context : Context) :
    (document.models.zip registries).mapM
        (fun (model, _, registry) => classOf context model registry) =
      document.models.mapM (fun model =>
        Relation.inferModel options document model.name >>= fun registry =>
          classOf context model registry) := by
  rw [Outcome.mapM_zip_of_mapM inferred]
  congr 1
  funext model
  cases Relation.inferModel options document model.name with
  | error failure => rfl
  | ok registry => rfl

/-- Every migration that is sorted has been compiled from some model. -/
theorem exists_compile_of_mem
    {context : Context}
    {rules : RuleSet}
    {models junctions : List Schema.Model}
    {declared added : List Migration}
    (compiled :
      models.mapM (Migration.ofModel context rules) = .ok declared)
    (compiledJunctions :
      junctions.mapM (Migration.ofPivot context rules) = .ok added)
    {migration : Migration}
    (member : migration ∈ declared ++ added) :
    ∃ model silent pivot,
      Migration.compile context rules model silent pivot =
        .ok migration := by
  rcases List.mem_append.mp member with ofDocument | ofJunction
  · obtain ⟨model, _, made⟩ :=
      Outcome.exists_of_mem_mapM compiled ofDocument
    exact ⟨model, _, _, made⟩
  · obtain ⟨model, _, made⟩ :=
      Outcome.exists_of_mem_mapM compiledJunctions ofJunction
    exact ⟨model, _, _, made⟩

/--
The migrations of a compilation with the built-in rules are those of the
models of the document together with those of the synthesized junction
models, none lost and none repeated.  Their lines are statements.  If their
tables are distinct, each migration stands behind those of all other tables
that the constraints in its lines refer to.
-/
theorem generate_orders_migrations
    {settings : Settings}
    {document : Schema.Document}
    {output : Output}
    (generated :
      ({ settings := settings } : Generator).generate document =
        .ok output)
    (distinct : (output.migrations.map Migration.table).Nodup) :
    (∃ context registries declared junctions added,
      Context.ofDocument document settings = .ok context ∧
        Relation.inferDocument settings.options document =
          .ok registries ∧
        List.Forall₂
          (fun model migration =>
            Migration.ofModel context RuleSet.standard model =
              .ok migration)
          document.models declared ∧
        (if settings.implicitPivots then
            Migration.synthesizePivots document registries
          else .ok []) = .ok junctions ∧
        List.Forall₂
          (fun model migration =>
            Migration.ofPivot context RuleSet.standard model =
              .ok migration)
          junctions added ∧
        output.migrations.Perm (declared ++ added)) ∧
      ∀ migration ∈ output.migrations,
        ∀ line ∈ migration.lines,
          (∃ written, line = .statement written) ∧
            ∀ target ∈ line.targets,
              target ≠ migration.table →
              ∀ creator ∈ output.migrations,
                creator.table = target →
                [creator, migration] <+ output.migrations := by
  obtain ⟨⟨context, registries, declared, junctions, added, _, read,
      inferred, compiled, synthesized, compiledJunctions, sorted, _⟩⟩ :=
    nonempty_stages_of_generate generated
  have permuted := Migration.perm_of_sort sorted
  refine ⟨⟨context, registries, declared, junctions, added, read,
    inferred, Outcome.mapM_eq_ok_iff.mp compiled, synthesized,
    Outcome.mapM_eq_ok_iff.mp compiledJunctions, permuted⟩, ?_⟩
  have distinctBatch :
      ((declared ++ added).map Migration.table).Nodup :=
    (permuted.map Migration.table).nodup_iff.mp distinct
  intro migration member line inLines
  have inBatch := permuted.mem_iff.mp member
  obtain ⟨model, silent, pivot, made⟩ :=
    exists_compile_of_mem compiled compiledJunctions inBatch
  refine ⟨Migration.exists_statement_of_compile made inLines, ?_⟩
  intro target constrains other creator creatorMember creates
  have depends : creator.table ∈ migration.dependencies := by
    rw [creates]
    exact Migration.mem_dependencies_of_compile made inLines constrains
      other
  exact Migration.sublist_of_sort distinctBatch sorted
    ⟨inBatch, permuted.mem_iff.mp creatorMember, depends⟩

/-- Posts refer to their authors and implicitly share tags. -/
def blogDocument : Schema.Document :=
  { models :=
      [ { name := "Post"
          fields :=
            [ .autoincrementId, .scalar "authorId" "Int",
              (Schema.Field.relation "author" "User").references
                ["authorId"] ["id"],
              (Schema.Field.relation "tags" "Tag").list ] },
        { name := "User"
          fields :=
            [ .autoincrementId,
              (Schema.Field.relation "posts" "Post").list ] },
        { name := "Tag"
          fields :=
            [ .autoincrementId,
              (Schema.Field.relation "posts" "Post").list ] } ] }

/-- A blog is compiled to distinct tables.  The junction table comes last,
and every table that some line constrains is created before. -/
theorem generate_orders_migrations_blog :
    ∃ output,
      ({} : Generator).generate blogDocument = .ok output ∧
        output.tableOrder = ["User", "Tag", "Post", "Post_Tag"] ∧
        (output.migrations.map Migration.table).Nodup ∧
        ∀ migration ∈ output.migrations,
          ∀ line ∈ migration.lines,
            ∀ target ∈ line.targets,
              target ≠ migration.table →
              ∀ creator ∈ output.migrations,
                creator.table = target →
                [creator, migration] <+ output.migrations := by
  have compiled :
      (({} : Generator).generate blogDocument).map Output.tableOrder =
        .ok ["User", "Tag", "Post", "Post_Tag"] := by
    decide +kernel
  cases generated : ({} : Generator).generate blogDocument with
  | error failure =>
      rw [generated] at compiled
      cases compiled
  | ok output =>
      rw [generated] at compiled
      have tables : output.tableOrder = ["User", "Tag", "Post", "Post_Tag"] :=
        Except.ok.inj compiled
      have distinct : (output.migrations.map Migration.table).Nodup := by
        rw [← Output.tableOrder, tables]
        decide
      refine ⟨output, rfl, tables, distinct, ?_⟩
      intro migration member line inLines
      exact ((generate_orders_migrations generated distinct).2 migration
        member line inLines).2

end Generator

end Tablewright
