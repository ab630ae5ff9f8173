import Tablewright.Proofs.Generator.Tables
import Tablewright.Proofs.Migration.Junction

namespace Tablewright

/-!
# Junction tables of implicit relations

The classes of a compilation declare implicit relations, and its migrations
create their junction tables.  Both sides meet only through the name of the
table.  The first relation through a table decides what is created, so the two
agree as long as the table serves one pair of models, both have a primary key,
and the columns of the table can be told apart.
-/

open Tablewright.Relation Tablewright.Migration

/-! ## Conditions -/

/-- The junction table of a relation between two classes serves no other
pair of classes, and its columns can be told apart. -/
structure Output.Unambiguous
    (output : Output)
    (modelClass related : ModelClass)
    (junction : Junction) : Prop where
  ownKey : modelClass.primaryKey ≠ []
  relatedKey : related.primaryKey ≠ []
  nodup : (junction.ownKeys ++ junction.relatedKeys).Nodup
  apart :
    ∀ other ∈ output.implicitRelations,
      other.junction.table = junction.table →
      ∀ stamp ∈ timestampNames other.junction.timestamps,
        stamp ∉ junction.ownKeys ++ junction.relatedKeys
  samePair :
    ∀ other ∈ output.implicitRelations,
      other.junction.table = junction.table →
      (other.model = modelClass.className ∧
          other.relation.target = some related.className) ∨
        (other.model = related.className ∧
          other.relation.target = some modelClass.className)

instance
    (output : Output)
    (modelClass related : ModelClass)
    (junction : Junction) :
    Decidable (output.Unambiguous modelClass related junction) :=
  decidable_of_iff
    (modelClass.primaryKey ≠ [] ∧
      related.primaryKey ≠ [] ∧
      (junction.ownKeys ++ junction.relatedKeys).Nodup ∧
      (∀ other ∈ output.implicitRelations,
        other.junction.table = junction.table →
        ∀ stamp ∈ timestampNames other.junction.timestamps,
          stamp ∉ junction.ownKeys ++ junction.relatedKeys) ∧
      ∀ other ∈ output.implicitRelations,
        other.junction.table = junction.table →
        (other.model = modelClass.className ∧
            other.relation.target = some related.className) ∨
          (other.model = related.className ∧
            other.relation.target = some modelClass.className))
    ⟨fun ⟨ownKey, relatedKey, nodup, apart, samePair⟩ =>
        ⟨ownKey, relatedKey, nodup, apart, samePair⟩,
      fun clear =>
        ⟨clear.ownKey, clear.relatedKey, clear.nodup, clear.apart,
          clear.samePair⟩⟩

namespace Generator

namespace Stages

variable {generator : Generator}
variable {document : Schema.Document}
variable {output : Output}
variable (stages : Stages generator document output)

include stages

/-- Every implicit relation of a class joins the model of the class to a
target. -/
theorem exists_joins
    {modelClass : ModelClass}
    (inClasses : modelClass ∈ output.classes)
    {relation : Definition}
    (declared : relation ∈ modelClass.relations)
    (implicit : relation.kind = .belongsToManyImplicit) :
    ∃ model ∈ document.models,
      modelClass.Shows model modelClass.relations ∧
        ∃ target ∈ document.models, relation.Joins model target := by
  obtain ⟨model, inDocument, registry, _, inferred, shown⟩ :=
    stages.exists_model_of_mem_classes inClasses
  have inRegistry : relation ∈ registry.relations :=
    shown.relations_eq ▸ declared
  obtain ⟨declaring, isDeclaring, target, targetIn, joins⟩ :=
    joins_of_inferModel inferred inRegistry implicit
  rw [stages.distinct.model?_eq_some inDocument] at isDeclaring
  obtain rfl := Option.some.inj isDeclaring
  exact ⟨model, inDocument, shown.relations_eq ▸ shown, target, targetIn,
    joins⟩

/-- The table of an implicit relation is made for the first relation through
it. -/
theorem exists_pivot
    (asked : generator.settings.implicitPivots = true)
    {found : Implicit}
    (member : found ∈ output.implicitRelations) :
    ∃ first ∈ output.implicitRelations,
      first.junction.table = found.junction.table ∧
        ∃ pivot,
          pivotModel document first
              (wantsTimestamps (implicitRelations stages.registries)
                first.junction.table) =
            .ok pivot ∧
          ∃ migration ∈ output.migrations,
            ofPivot stages.context generator.rules pivot =
              .ok migration := by
  obtain ⟨first, isFirst, sameTable⟩ :=
    exists_mem_firstOfTables
      (stages.mem_implicitRelations_iff.mpr member) List.not_mem_nil
  have synthesized := stages.synthesized
  rw [Generator.pivots, if_pos asked] at synthesized
  obtain ⟨pivot, inJunctions, made⟩ :=
    Outcome.exists_result_of_mem_mapM synthesized isFirst
  obtain ⟨migration, inAdded, compiled⟩ :=
    Outcome.exists_result_of_mem_mapM stages.compiledJunctions inJunctions
  have firstIn :=
    stages.mem_implicitRelations_iff.mp (mem_firstOfTables isFirst).1
  have inMigrations :=
    stages.perm_migrations.mem_iff.mpr (List.mem_append_right _ inAdded)
  exact ⟨first, firstIn, sameTable, pivot, made, migration, inMigrations,
    compiled⟩

/-- Two relations between the same models have the same sides. -/
theorem sides_perm_of_samePair
    {first second : Definition}
    {model target other otherTarget : Schema.Model}
    (inDocument : model ∈ document.models)
    (targetIn : target ∈ document.models)
    (otherIn : other ∈ document.models)
    (otherTargetIn : otherTarget ∈ document.models)
    (firstJoins : first.Joins model target)
    (secondJoins : second.Joins other otherTarget)
    (samePair :
      (other.name = model.name ∧ otherTarget.name = target.name) ∨
        (other.name = target.name ∧ otherTarget.name = model.name))
    {junction shared : Junction}
    (through : first.junction = some junction)
    (sharedThrough : second.junction = some shared) :
    (shared.sides second other.tableName otherTarget.tableName).Perm
      (junction.sides first model.tableName target.tableName) := by
  have same :
      ∀ {left right : Schema.Model},
        left ∈ document.models →
        right ∈ document.models →
        left.name = right.name →
        left = right := fun leftIn rightIn sameName =>
    List.inj_on_of_nodup_map stages.distinct.models leftIn rightIn sameName
  have firstSides :=
    firstJoins.sides_perm (same inDocument targetIn) through
  have secondSides :=
    secondJoins.sides_perm (same otherIn otherTargetIn) sharedThrough
  rcases samePair with ⟨sameModel, sameTarget⟩ | ⟨sameTarget, sameModel⟩
  · obtain rfl := same otherIn inDocument sameModel
    obtain rfl := same otherTargetIn targetIn sameTarget
    exact secondSides.trans firstSides.symm
  · obtain rfl := same otherIn targetIn sameTarget
    obtain rfl := same otherTargetIn inDocument sameModel
    have swapped := conventionalSides_comm (same inDocument targetIn)
    exact (secondSides.trans swapped).trans firstSides.symm

end Stages

/--
For every implicit relation of a class, a compilation with the built-in rules
that adds junction tables has a migration of its junction table.  Suppose that
the table serves one pair of models only, both have primary keys, the columns
of the table can be told apart, and no directive is taken over from fields of
a declared model that is named like the junction model.  Then the primary key
of the migration consists of the key columns of the relation, and these are
constrained to the keys that the relation reads.
-/
theorem generate_joins_implicit_relations
    {settings : Settings}
    {document : Schema.Document}
    {output : Output}
    (asked : settings.implicitPivots = true)
    (generated :
      ({ settings := settings } : Generator).generate document =
        .ok output)
    {modelClass : ModelClass}
    (inClasses : modelClass ∈ output.classes)
    {relation : Definition}
    (declared : relation ∈ modelClass.relations)
    (implicit : relation.kind = .belongsToManyImplicit) :
    ∃ junction, relation.junction = some junction ∧
      ∃ related ∈ output.classes,
        relation.target = some related.className ∧
          ∃ migration ∈ output.migrations,
            migration.pivot = true ∧
              migration.table = junction.table ∧
              (output.Unambiguous modelClass related junction →
                Unmarked document (Naming.pascal junction.table)
                  (junction.ownKeys ++ junction.relatedKeys ++
                    accessors modelClass.className related.className) →
                migration.Joins
                  (junction.sides relation modelClass.table
                    related.table)) := by
  obtain ⟨stages⟩ := nonempty_stages_of_generate generated
  obtain ⟨model, inDocument, shown, target, targetIn, joins⟩ :=
    stages.exists_joins inClasses declared implicit
  obtain ⟨junction, through, _⟩ := joins.exists_junction
  obtain ⟨related, relatedIn, _, relatedShown⟩ :=
    stages.exists_class_of_mem_models targetIn
  have found :
      (⟨modelClass.className, relation, junction⟩ : Implicit) ∈
        output.implicitRelations :=
    Output.mem_implicitRelations_iff.mpr
      ⟨modelClass, inClasses, rfl, declared, implicit, through⟩
  obtain ⟨first, firstIn, sameTable, pivot, made, migration, inMigrations,
    compiled⟩ := stages.exists_pivot asked found
  obtain ⟨creates, isPivot⟩ := table_of_compile compiled
  rw [tableName_of_pivotModel made, sameTable] at creates
  refine ⟨junction, through, related, relatedIn,
    joins.target_eq.trans (congrArg some relatedShown.className_eq.symm),
    migration, inMigrations, isPivot, creates, ?_⟩
  intro unambiguous unmarked
  -- What has been made for the first relation fits this one as well.
  obtain ⟨otherClass, otherIn, otherNamed, otherDeclared, otherImplicit,
      firstThrough⟩ := Output.mem_implicitRelations_iff.mp firstIn
  obtain ⟨other, otherIn, otherShown, otherTarget, otherTargetIn,
      firstJoins⟩ :=
    stages.exists_joins otherIn otherDeclared otherImplicit
  have firstNamed : other.name = first.model :=
    otherShown.className_eq.symm.trans otherNamed
  have samePair :
      (other.name = model.name ∧ otherTarget.name = target.name) ∨
        (other.name = target.name ∧ otherTarget.name = model.name) := by
    have pair := unambiguous.samePair first firstIn sameTable
    rw [← firstNamed, firstJoins.target_eq, shown.className_eq,
      relatedShown.className_eq, Option.some.injEq, Option.some.injEq]
      at pair
    exact pair
  have sameAccessors :
      (accessors other.name otherTarget.name).Perm
        (accessors model.name target.name) := by
    rcases samePair with ⟨sameModel, sameTarget⟩ | ⟨sameTarget, sameModel⟩
    · rw [sameModel, sameTarget]
    · rw [sameModel, sameTarget]
      exact accessors_comm _ _
  have sides :=
    stages.sides_perm_of_samePair inDocument targetIn otherIn
      otherTargetIn joins firstJoins samePair through firstThrough
  rw [shown.table_eq, relatedShown.table_eq]
  refine Joins.of_perm ?_ sides
  apply joins_of_pivotModel stages.distinct
    (Context.documented_of_ofDocument stages.read)
    (firstNamed ▸ stages.distinct.model?_eq_some otherIn) otherTargetIn
    firstJoins firstThrough made compiled rfl
  · intro side member
    apply joins.columns_ne_nil through
    · exact shown.primaryKey_eq ▸ unambiguous.ownKey
    · exact relatedShown.primaryKey_eq ▸ unambiguous.relatedKey
    · exact sides.mem_iff.mp member
  · rw [sameTable]
    apply unmarked.of_subset
    rw [shown.className_eq, relatedShown.className_eq,
      ← Junction.flatMap_columns_sides]
    exact ((sides.flatMap_right JunctionSide.columns).append
      sameAccessors).subset
  · rw [(sides.flatMap_right JunctionSide.columns).nodup_iff,
      Junction.flatMap_columns_sides]
    exact unambiguous.nodup
  · intro stamp isStamp
    rw [(sides.flatMap_right JunctionSide.columns).mem_iff,
      Junction.flatMap_columns_sides]
    obtain ⟨asking, isAsking, ofTable, stamps⟩ :=
      exists_of_mem_timestampNames isStamp
    exact unambiguous.apart asking
      (stages.mem_implicitRelations_iff.mp isAsking)
      (ofTable.trans sameTable) stamp stamps

/-- The tags that posts implicitly share are joined with the posts. -/
theorem generate_joins_implicit_relations_blog :
    ∃ output,
      ({} : Generator).generate blogDocument = .ok output ∧
        ∃ modelClass ∈ output.classes,
          ∃ relation ∈ modelClass.relations,
            relation.kind = .belongsToManyImplicit ∧
              ∃ junction, relation.junction = some junction ∧
                ∃ related ∈ output.classes,
                  relation.target = some related.className ∧
                    ∃ migration ∈ output.migrations,
                      migration.pivot = true ∧
                        migration.table = junction.table ∧
                        migration.Joins
                          (junction.sides relation modelClass.table
                            related.table) := by
  have compiled :
      (({} : Generator).generate blogDocument).map
          (fun output =>
            decide
              (∃ modelClass ∈ output.classes,
                ∃ relation ∈ modelClass.relations,
                  relation.kind = .belongsToManyImplicit ∧
                    ∀ junction ∈ relation.junction,
                      junction.table = "Post_Tag" ∧
                        ∀ related ∈ output.classes,
                          relation.target = some related.className →
                          output.Unambiguous modelClass related
                            junction)) =
        .ok true := by
    decide +kernel
  obtain ⟨output, generated, shown⟩ := Outcome.map_eq_ok_iff.mp compiled
  obtain ⟨modelClass, inClasses, relation, declared, implicit, clear⟩ :=
    of_decide_eq_true shown
  obtain ⟨junction, through, related, relatedIn, target, migration,
      inMigrations, isPivot, creates, joins⟩ :=
    generate_joins_implicit_relations rfl generated inClasses declared
      implicit
  obtain ⟨named, unambiguous⟩ := clear junction through
  have unmarked :
      ∀ fields,
        Unmarked blogDocument (Naming.pascal junction.table) fields := by
    have absent :
        ∀ model ∈ blogDocument.models,
          model.name ≠ Naming.pascal "Post_Tag" := by
      decide +kernel
    rw [named]
    intro fields model inDocument sameName
    exact (absent model inDocument sameName).elim
  exact ⟨output, generated, modelClass, inClasses, relation, declared,
    implicit, junction, through, related, relatedIn, target, migration,
    inMigrations, isPivot, creates,
    joins (unambiguous related relatedIn target) (unmarked _)⟩

/-- Every implicit relation of a class is joined by the migration of its
junction table. -/
@[reducible]
def JoinsRelations (output : Output) : Prop :=
  ∀ modelClass ∈ output.classes,
    ∀ relation ∈ modelClass.relations,
      relation.kind = .belongsToManyImplicit →
      ∃ junction ∈ relation.junction,
        ∃ related ∈ output.classes,
          relation.target = some related.className ∧
            ∃ migration ∈ output.migrations,
              migration.pivot = true ∧
                migration.table = junction.table ∧
                migration.Joins
                  (junction.sides relation modelClass.table
                    related.table)

/-- A document is compiled to classes with an implicit relation that no
migration joins. -/
def LeavesApart (document : Schema.Document) : Prop :=
  ∃ output,
    ({} : Generator).generate document = .ok output ∧
      ¬ JoinsRelations output

theorem leavesApart_of_map
    {document : Schema.Document}
    (compiled :
      (({} : Generator).generate document).map
          (fun output => decide (JoinsRelations output)) =
        .ok false) :
    LeavesApart document := by
  obtain ⟨output, generated, apart⟩ := Outcome.map_eq_ok_iff.mp compiled
  exact ⟨output, generated, of_decide_eq_false apart⟩

/-- Two models that implicitly share each other. -/
def sharing (first second : Schema.Model) : List Schema.Model :=
  [ first.withField (Schema.Field.relation "others" second.name).list,
    second.withField (Schema.Field.relation "others" first.name).list ]

/-- Notes have no primary key. -/
def notesDocument : Schema.Document :=
  { models :=
      sharing { name := "Note" }
        { name := "Tag", fields := [.autoincrementId] } }

/-- Two pairs of models whose tables are joined to one name. -/
def pairsDocument : Schema.Document :=
  { models :=
      sharing
          { name := "Post", dbName := some "post"
            fields := [.autoincrementId] }
          { name := "TagUser", dbName := some "tag_user"
            fields := [.autoincrementId] } ++
        sharing
          { name := "PostTag", dbName := some "post_tag"
            fields := [.autoincrementId] }
          { name := "User", dbName := some "user"
            fields := [.autoincrementId] } }

/-- Two models whose names differ only in case. -/
def linksDocument : Schema.Document :=
  { models :=
      sharing { name := "URL", fields := [.autoincrementId] }
        { name := "Url", fields := [.autoincrementId] } }

/-- A key column that is named like a timestamp of the junction table. -/
def stampsDocument : Schema.Document :=
  { models :=
      [ { name := "Created"
          fields :=
            [ (Schema.Field.scalar "at" "Int").id,
              (Schema.Field.relation "tags" "Tag").list.withDocumentation
                "@withTimestamps" ] },
        { name := "Tag"
          fields :=
            [ .autoincrementId,
              (Schema.Field.relation "entries" "Created").list ] } ] }

/-- A model that is named like the junction table of posts and tags, and
leaves a field out of its migration. -/
def ratingsDocument : Schema.Document :=
  { models :=
      sharing { name := "Post", fields := [.autoincrementId] }
          { name := "Tag", fields := [.autoincrementId] } ++
        [ { name := "PostTag"
            dbName := some "ratings"
            fields :=
              [ .autoincrementId,
                (Schema.Field.scalar "post_id" "Int").withDocumentation
                  "@silent(migrations)" ] } ] }

/-- A relation need not be joined, for lack of a primary key, for the sake of
another pair of models, for want of names for the columns, or because a
directive is heeded for the junction table as well. -/
theorem generate_leaves_relations_apart :
    LeavesApart notesDocument ∧
      LeavesApart pairsDocument ∧
      LeavesApart linksDocument ∧
      LeavesApart stampsDocument ∧
      LeavesApart ratingsDocument := by
  refine ⟨?_, ?_, ?_, ?_, ?_⟩
  all_goals
    apply leavesApart_of_map
    decide +kernel

end Generator

end Tablewright
