import Tablewright.Proofs.Generator.Failure
import Tablewright.Proofs.ModelClass.Comment
import Tablewright.Proofs.Relation.Documentation

namespace Tablewright

/-!
# Comments are inert

A comment is shown where it was written, and nowhere else does it matter.  Two
documents that differ in comments only are compiled alike: both fail, for the
same reason, or they have the same output once comments are taken away.
-/

open Schema
open Directive.Set (KeepsReadings)

/-- The output with all comments taken away. -/
def Output.withoutComments (output : Output) : Output :=
  { output with
    migrations := output.migrations.map Migration.withoutComments
    classes := output.classes.map ModelClass.withoutComments }

namespace Generator

section Reworded

variable {reword : Option String → Option String}

section Contexts

variable {context other : Context}
variable (changed : context.Reworded reword other)

include changed

theorem map_withoutComments_classOf
    (model : Model)
    (registry : Relation.Registry) :
    (classOf other (model.reworded reword) registry).map
        ModelClass.withoutComments =
      (classOf context model registry).map ModelClass.withoutComments := by
  unfold classOf
  rw [Table.ofModel_reworded]
  refine Outcome.map_bind_eq_map_bind
    (Table.map_withoutComments_ofModel_of_reworded changed model) ?_
  intro table otherTable sameTable
  exact congrArg Except.ok
    (ModelClass.withoutComments_ofModel_of_reworded changed model registry
      sameTable)

theorem map_withoutComments_declared
    (models : List Model) :
    ((models.map (Model.reworded reword)).mapM
        (Migration.ofModel other RuleSet.standard)).map
        (List.map Migration.withoutComments) =
      (models.mapM (Migration.ofModel context RuleSet.standard)).map
        (List.map Migration.withoutComments) := by
  rw [List.mapM_map, Outcome.map_mapM, Outcome.map_mapM]
  simp only [Function.comp_apply,
    Migration.map_withoutComments_ofModel changed]

theorem map_withoutComments_added
    (junctions : List Model) :
    (junctions.mapM (Migration.ofPivot other RuleSet.standard)).map
        (List.map Migration.withoutComments) =
      (junctions.mapM (Migration.ofPivot context RuleSet.standard)).map
        (List.map Migration.withoutComments) := by
  rw [Outcome.map_mapM, Outcome.map_mapM]
  simp only [Migration.map_withoutComments_ofPivot changed]

theorem map_withoutComments_classes
    (models : List Model)
    (registries : List (String × Relation.Registry)) :
    (((models.map (Model.reworded reword)).zip registries).mapM
        fun ((model, _, registry) : Model × String × Relation.Registry) =>
          classOf other model registry).map
        (List.map ModelClass.withoutComments) =
      ((models.zip registries).mapM
        fun ((model, _, registry) : Model × String × Relation.Registry) =>
          classOf context model registry).map
        (List.map ModelClass.withoutComments) := by
  rw [List.zip_map_left, List.mapM_map, Outcome.map_mapM,
    Outcome.map_mapM]
  simp only [Function.comp_apply, Prod.map_fst, Prod.map_snd, id_eq,
    map_withoutComments_classOf changed]

end Contexts

/-- A valid document and the reworded one are read into contexts that know the
same. -/
theorem exists_reworded_contexts
    (keeps : KeepsReadings reword)
    (settings : Settings)
    {document : Document}
    (valid : document.validate.toOutcome = .ok ()) :
    ∃ context other,
      Context.ofDocument document settings = .ok context ∧
        Context.ofDocument (document.reworded reword) settings =
          .ok other ∧
        context.Reworded reword other := by
  have otherValid :
      (document.reworded reword).validate.toOutcome = .ok () := by
    rw [Document.validate_reworded reword keeps, valid]
  obtain ⟨context, opened⟩ :=
    Context.exists_ofDocument
      (Document.closed_of_valid (Report.toOutcome_eq_ok_iff.mp valid))
      settings
  obtain ⟨other, otherOpened⟩ :=
    Context.exists_ofDocument
      (Document.closed_of_valid (Report.toOutcome_eq_ok_iff.mp otherValid))
      settings
  exact ⟨context, other, opened, otherOpened,
    Context.reworded_of_ofDocument keeps (Document.distinct_of_valid valid)
      (Document.distinct_of_valid otherValid) opened otherOpened⟩

/-- A reworded document is compiled like the document, comments aside. -/
theorem map_withoutComments_generate_reworded
    (keeps : KeepsReadings reword)
    (settings : Settings)
    (document : Document) :
    (({ settings := settings } : Generator).generate
        (document.reworded reword)).map Output.withoutComments =
      (({ settings := settings } : Generator).generate document).map
        Output.withoutComments := by
  have samePivots :
      ∀ registries,
        pivots { settings := settings } (document.reworded reword)
            registries =
          pivots { settings := settings } document registries := by
    intro registries
    simp only [pivots, Migration.synthesizePivots_reworded]
  unfold generate
  dsimp only
  rw [Document.validate_reworded reword keeps,
    Relation.inferDocument_reworded keeps]
  refine Outcome.map_bind_eq_of_forall _ fun usable => ?_
  cases valid : document.validate.toOutcome with
  | error failure => rfl
  | ok read =>
      obtain ⟨context, other, opened, otherOpened, changed⟩ :=
        exists_reworded_contexts keeps settings valid
      simp only [opened, otherOpened, Outcome.ok_bind, samePivots,
        Document.reworded_models]
      refine Outcome.map_bind_eq_of_forall _ fun registries => ?_
      refine Outcome.map_bind_eq_map_bind
        (map_withoutComments_declared changed document.models) ?_
      intro declared otherDeclared sameDeclared
      refine Outcome.map_bind_eq_of_forall _ fun junctions => ?_
      refine Outcome.map_bind_eq_map_bind
        (map_withoutComments_added changed junctions) ?_
      intro added otherAdded sameAdded
      have sorted :
          (Migration.sort (otherDeclared ++ otherAdded)).map
              (List.map Migration.withoutComments) =
            (Migration.sort (declared ++ added)).map
              (List.map Migration.withoutComments) := by
        have keepsReferences :=
          Migration.keepsReferences_withoutComments
        rw [← Migration.sort_map keepsReferences,
          ← Migration.sort_map keepsReferences, List.map_append,
          List.map_append, sameDeclared, sameAdded]
      refine Outcome.map_bind_eq_map_bind sorted ?_
      intro migrations otherMigrations sameMigrations
      refine Outcome.map_bind_eq_map_bind
        (map_withoutComments_classes changed document.models
          registries) ?_
      intro classes otherClasses sameClasses
      refine congrArg Except.ok ?_
      simp only [Output.withoutComments, sameMigrations, sameClasses]

/-- Comments are inert: alike documents are compiled to outputs that differ in
comments only, or they fail for the same reason. -/
theorem generate_eq_of_alike
    {document other : Document}
    (alike : document.Alike other)
    (settings : Settings) :
    (({ settings := settings } : Generator).generate other).map
        Output.withoutComments =
      (({ settings := settings } : Generator).generate document).map
        Output.withoutComments := by
  have keeps := Directive.Set.keepsReadings_representative
  rw [← map_withoutComments_generate_reworded keeps settings other,
    ← map_withoutComments_generate_reworded keeps settings document,
    alike.reworded_eq]

end Reworded

/-- Writers with their letters, documented as given. -/
def letterDocument (writer name letters written : Option String) :
    Document :=
  { models :=
      [ { name := "Writer"
          documentation := writer
          fields :=
            [ Field.autoincrementId,
              { Field.scalar "name" "String" with documentation := name },
              { (Field.relation "letters" "Letter").list with
                documentation := letters } ] },
        { name := "Letter"
          fields :=
            [ Field.autoincrementId,
              Field.scalar "writerId" "Int",
              { (Field.relation "writer" "Writer").references
                  ["writerId"] ["id"] with
                documentation := written } ] } ] }

theorem generate_eq_of_alike_letters :
    let document := letterDocument (some "@hidden(name)") (some "@fillable")
      none none
    let other := letterDocument (some "Who writes. @hidden(name)")
      (some "As signed.\n@fillable") (some "By date.") (some "By whom.")
    document.Alike other ∧
      ∃ output otherOutput,
        ({} : Generator).generate document = .ok output ∧
          ({} : Generator).generate other = .ok otherOutput ∧
          otherOutput.withoutComments = output.withoutComments ∧
          otherOutput ≠ output := by
  intro document other
  have alike : document.Alike other :=
    { enums := rfl
      models :=
        .cons
          ⟨rfl, by decide +kernel,
            .cons ⟨rfl, rfl⟩
              (.cons ⟨rfl, by decide +kernel⟩
                (.cons ⟨rfl, by decide +kernel⟩ .nil))⟩
          (.cons
            ⟨rfl, rfl,
              .cons ⟨rfl, rfl⟩
                (.cons ⟨rfl, rfl⟩
                  (.cons ⟨rfl, by decide +kernel⟩ .nil))⟩
            .nil) }
  have commented :
      (({} : Generator).generate document).map
            (fun output => output.migrations.map Migration.statements) =
          .ok
            [ [ "$table->id();", "$table->string('name');" ],
              [ "$table->id();",
                "$table->foreignId('writerId')->constrained('Writer');" ] ] ∧
        (({} : Generator).generate other).map
            (fun output => output.migrations.map Migration.statements) =
          .ok
            [ [ "$table->id();",
                "$table->string('name')->comment('As signed.');" ],
              [ "$table->id();",
                "$table->foreignId('writerId')->constrained('Writer');" ] ] := by
    decide +kernel
  obtain ⟨output, generated, plain⟩ :=
    Outcome.map_eq_ok_iff.mp commented.1
  obtain ⟨otherOutput, otherGenerated, remarked⟩ :=
    Outcome.map_eq_ok_iff.mp commented.2
  have same := generate_eq_of_alike alike {}
  rw [generated, otherGenerated] at same
  refine ⟨alike, output, otherOutput, generated, otherGenerated,
    Except.ok.inj same, ?_⟩
  rintro rfl
  rw [plain] at remarked
  exact absurd remarked (by decide)

end Generator

end Tablewright
