import Tablewright.Proofs.Generator.Failure
import Tablewright.Proofs.Schema.Reordering

namespace Tablewright

/-!
# Compilation in another order

Every stage looks its document up by names, so the order of the models decides
at most the order of what comes out.  Whether the tables can be sorted depends
on their references only, and without junction tables the same migrations and
the same classes are produced.
-/

open Schema

/-! ## Inference -/

/-- Relations are inferred from what is found by name. -/
theorem Relation.inferModel_eq_of_reordered
    {document other : Document}
    (reordered : document.Reordered other)
    (distinct : document.Distinct)
    (options : Options) :
    inferModel options other = inferModel options document := by
  have explicit :
      explicitManyToMany? other = explicitManyToMany? document := by
    funext model field pivot back directives name
    simp only [explicitManyToMany?, reordered.targetOf_eq distinct]
  have lists : inferList other = inferList document := by
    funext model field target counterpart directives name
    simp only [inferList, explicit]
  have fields :
      inferDocumented options other = inferDocumented options document := by
    funext model field
    simp only [inferDocumented, inferField, lists,
      reordered.targetOf_eq distinct]
  have owners : ownerMorph options other = ownerMorph options document := by
    funext model morph
    simp only [ownerMorph, reordered.model?_eq distinct]
  funext name
  simp only [inferModel, candidates, ownerMorphs, fields, owners,
    reordered.requireModel_eq distinct]

/-! ## Contexts -/

namespace Context

/-- Two contexts that know the same by name. -/
structure Agrees (context other : Context) : Prop where
  targetOf : other.document.targetOf = context.document.targetOf
  enumValues : other.document.enumValues = context.document.enumValues
  modelDirectives : other.modelDirectives = context.modelDirectives
  fieldDirectives : other.fieldDirectives = context.fieldDirectives

section Opened

variable {document other : Document} {settings : Settings}
variable {context otherContext : Context}
variable (reordered : document.Reordered other)
variable (distinct : document.Distinct)
variable (opened : ofDocument document settings = .ok context)
variable (otherOpened : ofDocument other settings = .ok otherContext)

include reordered distinct opened otherOpened

theorem modelDirectives_eq_of_reordered :
    otherContext.modelDirectives = context.modelDirectives := by
  obtain ⟨known, unknown⟩ := modelDirectives_of_ofDocument distinct opened
  obtain ⟨otherKnown, otherUnknown⟩ :=
    modelDirectives_of_ofDocument (reordered.distinct distinct) otherOpened
  funext name
  by_cases isName : name ∈ document.models.map Model.name
  · obtain ⟨model, member, rfl⟩ := List.mem_map.mp isName
    have inOther := otherKnown model (reordered.mem_iff.mpr member)
    rw [known model member] at inOther
    exact (Except.ok.inj inOther).symm
  · have notInOther : name ∉ other.models.map Model.name :=
      mt (reordered.models.map Model.name).mem_iff.mp isName
    rw [unknown name isName, otherUnknown name notInOther]

theorem fieldDirectives_eq_of_reordered :
    otherContext.fieldDirectives = context.fieldDirectives := by
  funext modelName fieldName
  rcases (documented_of_ofDocument opened).fieldDirectives modelName
    fieldName with empty | ⟨model, member, rfl, field, inModel, rfl, read⟩
  · rcases (documented_of_ofDocument otherOpened).fieldDirectives modelName
      fieldName with
        otherEmpty | ⟨model, member, rfl, field, inModel, rfl, read⟩
    · rw [empty, otherEmpty]
    · exact (fieldDirectives_eq distinct opened
        (reordered.mem_iff.mp member) inModel read).symm
  · exact fieldDirectives_eq (reordered.distinct distinct) otherOpened
      (reordered.mem_iff.mpr member) inModel read

/-- The contexts of a document in two orders know the same. -/
theorem agrees_of_reordered : context.Agrees otherContext := by
  have same := (documented_of_ofDocument opened).1
  have otherSame := (documented_of_ofDocument otherOpened).1
  exact {
    targetOf := by
      rw [same, otherSame, reordered.targetOf_eq distinct]
    enumValues := by
      rw [same, otherSame, reordered.enumValues_eq]
    modelDirectives :=
      modelDirectives_eq_of_reordered reordered distinct opened otherOpened
    fieldDirectives :=
      fieldDirectives_eq_of_reordered reordered distinct opened
        otherOpened }

end Opened

namespace Agrees

variable {context other : Context} (agrees : context.Agrees other)

include agrees

/-- A table is built from what a context knows by name. -/
theorem tableOfModel_eq : Table.ofModel other = Table.ofModel context := by
  have columns :
      Column.ofModelField other = Column.ofModelField context := by
    funext model keyColumns field
    simp only [Column.ofModelField, Column.markerOf, Column.ofField,
      agrees.targetOf, agrees.enumValues, agrees.fieldDirectives]
  funext model
  simp only [Table.ofModel, columns]

theorem migrationOfModel_eq :
    Migration.ofModel other = Migration.ofModel context := by
  funext rules model
  simp only [Migration.ofModel, Migration.compile, agrees.tableOfModel_eq,
    agrees.modelDirectives]

theorem classOf_eq : Generator.classOf other = Generator.classOf context := by
  have views : ModelClass.View.ofTable other = .ofTable context := by
    funext model table
    simp only [ModelClass.View.ofTable, agrees.modelDirectives,
      agrees.fieldDirectives]
  funext model registry
  simp only [Generator.classOf, ModelClass.ofModel, views,
    agrees.tableOfModel_eq]

end Agrees

end Context

namespace Generator

variable {generator : Generator} {document other : Document}
variable {output otherOutput : Output}

/-- The classes have the names of the models. -/
theorem Stages.map_className_classes
    (stages : Stages generator document output) :
    output.classes.map ModelClass.className =
      document.models.map Model.name := by
  have built := stages.built
  rw [mapM_classOf_zip stages.inferred] at built
  apply Outcome.map_eq_of_mapM built
  intro model modelClass made
  obtain ⟨registry, _, made⟩ := Outcome.bind_eq_ok_iff.mp made
  obtain ⟨table, _, made⟩ := Outcome.bind_eq_ok_iff.mp made
  obtain rfl := Except.ok.inj made
  rfl

/-- A compilation without junction tables succeeds in every order, with the
same migrations and classes. -/
theorem exists_generate_of_reordered
    (valid : document.validate.errors = [])
    (reordered : document.Reordered other)
    (plain : generator.settings.implicitPivots = false)
    (generated : generator.generate document = .ok output) :
    ∃ otherOutput,
      generator.generate other = .ok otherOutput ∧
        otherOutput.migrations.Perm output.migrations ∧
        otherOutput.classes.Perm output.classes := by
  obtain ⟨_, usable, _⟩ := Outcome.bind_eq_ok_iff.mp generated
  obtain ⟨stages⟩ := nonempty_stages_of_generate generated
  have distinct :=
    Document.distinct_of_valid (Report.toOutcome_eq_ok_iff.mpr valid)
  have otherValid := reordered.valid valid
  obtain ⟨context, opened⟩ :=
    Context.exists_ofDocument (Document.closed_of_valid otherValid)
      generator.settings
  have agrees :=
    Context.agrees_of_reordered reordered distinct stages.read opened
  obtain ⟨registries, inferred, _⟩ :=
    Outcome.exists_mapM_of_perm reordered.models stages.inferred
  obtain ⟨declared, compiled, sameDeclared⟩ :=
    Outcome.exists_mapM_of_perm reordered.models stages.compiled
  have noPivots :
      ∀ {someDocument : Document} {someRegistries},
        generator.pivots someDocument someRegistries = .ok [] := by
    intro _ _
    rw [pivots, plain, if_neg Bool.false_ne_true]
  have noneAdded : stages.added = [] := by
    have noJunctions : stages.junctions = [] :=
      Except.ok.inj (stages.synthesized.symm.trans noPivots)
    have compiledJunctions := stages.compiledJunctions
    rw [noJunctions] at compiledJunctions
    exact (Except.ok.inj compiledJunctions).symm
  obtain ⟨migrations, sorted, sameMigrations⟩ :=
    Migration.exists_sort_of_perm
      (sameDeclared.append_right stages.added) stages.sorted
  have built := stages.built
  rw [mapM_classOf_zip stages.inferred] at built
  obtain ⟨classes, built, sameClasses⟩ :=
    Outcome.exists_mapM_of_perm reordered.models built
  rw [noneAdded] at sorted
  have otherInferred :
      Relation.inferDocument generator.settings.options other =
        .ok registries := by
    unfold Relation.inferDocument
    rw [Relation.inferModel_eq_of_reordered reordered distinct]
    exact inferred
  have otherStages :
      Stages generator other
        { migrations := migrations, classes := classes } := {
    context := context
    registries := registries
    declared := declared
    junctions := []
    added := []
    valid := Report.toOutcome_eq_ok_iff.mpr otherValid
    read := opened
    inferred := otherInferred
    compiled := by rw [agrees.migrationOfModel_eq, compiled]
    synthesized := noPivots
    compiledJunctions := rfl
    sorted := sorted
    built := by
      rw [mapM_classOf_zip otherInferred, agrees.classOf_eq,
        Relation.inferModel_eq_of_reordered reordered distinct, built] }
  obtain ⟨warnings, otherGenerated⟩ := otherStages.exists_generate usable
  exact ⟨_, otherGenerated, sameMigrations, sameClasses⟩

/--
The order of the models of a valid document does not matter.  In every order
the same relations are inferred and the same migrations are compiled for each
model.  Without junction tables, one order can be compiled just if the other
one can, to the same migrations up to their order and to the same class for
every name.
-/
theorem generate_reordered
    (valid : document.validate.errors = [])
    (reordered : document.Reordered other)
    (generator : Generator) :
    (∀ options name,
      Relation.inferModel options other name =
        Relation.inferModel options document name) ∧
      (∃ context otherContext,
        Context.ofDocument document generator.settings = .ok context ∧
          Context.ofDocument other generator.settings = .ok otherContext ∧
          (∀ name, other.model? name = document.model? name) ∧
          ∀ rules model,
            Migration.ofModel otherContext rules model =
              Migration.ofModel context rules model) ∧
      (generator.settings.implicitPivots = false →
        ((∃ output, generator.generate document = .ok output) ↔
          ∃ output, generator.generate other = .ok output) ∧
        ∀ output otherOutput,
          generator.generate document = .ok output →
          generator.generate other = .ok otherOutput →
          otherOutput.migrations.Perm output.migrations ∧
            ∀ name, otherOutput.class? name = output.class? name) := by
  have distinct :=
    Document.distinct_of_valid (Report.toOutcome_eq_ok_iff.mpr valid)
  have otherValid := reordered.valid valid
  refine ⟨?inferred, ?compiled, ?generated⟩
  case inferred =>
    intro options name
    rw [Relation.inferModel_eq_of_reordered reordered distinct]
  case compiled =>
    obtain ⟨context, opened⟩ :=
      Context.exists_ofDocument (Document.closed_of_valid valid)
        generator.settings
    obtain ⟨otherContext, otherOpened⟩ :=
      Context.exists_ofDocument (Document.closed_of_valid otherValid)
        generator.settings
    have agrees :=
      Context.agrees_of_reordered reordered distinct opened otherOpened
    refine ⟨context, otherContext, opened, otherOpened, ?_, ?_⟩
    · intro name
      rw [reordered.model?_eq distinct]
    · intro rules model
      rw [agrees.migrationOfModel_eq]
  case generated =>
    intro plain
    constructor
    · constructor
      · rintro ⟨output, generated⟩
        obtain ⟨otherOutput, otherGenerated, _⟩ :=
          exists_generate_of_reordered valid reordered plain generated
        exact ⟨otherOutput, otherGenerated⟩
      · rintro ⟨output, generated⟩
        obtain ⟨otherOutput, otherGenerated, _⟩ :=
          exists_generate_of_reordered otherValid reordered.symm plain
            generated
        exact ⟨otherOutput, otherGenerated⟩
    · intro output otherOutput generated otherGenerated
      obtain ⟨_, again, sameMigrations, sameClasses⟩ :=
        exists_generate_of_reordered valid reordered plain generated
      obtain rfl := Except.ok.inj (again.symm.trans otherGenerated)
      refine ⟨sameMigrations, ?_⟩
      obtain ⟨stages⟩ := nonempty_stages_of_generate generated
      apply find?_eq_of_perm sameClasses
      rw [stages.map_className_classes]
      exact distinct.models

/-- The blog with its models the other way round. -/
def reversedBlog : Document :=
  { blogDocument with models := blogDocument.models.reverse }

/-- Both orders of the blog can be compiled.  Independent tables swap their
places, but the migrations and the class of the posts are the same. -/
theorem generate_reordered_blog :
    blogDocument.validate.errors = [] ∧
      blogDocument.Reordered reversedBlog ∧
      ∃ output otherOutput,
        ({ settings := { implicitPivots := false } } :
            Generator).generate blogDocument = .ok output ∧
          ({ settings := { implicitPivots := false } } :
            Generator).generate reversedBlog = .ok otherOutput ∧
          output.tableOrder = ["User", "Tag", "Post"] ∧
          otherOutput.tableOrder = ["Tag", "User", "Post"] ∧
          otherOutput.migrations.Perm output.migrations ∧
          otherOutput.class? "Post" = output.class? "Post" := by
  have valid : blogDocument.validate.errors = [] := by decide +kernel
  have reordered : blogDocument.Reordered reversedBlog :=
    ⟨List.reverse_perm _, rfl⟩
  have compiled :
      (({ settings := { implicitPivots := false } } :
          Generator).generate blogDocument).map Output.tableOrder =
        .ok ["User", "Tag", "Post"] := by
    decide +kernel
  have otherCompiled :
      (({ settings := { implicitPivots := false } } :
          Generator).generate reversedBlog).map Output.tableOrder =
        .ok ["Tag", "User", "Post"] := by
    decide +kernel
  obtain ⟨output, generated, order⟩ := Outcome.map_eq_ok_iff.mp compiled
  obtain ⟨otherOutput, otherGenerated, otherOrder⟩ :=
    Outcome.map_eq_ok_iff.mp otherCompiled
  obtain ⟨_, _, alike⟩ :=
    generate_reordered valid reordered
      { settings := { implicitPivots := false } }
  obtain ⟨sameMigrations, sameClasses⟩ :=
    (alike rfl).2 output otherOutput generated otherGenerated
  exact ⟨valid, reordered, output, otherOutput, generated, otherGenerated,
    order, otherOrder, sameMigrations, sameClasses "Post"⟩

end Generator

end Tablewright
