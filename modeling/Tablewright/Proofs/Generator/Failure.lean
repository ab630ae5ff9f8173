import Tablewright.Proofs.Context
import Tablewright.Proofs.Generator
import Tablewright.Proofs.Migration.Closed
import Tablewright.Proofs.Relation.Failure

namespace Tablewright

/-!
# What can stop a compilation

A compilation ends in one of three failures: unusable settings, a document
that contradicts itself, or tables that depend on each other in a cycle.  In
a valid document the directives, the targets of all relation fields and the
fields of all keys are known, of junction models as well, so only few
contradictions are left.
-/

open Schema

namespace Generator

/-- The migrations that a compilation has to sort. -/
structure Compiles
    (generator : Generator)
    (document : Document)
    (context : Context)
    (registries : List (String × Relation.Registry))
    (declared : List Migration)
    (junctions : List Model)
    (added : List Migration) : Prop where
  read : Context.ofDocument document generator.settings = .ok context
  inferred :
    Relation.inferDocument generator.settings.options document =
      .ok registries
  compiled :
    document.models.mapM (Migration.ofModel context generator.rules) =
      .ok declared
  synthesized : generator.pivots document registries = .ok junctions
  compiledJunctions :
    junctions.mapM (Migration.ofPivot context generator.rules) =
      .ok added

/-- What can still stop the compilation of a valid document. -/
inductive Obstacle (generator : Generator) (document : Document) :
    Failure → Prop
  | invalidSettings
      {fault : SettingsFault}
      (found : generator.settings.fault? = some fault) :
      Obstacle generator document (.invalidSettings fault.message)
  /-- A relation lacks its counterpart or its polymorphic target. -/
  | unrelated
      {failure : Failure}
      (contradiction : Relation.Unrelated document failure) :
      Obstacle generator document failure
  /-- A key column that a junction table refers to has no field. -/
  | unkeyed
      {registries : List (String × Relation.Registry)}
      {model : Model}
      {column : String}
      (asked : generator.settings.implicitPivots = true)
      (inferred :
        Relation.inferDocument generator.settings.options document =
          .ok registries)
      (found : Migration.Unkeyed document registries model column) :
      Obstacle generator document
        ((Inconsistency.keyWithoutField column).failure model.name)
  /-- Tables refer to each other. -/
  | cycle
      {context : Context}
      {registries : List (String × Relation.Registry)}
      {declared added : List Migration}
      {junctions : List Model}
      {table : String}
      {stuck : List String}
      (compiles :
        generator.Compiles document context registries declared junctions
          added)
      (cyclic :
        Relation.TransGen (Migration.RefersTo (declared ++ added)) table
          table) :
      Obstacle generator document
        (.dependencyCycle stuck
          (Migration.dependencyEdges (declared ++ added)))

end Generator

/-- A failure of settings, of a document or of the order of its tables. -/
def Failure.IsDocumented (failure : Failure) : Prop :=
  (∃ message, failure = .invalidSettings message) ∨
    (∃ model message, failure = .schemaInconsistency model message) ∨
    ∃ stuck edges, failure = .dependencyCycle stuck edges

namespace Generator

/-- Every obstacle is reported as documented. -/
theorem Obstacle.isDocumented
    {generator : Generator}
    {document : Document}
    {failure : Failure}
    (obstacle : Obstacle generator document failure) :
    failure.IsDocumented := by
  cases obstacle with
  | invalidSettings _ => exact Or.inl ⟨_, rfl⟩
  | unrelated contradiction =>
      cases contradiction with
      | noCounterpart => exact Or.inr (Or.inl ⟨_, _, rfl⟩)
      | unknownMorphTarget => exact Or.inr (Or.inl ⟨_, _, rfl⟩)
  | unkeyed => exact Or.inr (Or.inl ⟨_, _, rfl⟩)
  | cycle => exact Or.inr (Or.inr ⟨_, _, rfl⟩)

theorem exists_fault_of_validate
    {settings : Settings}
    {failure : Failure}
    (failed : settings.validate = .error failure) :
    ∃ fault,
      settings.fault? = some fault ∧
        failure = .invalidSettings fault.message := by
  unfold Settings.validate at failed
  split at failed
  · cases failed
  · exact ⟨_, ‹_›, (Except.error.inj failed).symm⟩

theorem exists_of_toOutcome_eq_error
    {report : Report}
    {failure : Failure}
    (failed : report.toOutcome = .error failure) :
    ∃ model message, failure = .schemaInconsistency model message := by
  unfold Report.toOutcome at failed
  split at failed
  · cases failed
  · exact ⟨_, _, (Except.error.inj failed).symm⟩

/-! ## Tables and migrations -/

/-- The table of a closed model can be built. -/
theorem exists_table
    {document : Document}
    {context : Context}
    (same : context.document = document)
    {model : Model}
    (closed : model.ClosedIn document) :
    ∃ table, Table.ofModel context model = .ok table := by
  refine Table.exists_ofModel fun field member => ?_
  rw [same]
  exact closed.exists_targetOf member model.name

/-- A closed model can be compiled. -/
theorem exists_compile
    {document : Document}
    {context : Context}
    (same : context.document = document)
    {model : Model}
    (closed : model.ClosedIn document)
    (rules : RuleSet)
    (silent pivot : Bool) :
    ∃ migration,
      Migration.compile context rules model silent pivot =
        .ok migration := by
  obtain ⟨table, built⟩ := exists_table same closed
  unfold Migration.compile
  rw [built]
  exact ⟨_, rfl⟩

/-- The migration of a model of a closed document has the lines of its resolved
table. -/
theorem exists_resolved
    {document : Document}
    (closed : document.Closed)
    (settings : Settings)
    (rules : RuleSet)
    {model : Model}
    (inDocument : model ∈ document.models) :
    ∃ context table migration,
      Context.ofDocument document settings = .ok context ∧
        Table.ofModel context model = .ok table ∧
        Migration.ofModel context rules model = .ok migration ∧
        migration.lines =
          (rules.resolve ⟨model.name, model.tableName⟩ table).lines := by
  obtain ⟨context, opened⟩ := Context.exists_ofDocument closed settings
  obtain ⟨table, built⟩ :=
    exists_table (Context.documented_of_ofDocument opened).1
      (closed.model model inDocument)
  exact ⟨context, table, _, opened, built,
    Outcome.bind_eq_ok_iff.mpr ⟨table, built, rfl⟩, rfl⟩

/-- The junction models that are asked for are closed. -/
theorem closedIn_of_pivots
    {generator : Generator}
    {document : Document}
    (closed : document.Closed)
    {registries : List (String × Relation.Registry)}
    {junctions : List Model}
    (synthesized : generator.pivots document registries = .ok junctions) :
    ∀ pivot ∈ junctions, pivot.ClosedIn document := by
  intro pivot member
  unfold pivots at synthesized
  split at synthesized
  · exact Migration.closedIn_of_synthesizePivots closed synthesized member
  · obtain rfl := Except.ok.inj synthesized
    cases member

theorem exists_declared
    {document : Document}
    {context : Context}
    (same : context.document = document)
    (closed : document.Closed)
    (rules : RuleSet) :
    ∃ declared,
      document.models.mapM (Migration.ofModel context rules) =
        .ok declared :=
  Outcome.exists_mapM_eq_ok fun model inDocument =>
    exists_compile same (closed.model model inDocument) rules _ _

theorem exists_added
    {document : Document}
    {context : Context}
    (same : context.document = document)
    {junctions : List Model}
    (closed : ∀ pivot ∈ junctions, pivot.ClosedIn document)
    (rules : RuleSet) :
    ∃ added,
      junctions.mapM (Migration.ofPivot context rules) = .ok added :=
  Outcome.exists_mapM_eq_ok fun pivot member =>
    exists_compile same (closed pivot member) rules _ _

theorem obstacle_of_pivots
    {generator : Generator}
    {document : Document}
    (closed : document.Closed)
    {registries : List (String × Relation.Registry)}
    (inferred :
      Relation.inferDocument generator.settings.options document =
        .ok registries)
    {failure : Failure}
    (failed : generator.pivots document registries = .error failure) :
    Obstacle generator document failure := by
  unfold pivots at failed
  split at failed
  · rename_i asked
    obtain ⟨model, column, found, rfl⟩ :=
      Migration.unkeyed_of_synthesizePivots closed.toDistinct inferred
        failed
    exact .unkeyed asked inferred found
  · cases failed

/-- Only the settings, the inference, the junction models and the order of
the tables can stop the compilation of a valid document. -/
theorem obstacle_of_generate
    {generator : Generator}
    {document : Document}
    (valid : document.validate.errors = [])
    {failure : Failure}
    (failed : generator.generate document = .error failure) :
    Obstacle generator document failure := by
  have closed := Document.closed_of_valid valid
  obtain ⟨context, read⟩ :=
    Context.exists_ofDocument closed generator.settings
  have same := (Context.documented_of_ofDocument read).1
  unfold generate at failed
  rcases Outcome.bind_eq_error_iff.mp failed with
      unusable | ⟨_, _, failed⟩
  · obtain ⟨fault, found, rfl⟩ := exists_fault_of_validate unusable
    exact .invalidSettings found
  replace failed :=
    Outcome.error_of_bind (Report.toOutcome_eq_ok_iff.mpr valid) failed
  replace failed := Outcome.error_of_bind read failed
  rcases Outcome.bind_eq_error_iff.mp failed with
      contradicts | ⟨registries, inferred, failed⟩
  · exact .unrelated
      (Relation.unrelated_of_inferDocument closed contradicts)
  obtain ⟨declared, compiled⟩ :=
    exists_declared same closed generator.rules
  replace failed := Outcome.error_of_bind compiled failed
  rcases Outcome.bind_eq_error_iff.mp failed with
      unkeyed | ⟨junctions, synthesized, failed⟩
  · exact obstacle_of_pivots closed inferred unkeyed
  obtain ⟨added, compiledJunctions⟩ :=
    exists_added same (closedIn_of_pivots closed synthesized)
      generator.rules
  replace failed := Outcome.error_of_bind compiledJunctions failed
  rcases Outcome.bind_eq_error_iff.mp failed with
      cyclic | ⟨migrations, _, failed⟩
  · obtain ⟨⟨stuck, rfl⟩, table, refers⟩ :=
      Migration.exists_cycle_of_sort_eq_error cyclic
    exact .cycle
      ⟨read, inferred, compiled, synthesized, compiledJunctions⟩ refers
  rcases Outcome.bind_eq_error_iff.mp failed with
      unbuilt | ⟨_, _, failed⟩
  · obtain ⟨⟨model, entry⟩, inZip, unbuilt⟩ :=
      Outcome.exists_of_mapM_eq_error unbuilt
    obtain ⟨table, built⟩ :=
      exists_table same (closed.model model (List.of_mem_zip inZip).1)
    cases Outcome.error_of_bind built unbuilt
  · cases failed

/--
A compilation fails only with unusable settings, an inconsistent document or
a dependency cycle.  Once a document is valid, its directives can be read,
and the tables of its models and of all junction models can be built.  What
is left are unusable settings, a relation without its counterpart or its
polymorphic target, a key column of a joined model that has no field, and
tables that refer to each other.
-/
theorem generate_fails_as_documented
    (generator : Generator)
    (document : Document) :
    (∀ failure,
      generator.generate document = .error failure →
        failure.IsDocumented) ∧
      (document.validate.errors = [] →
        (∃ context,
          Context.ofDocument document generator.settings = .ok context ∧
            (∀ model ∈ document.models, ∃ table,
              Table.ofModel context model = .ok table) ∧
            ∀ registries junctions,
              Migration.synthesizePivots document registries =
                .ok junctions →
              ∀ pivot ∈ junctions, ∃ table,
                Table.ofModel context pivot = .ok table) ∧
          ∀ failure,
            generator.generate document = .error failure →
              Obstacle generator document failure) := by
  refine ⟨?documented, ?closed⟩
  case documented =>
    intro failure failed
    by_cases valid : document.validate.errors = []
    · exact (obstacle_of_generate valid failed).isDocumented
    rcases Outcome.bind_eq_error_iff.mp failed with
        unusable | ⟨_, _, failed⟩
    · obtain ⟨fault, _, rfl⟩ := exists_fault_of_validate unusable
      exact Or.inl ⟨_, rfl⟩
    rcases Outcome.bind_eq_error_iff.mp failed with
        rejected | ⟨_, accepted, _⟩
    · exact Or.inr (Or.inl (exists_of_toOutcome_eq_error rejected))
    · exact (valid (Report.toOutcome_eq_ok_iff.mp accepted)).elim
  case closed =>
    intro valid
    have closed := Document.closed_of_valid valid
    obtain ⟨context, read⟩ :=
      Context.exists_ofDocument closed generator.settings
    have same := (Context.documented_of_ofDocument read).1
    refine ⟨⟨context, read, ?_, ?_⟩,
      fun failure => obstacle_of_generate valid⟩
    · intro model inDocument
      exact exists_table same (closed.model model inDocument)
    · intro registries junctions synthesized pivot member
      exact exists_table same
        (Migration.closedIn_of_synthesizePivots closed synthesized member)

/-- Deeds are identified by their owner, which is a relation and no
column. -/
def deedsDocument : Document :=
  { models :=
      [ { name := "Deed"
          fields :=
            [ .scalar "ownerId" "Int",
              ((Field.relation "owner" "Owner").inRelation
                "Owned").references ["ownerId"] ["id"],
              ((Field.relation "witnesses" "Owner").inRelation
                "Witnessed").list ]
          primaryKey := some { fields := ["owner"] } },
        { name := "Owner"
          fields :=
            [ .autoincrementId,
              ((Field.relation "deeds" "Deed").inRelation "Owned").list,
              ((Field.relation "witnessed" "Deed").inRelation
                "Witnessed").list ] } ] }

/-- Deeds and blogs are valid.  Deeds cannot be compiled, as the junction
table of their witnesses refers to a column without a field; a blog has
tables for all of its models and junction models. -/
theorem generate_fails_as_documented_deeds :
    (deedsDocument.validate.errors = [] ∧
      ∃ failure,
        ({} : Generator).generate deedsDocument = .error failure ∧
          failure.message =
            "Schema inconsistency in model 'Deed': " ++
              "primary key column 'owner' has no field" ∧
          failure.IsDocumented ∧
          Obstacle {} deedsDocument failure) ∧
      blogDocument.validate.errors = [] ∧
        ∃ context registries junctions,
          Context.ofDocument blogDocument {} = .ok context ∧
            Migration.synthesizePivots blogDocument registries =
              .ok junctions ∧
            junctions.map Model.tableName = ["Post_Tag"] ∧
            ∀ model ∈ blogDocument.models ++ junctions, ∃ table,
              Table.ofModel context model = .ok table := by
  refine ⟨?deeds, ?blog⟩
  case deeds =>
    have valid : deedsDocument.validate.errors = [] := by decide +kernel
    have failed :
        ({} : Generator).generate deedsDocument =
          .error ((Inconsistency.keyWithoutField "owner").failure
            "Deed") := by
      decide +kernel
    obtain ⟨documented, closed⟩ :=
      generate_fails_as_documented {} deedsDocument
    exact ⟨valid, _, failed, by decide +kernel, documented _ failed,
      (closed valid).2 _ failed⟩
  case blog =>
    have valid : blogDocument.validate.errors = [] := by decide +kernel
    have synthesized :
        ((Relation.inferDocument {} blogDocument >>=
            Migration.synthesizePivots blogDocument).map
              (List.map Model.tableName)) =
          .ok ["Post_Tag"] := by
      decide +kernel
    obtain ⟨junctions, made, tables⟩ :=
      Outcome.map_eq_ok_iff.mp synthesized
    obtain ⟨registries, _, made⟩ := Outcome.bind_eq_ok_iff.mp made
    obtain ⟨⟨context, read, ofModels, ofJunctions⟩, _⟩ :=
      (generate_fails_as_documented {} blogDocument).2 valid
    refine ⟨valid, context, registries, junctions, read, made, tables, ?_⟩
    intro model member
    rcases List.mem_append.mp member with inDocument | inJunctions
    · exact ofModels model inDocument
    · exact ofJunctions registries junctions made model inJunctions

end Generator

end Tablewright
