import Tablewright.Migration.Order
import Tablewright.Proofs.Column.Builder
import Tablewright.Proofs.Context
import Tablewright.Proofs.Rule.Comment
import Tablewright.Proofs.Schema.Documentation

namespace Tablewright

/-!
# Migrations without comments

The contexts of a document and of a reworded one know the same directives.
The tables that they lead to differ in comments at most, and so do the
migrations, which are sorted by what is left of them without comments.
-/

open Schema
open Directive.Set (KeepsReadings)

variable {reword : Option String → Option String}

/-! ## Contexts -/

namespace Directive.Set

/-- What is read of a string is read of the reworded one, comments aside. -/
theorem KeepsReadings.exists_ofDocumentation
    (keeps : KeepsReadings reword)
    {documentation : Option String}
    {set : Set}
    (read : ofDocumentation documentation = .ok set) :
    ∃ other,
      ofDocumentation (reword documentation) = .ok other ∧
        other.withoutComment = set.withoutComment := by
  have same := keeps documentation
  rw [reading, reading, read] at same
  exact Outcome.map_eq_ok_iff.mp same

theorem KeepsReadings.exists_of_reworded
    (keeps : KeepsReadings reword)
    {documentation : Option String}
    {other : Set}
    (read : ofDocumentation (reword documentation) = .ok other) :
    ∃ set,
      ofDocumentation documentation = .ok set ∧
        set.withoutComment = other.withoutComment := by
  have same := (keeps documentation).symm
  rw [reading, reading, read] at same
  exact Outcome.map_eq_ok_iff.mp same

end Directive.Set

namespace Context

/-- Two contexts of which the second knows the reworded models of the first
one, and the same directives. -/
structure Reworded (reword : Option String → Option String)
    (context other : Context) : Prop where
  targetOf :
    ∀ name field,
      other.document.targetOf name field =
        (context.document.targetOf name field).map (Model.reworded reword)
  enumValues : other.document.enumValues = context.document.enumValues
  modelDirectives :
    ∀ name,
      (other.modelDirectives name).withoutComment =
        (context.modelDirectives name).withoutComment
  fieldDirectives :
    ∀ model field,
      (other.fieldDirectives model field).withoutComment =
        (context.fieldDirectives model field).withoutComment

section Opened

variable {document : Document} {settings : Settings}
variable {context other : Context}
variable (keeps : KeepsReadings reword)
variable (distinct : document.Distinct)
variable (otherDistinct : (document.reworded reword).Distinct)
variable (opened : ofDocument document settings = .ok context)
variable
  (otherOpened : ofDocument (document.reworded reword) settings = .ok other)

include keeps distinct otherDistinct opened otherOpened

theorem modelDirectives_eq_of_reworded
    (name : String) :
    (other.modelDirectives name).withoutComment =
      (context.modelDirectives name).withoutComment := by
  obtain ⟨known, unknown⟩ := modelDirectives_of_ofDocument distinct opened
  obtain ⟨otherKnown, otherUnknown⟩ :=
    modelDirectives_of_ofDocument otherDistinct otherOpened
  by_cases isName : name ∈ document.models.map Model.name
  · obtain ⟨model, member, rfl⟩ := List.mem_map.mp isName
    obtain ⟨set, read, same⟩ :=
      keeps.exists_ofDocumentation (known model member)
    have inOther := otherKnown (model.reworded reword)
      (List.mem_map_of_mem member)
    obtain rfl := Except.ok.inj (read.symm.trans inOther)
    exact same
  · have notInOther :
        name ∉ (document.reworded reword).models.map Model.name := by
      simpa [Function.comp_def] using isName
    rw [unknown name isName, otherUnknown name notInOther]

theorem fieldDirectives_eq_of_reworded
    (modelName fieldName : String) :
    (other.fieldDirectives modelName fieldName).withoutComment =
      (context.fieldDirectives modelName fieldName).withoutComment := by
  rcases (documented_of_ofDocument opened).fieldDirectives modelName
    fieldName with empty | ⟨model, member, rfl, field, inModel, rfl, read⟩
  · rcases (documented_of_ofDocument otherOpened).fieldDirectives modelName
      fieldName with
        otherEmpty | ⟨reworded, member, rfl, changed, inModel, rfl, read⟩
    · rw [empty, otherEmpty]
    · obtain ⟨model, inDocument, rfl⟩ := List.mem_map.mp member
      obtain ⟨field, isField, rfl⟩ := List.mem_map.mp inModel
      obtain ⟨set, original, same⟩ := keeps.exists_of_reworded read
      have found := fieldDirectives_eq distinct opened inDocument isField
        original
      exact (congrArg Directive.Set.withoutComment found).trans same |>.symm
  · obtain ⟨set, changed, same⟩ := keeps.exists_ofDocumentation read
    have found := fieldDirectives_eq otherDistinct otherOpened
      (List.mem_map_of_mem member) (List.mem_map_of_mem inModel) changed
    exact (congrArg Directive.Set.withoutComment found).trans same

/-- The context of a reworded document knows the same directives. -/
theorem reworded_of_ofDocument :
    context.Reworded reword other := by
  have same := (documented_of_ofDocument opened).1
  have otherSame := (documented_of_ofDocument otherOpened).1
  exact {
    targetOf := by
      intro name field
      rw [same, otherSame, Document.targetOf_reworded]
    enumValues := by
      rw [same, otherSame]
      rfl
    modelDirectives :=
      modelDirectives_eq_of_reworded keeps distinct otherDistinct opened
        otherOpened
    fieldDirectives :=
      fieldDirectives_eq_of_reworded keeps distinct otherDistinct opened
        otherOpened }

end Opened

end Context

/-! ## Tables -/

namespace Column

/-- The column of a field with what its directives and the key say. -/
def marked (directives : Directive.Set) (keyColumns : List String)
    (built : Column) : Column :=
  let column := withKey keyColumns { built with
    comment := directives.comment
    silent := directives.silentInMigrations }
  { column with ignored := startsIgnored column }

theorem ofModelField_eq_map_marked
    (context : Context)
    (model : Model)
    (keyColumns : List String)
    (field : Field) :
    ofModelField context model keyColumns field =
      (if field.isRelation then markerOf context model field
        else .ok (ofField context.document field)).map
          (marked (context.fieldDirectives model.name field.name)
            keyColumns) := by
  unfold ofModelField
  split
  · cases markerOf context model field <;> rfl
  · rfl

theorem withoutComment_withKey
    (keyColumns : List String)
    (column : Column) :
    (withKey keyColumns column).withoutComment =
      withKey keyColumns column.withoutComment := by
  unfold withKey
  rw [isMarker_withoutComment]
  split <;> rfl

/-- Directives without a comment leave a column without one. -/
theorem withoutComment_marked
    (directives : Directive.Set)
    (keyColumns : List String)
    (built : Column) :
    (marked directives keyColumns built).withoutComment =
      marked directives.withoutComment keyColumns built := by
  have started :
      ∀ column : Column,
        ({ column with
            ignored := startsIgnored column } : Column).withoutComment =
          { column.withoutComment with
            ignored := startsIgnored column.withoutComment } :=
    fun _ => rfl
  simp only [marked, started, withoutComment_withKey]
  rfl

/-- A marker has no comment of its own. -/
theorem markerOf_eq_of_reworded
    {context other : Context}
    (changed : context.Reworded reword other)
    (model : Model)
    (field : Field) :
    markerOf other model field = markerOf context model field := by
  have isLocal :
      (other.fieldDirectives model.name field.name).localInMigrations =
        (context.fieldDirectives model.name
          field.name).localInMigrations :=
    Directive.Set.eq_of_withoutComment_eq
      (changed.fieldDirectives model.name field.name) fun _ => rfl
  simp only [markerOf, changed.targetOf, isLocal]
  split
  · rfl
  · cases context.document.targetOf model.name field with
    | error failure => rfl
    | ok target => simp [Except.map]

/-- A column is built from what a context knows, comments aside. -/
theorem map_withoutComment_ofModelField
    {context other : Context}
    (changed : context.Reworded reword other)
    (model : Model)
    (keyColumns : List String)
    (field : Field) :
    (ofModelField other model keyColumns field).map withoutComment =
      (ofModelField context model keyColumns field).map withoutComment := by
  have sameField :
      ofField other.document field = ofField context.document field := by
    simp only [ofField, changed.enumValues]
  rw [ofModelField_eq_map_marked, ofModelField_eq_map_marked,
    markerOf_eq_of_reworded changed, sameField]
  cases (if field.isRelation then markerOf context model field
    else .ok (ofField context.document field)) with
  | error failure => rfl
  | ok built =>
      simp only [Except.map, withoutComment_marked,
        changed.fieldDirectives]

end Column

namespace Table

/-- The table of a model has the columns of its fields, comments aside. -/
theorem map_withoutComments_ofModel
    (context : Context)
    (model : Model) :
    (ofModel context model).map withoutComments =
      (model.fields.mapM fun field =>
        (Column.ofModelField context model model.primaryKeyColumns
          field).map Column.withoutComment).map
        fun columns =>
          { columns := columns, indexes := indexesOf model } := by
  rw [← Outcome.map_mapM]
  unfold ofModel
  cases model.fields.mapM
    (Column.ofModelField context model model.primaryKeyColumns) <;> rfl

theorem map_withoutComments_ofModel_of_reworded
    {context other : Context}
    (changed : context.Reworded reword other)
    (model : Model) :
    (ofModel other model).map withoutComments =
      (ofModel context model).map withoutComments := by
  simp only [map_withoutComments_ofModel,
    Column.map_withoutComment_ofModelField changed]

/-- A table is built from what a context knows, whatever the documentation of
its model. -/
theorem ofModel_reworded
    (context : Context)
    (model : Model) :
    ofModel context (model.reworded reword) = ofModel context model := by
  have indexes :
      indexesOf (model.reworded reword) = indexesOf model := by
    simp [indexesOf]
  have columns :
      ∀ field : Field,
        Column.ofModelField context (model.reworded reword)
            model.primaryKeyColumns (field.reworded reword) =
          Column.ofModelField context model model.primaryKeyColumns
            field := by
    intro field
    have marker :
        Column.markerOf context (model.reworded reword)
            (field.reworded reword) =
          Column.markerOf context model field := by
      simp only [Column.markerOf, Field.isOwning_reworded,
        Field.reworded_name, Field.reworded_isRequired,
        Field.reworded_relationFromFields,
        Field.reworded_relationToFields, Field.reworded_onDelete,
        Field.reworded_onUpdate, Model.reworded_name,
        Model.columnsOf_reworded]
      rfl
    rw [Column.ofModelField_eq_map_marked,
      Column.ofModelField_eq_map_marked, marker]
    rfl
  unfold ofModel
  rw [Model.primaryKeyColumns_reworded, Model.reworded_fields,
    List.mapM_map, indexes]
  simp only [Function.comp_def, columns]

end Table

namespace Migration

/-- The migration with all comments taken away. -/
@[simps]
def withoutComments (migration : Migration) : Migration :=
  { migration with
    lines := migration.lines.map Code.Line.withoutComments
    resolved := migration.resolved.withoutComments }

/-! ## Migrations -/

/-- What the built-in rules make of a table. -/
def ofTable (model : Model) (silent pivot : Bool) (table : Table) :
    Migration :=
  let resolution :=
    RuleSet.standard.resolve ⟨model.name, model.tableName⟩ table
  { model := model.name
    table := model.tableName
    lines := resolution.lines
    resolved := resolution.table
    silent := silent
    pivot := pivot }

theorem compile_standard_eq_map_ofTable
    (context : Context)
    (model : Model)
    (silent pivot : Bool) :
    compile context RuleSet.standard model silent pivot =
      (Table.ofModel context model).map (ofTable model silent pivot) := by
  unfold compile
  cases Table.ofModel context model <;> rfl

/-- A table without comments has the migration without comments. -/
theorem ofTable_withoutComments
    (model : Model)
    (silent pivot : Bool)
    (table : Table) :
    ofTable model silent pivot table.withoutComments =
      (ofTable model silent pivot table).withoutComments := by
  simp only [ofTable, withoutComments,
    RuleSet.resolve_standard_withoutComments, Resolution.withoutComments,
    Resolution.lines, List.flatMap_map, List.map_flatMap]
  rfl

/-- A migration is compiled from what a context knows, comments aside. -/
theorem map_withoutComments_compile
    {context other : Context}
    (changed : context.Reworded reword other)
    (model : Model)
    (silent pivot : Bool) :
    (compile other RuleSet.standard model silent pivot).map
        withoutComments =
      (compile context RuleSet.standard model silent pivot).map
        withoutComments := by
  have erased :
      ∀ context,
        (compile context RuleSet.standard model silent pivot).map
            withoutComments =
          ((Table.ofModel context model).map Table.withoutComments).map
            (ofTable model silent pivot) := by
    intro context
    rw [compile_standard_eq_map_ofTable]
    cases Table.ofModel context model with
    | error failure => rfl
    | ok table =>
        exact congrArg Except.ok (ofTable_withoutComments ..).symm
  rw [erased, erased, Table.map_withoutComments_ofModel_of_reworded changed]

/-- The migration of a reworded model is the one of the model, comments
aside. -/
theorem map_withoutComments_ofModel
    {context other : Context}
    (changed : context.Reworded reword other)
    (model : Model) :
    (ofModel other RuleSet.standard (model.reworded reword)).map
        withoutComments =
      (ofModel context RuleSet.standard model).map withoutComments := by
  have silent :
      (other.modelDirectives model.name).silentInMigrations =
        (context.modelDirectives model.name).silentInMigrations :=
    Directive.Set.eq_of_withoutComment_eq
      (changed.modelDirectives model.name) fun _ => rfl
  have sameCompile :
      ∀ silent,
        compile other RuleSet.standard (model.reworded reword) silent
            false =
          compile other RuleSet.standard model silent false := by
    intro silent
    simp only [compile_standard_eq_map_ofTable, Table.ofModel_reworded]
    rfl
  simp only [ofModel, Model.reworded_name, silent, sameCompile,
    map_withoutComments_compile changed]

theorem map_withoutComments_ofPivot
    {context other : Context}
    (changed : context.Reworded reword other)
    (model : Model) :
    (ofPivot other RuleSet.standard model).map withoutComments =
      (ofPivot context RuleSet.standard model).map withoutComments :=
  map_withoutComments_compile changed model false true

/-! ## Sorting -/

/-- Changes to migrations that leave their tables and references alone. -/
structure KeepsReferences (change : Migration → Migration) : Prop where
  table : ∀ migration, (change migration).table = migration.table
  dependencies :
    ∀ migration, (change migration).dependencies = migration.dependencies

theorem keepsReferences_withoutComments :
    KeepsReferences withoutComments where
  table _ := rfl
  dependencies migration := by
    simp [dependencies]

section Sorting

variable {change : Migration → Migration} (keeps : KeepsReferences change)

include keeps

theorem map_table_map
    (batch : List Migration) :
    (batch.map change).map Migration.table = batch.map Migration.table := by
  simp [Function.comp_def, keeps.table]

theorem dependencyEdges_map
    (batch : List Migration) :
    dependencyEdges (batch.map change) = dependencyEdges batch := by
  have edges :
      ∀ tables migration,
        edgesOf tables (change migration) = edgesOf tables migration := by
    intro tables migration
    rw [edgesOf, edgesOf, keeps.table, keeps.dependencies]
  simp only [dependencyEdges, map_table_map keeps, List.flatMap_map, edges]

theorem positionedEdges_map
    (batch : List Migration) :
    positionedEdges (batch.map change) = positionedEdges batch := by
  have last :
      lastPosition? (batch.map change) = lastPosition? batch := by
    funext table
    simp [lastPosition?, Function.comp_def, keeps.table]
  have placed :
      positionedEdge? (batch.map change) = positionedEdge? batch := by
    funext edge
    simp only [positionedEdge?, last]
  rw [positionedEdges, positionedEdges, dependencyEdges_map keeps, placed]

theorem cycleFailure_map
    (batch : List Migration)
    (released : List Nat) :
    cycleFailure (batch.map change) released =
      cycleFailure batch released := by
  simp [cycleFailure, dependencyEdges_map keeps, List.map_filterMap,
    Function.comp_def, keeps.table]

/-- Migrations are sorted by their tables and references alone. -/
theorem sort_map
    (batch : List Migration) :
    sort (batch.map change) = (sort batch).map (List.map change) := by
  simp only [sort, List.length_map, positionedEdges_map keeps,
    cycleFailure_map keeps, List.getElem?_map]
  split
  · rfl
  · split
    · rfl
    · simp [Except.map, List.map_filterMap]

end Sorting

end Migration

end Tablewright
