import Tablewright.Migration.Basic
import Tablewright.Proofs.Column.Builder
import Tablewright.Proofs.Context
import Tablewright.Proofs.Migration.Pivot
import Tablewright.Proofs.Rule.Enforcement

namespace Tablewright

/-!
# Migrations of junction tables

The migration of a junction model declares the key columns of both sides as
its primary key, and it constrains them to the tables of the sides.
-/

open Code Tablewright.Relation

/-- The primary key of a resolved table is that of the table before. -/
theorem RuleSet.primaryNames_resolve
    (context : RuleContext)
    (table : Table) :
    (standard.resolve context table).table.primaryNames =
      table.primaryNames := by
  rw [← (Table.pass_positions context table).later.primaryNames_eq,
    Table.primaryNames_eq, Table.primaryNames_eq, resolve,
    columns_resolveUtilities]

namespace Migration

/-- Some line of a migration constrains a side of a junction table. -/
def Constrains (migration : Migration) (side : JunctionSide) : Prop :=
  ∃ line ∈ migration.lines, ∃ stated ∈ line.constraints,
    stated.columns = side.columns ∧
      stated.references = side.references ∧
      stated.target = side.table

instance (migration : Migration) (side : JunctionSide) :
    Decidable (migration.Constrains side) :=
  inferInstanceAs
    (Decidable (∃ line ∈ migration.lines, ∃ stated ∈ line.constraints,
      stated.columns = side.columns ∧
        stated.references = side.references ∧
        stated.target = side.table))

/-- A migration creates a table whose primary key consists of the columns of
some sides, without repetition, and which refers to each side by its
columns. -/
structure Joins
    (migration : Migration)
    (sides : List JunctionSide) : Prop where
  nonempty : ∀ side ∈ sides, side.columns ≠ []
  nodup : migration.resolved.primaryNames.Nodup
  perm :
    migration.resolved.primaryNames.Perm
      (sides.flatMap JunctionSide.columns)
  constrains : ∀ side ∈ sides, migration.Constrains side

instance (migration : Migration) (sides : List JunctionSide) :
    Decidable (migration.Joins sides) :=
  decidable_of_iff
    ((∀ side ∈ sides, side.columns ≠ []) ∧
      migration.resolved.primaryNames.Nodup ∧
      migration.resolved.primaryNames.Perm
        (sides.flatMap JunctionSide.columns) ∧
      ∀ side ∈ sides, migration.Constrains side)
    ⟨fun ⟨nonempty, nodup, perm, constrains⟩ =>
        ⟨nonempty, nodup, perm, constrains⟩,
      fun joins =>
        ⟨joins.nonempty, joins.nodup, joins.perm, joins.constrains⟩⟩

/-- The order of the sides does not matter. -/
theorem Joins.of_perm
    {migration : Migration}
    {sides others : List JunctionSide}
    (joins : migration.Joins sides)
    (same : sides.Perm others) :
    migration.Joins others :=
  { nonempty := fun side member =>
      joins.nonempty side (same.mem_iff.mpr member)
    nodup := joins.nodup
    perm := joins.perm.trans (same.flatMap_right JunctionSide.columns)
    constrains := fun side member =>
      joins.constrains side (same.mem_iff.mpr member) }

/-- The columns of a junction table have distinct names, if the key columns
are distinct and none is named like a timestamp. -/
theorem nodup_append_timestampNames
    {names : List String}
    {timestamps : Bool}
    (nodup : names.Nodup)
    (apart : ∀ stamp ∈ timestampNames timestamps, stamp ∉ names) :
    (names ++ timestampNames timestamps).Nodup := by
  have stamps : (timestampNames timestamps).Nodup := by
    cases timestamps <;> decide
  apply nodup.append stamps
  intro name isKey isStamp
  exact apart name isStamp isKey

/-- Key columns are told from timestamps by the primary key. -/
theorem filter_append_timestampNames
    {names : List String}
    {timestamps : Bool}
    (apart : ∀ stamp ∈ timestampNames timestamps, stamp ∉ names) :
    (names ++ timestampNames timestamps).filter names.contains =
      names := by
  have keys : names.filter names.contains = names := by
    rw [List.filter_eq_self]
    intro name isKey
    simpa using isKey
  have stamps :
      (timestampNames timestamps).filter names.contains = [] := by
    rw [List.filter_eq_nil_iff]
    intro stamp isStamp
    simpa using apart stamp isStamp
  rw [List.filter_append, keys, stamps, List.append_nil]

section Bridged

variable {context : Context}
variable {pivot : Schema.Model}
variable {table : String}
variable {timestamps : Bool}
variable {sides : List Side}
variable {migration : Migration}

/-- The migration of a junction model constrains its sides, unless directives
speak against it. -/
theorem constrains_of_bridges
    (bridges : Bridges pivot table timestamps sides)
    (compiled :
      ofPivot context RuleSet.standard pivot = .ok migration)
    (known :
      ∀ side ∈ sides,
        context.document.model? side.model.name = some side.model)
    (hasColumns : ∀ side ∈ sides, side.columns ≠ [])
    (unmarked :
      ∀ name ∈ sides.flatMap Side.columns ++ sides.map Side.accessor,
        (context.fieldDirectives pivot.name name).silentInMigrations =
            false ∧
          (context.fieldDirectives pivot.name name).localInMigrations =
            false)
    (nodup : (sides.flatMap Side.columns).Nodup)
    (apart :
      ∀ stamp ∈ timestampNames timestamps,
        stamp ∉ sides.flatMap Side.columns)
    {side : Side}
    (member : side ∈ sides) :
    migration.Constrains side.junctionSide := by
  obtain ⟨start, built, rest⟩ := Outcome.bind_eq_ok_iff.mp compiled
  obtain rfl := Except.ok.inj rest
  obtain ⟨field, inPivot, owning, named, typed, localColumns,
    references⟩ := bridges.exists_relation side member
  obtain ⟨shown, enforced⟩ :=
    unmarked field.name
      (List.mem_append_right _ (named ▸ List.mem_map_of_mem member))
  obtain ⟨target, marker, key, isTarget, inTable, marks, active, isKey,
      sameColumns, sameReferences, sameTarget⟩ :=
    Table.exists_marker_of_isOwning built inPivot owning shown enforced
      (localColumns ▸ hasColumns side member)
  -- The relation refers to the model of the side.
  obtain rfl : side.model = target := by
    have found := Schema.Document.targetOf_eq_ok_iff.mp isTarget
    rw [typed, known side member] at found
    exact Option.some.inj found
  have distinct : start.DistinctNames := by
    apply Table.distinctNames_of_nodup
    rw [Table.map_name_ofModel built, bridges.columnNames_eq]
    exact nodup_append_timestampNames nodup apart
  have stated :=
    RuleSet.constraints_lines_perm ⟨pivot.name, pivot.tableName⟩ distinct
      (Table.foreignKey_ofModel built)
  have isStated :
      key.stated ∈
        ((RuleSet.standard.resolve ⟨pivot.name, pivot.tableName⟩
          start).lines.flatMap Line.constraints) := by
    refine stated.mem_iff.mpr (List.mem_map_of_mem ?_)
    refine List.mem_filterMap.mpr ⟨marker, ?_, isKey⟩
    exact List.mem_filter.mpr ⟨inTable, by simp [marks, active]⟩
  obtain ⟨line, inLines, states⟩ := List.mem_flatMap.mp isStated
  exact ⟨line, inLines, key.stated, states,
    sameColumns.trans localColumns, sameReferences.trans references,
    sameTarget⟩

/-- The migration of a junction model joins its sides. -/
theorem joins_of_bridges
    (bridges : Bridges pivot table timestamps sides)
    (compiled :
      ofPivot context RuleSet.standard pivot = .ok migration)
    (known :
      ∀ side ∈ sides,
        context.document.model? side.model.name = some side.model)
    (hasColumns : ∀ side ∈ sides, side.columns ≠ [])
    (unmarked :
      ∀ name ∈ sides.flatMap Side.columns ++ sides.map Side.accessor,
        (context.fieldDirectives pivot.name name).silentInMigrations =
            false ∧
          (context.fieldDirectives pivot.name name).localInMigrations =
            false)
    (nodup : (sides.flatMap Side.columns).Nodup)
    (apart :
      ∀ stamp ∈ timestampNames timestamps,
        stamp ∉ sides.flatMap Side.columns) :
    migration.Joins (sides.map Side.junctionSide) := by
  have keyNames :
      migration.resolved.primaryNames = sides.flatMap Side.columns := by
    obtain ⟨start, built, rest⟩ := Outcome.bind_eq_ok_iff.mp compiled
    obtain rfl := Except.ok.inj rest
    have shown :
        ∀ field ∈ pivot.fields,
          field.columnName ∈ pivot.primaryKeyColumns →
          (context.fieldDirectives pivot.name
            field.name).silentInMigrations = false := by
      intro field inPivot isKey
      have named : field.columnName = field.name := by
        simp [Schema.Field.columnName, bridges.plain field inPivot]
      rw [bridges.primaryKeyColumns_eq, named] at isKey
      exact (unmarked field.name (List.mem_append_left _ isKey)).1
    rw [RuleSet.primaryNames_resolve,
      Table.primaryNames_ofModel built shown, bridges.columnNames_eq,
      bridges.primaryKeyColumns_eq]
    exact filter_append_timestampNames apart
  refine ⟨?_, ?_, ?_, ?_⟩
  · intro joined member
    obtain ⟨side, isSide, rfl⟩ := List.mem_map.mp member
    exact hasColumns side isSide
  · rw [keyNames]
    exact nodup
  · rw [keyNames, List.flatMap_map]
    exact List.Perm.refl _
  · intro joined member
    obtain ⟨side, isSide, rfl⟩ := List.mem_map.mp member
    exact constrains_of_bridges bridges compiled known hasColumns unmarked
      nodup apart isSide

end Bridged

/-- No directive leaves out some fields of the models of a name, or keeps their
foreign keys out of the database. -/
def Unmarked
    (document : Schema.Document)
    (name : String)
    (fields : List String) : Prop :=
  ∀ model ∈ document.models, model.name = name →
    ∀ field ∈ model.fields, field.name ∈ fields → ∀ directives,
      Directive.Set.ofDocumentation field.documentation = .ok directives →
        directives.silentInMigrations = false ∧
          directives.localInMigrations = false

theorem Unmarked.of_subset
    {document : Schema.Document}
    {name : String}
    {fields others : List String}
    (unmarked : Unmarked document name fields)
    (subset : others ⊆ fields) :
    Unmarked document name others := by
  intro model inDocument named field inModel isOther
  exact unmarked model inDocument named field inModel (subset isOther)

/-- The migration of the junction model of a relation joins the models of the
relation. -/
theorem joins_of_pivotModel
    {document : Schema.Document}
    (distinct : document.Distinct)
    {context : Context}
    (documented : context.Documented document)
    {implicit : Implicit}
    {model target : Schema.Model}
    (declared : document.model? implicit.model = some model)
    (inDocument : target ∈ document.models)
    (joins : implicit.relation.Joins model target)
    (through : implicit.relation.junction = some implicit.junction)
    {timestamps : Bool}
    {pivot : Schema.Model}
    (made : pivotModel document implicit timestamps = .ok pivot)
    {migration : Migration}
    (compiled : ofPivot context RuleSet.standard pivot = .ok migration)
    {sides : List JunctionSide}
    (areSides :
      implicit.junction.sides implicit.relation model.tableName
          target.tableName =
        sides)
    (hasColumns : ∀ side ∈ sides, side.columns ≠ [])
    (unmarked :
      Unmarked document (Naming.pascal implicit.junction.table)
        (sides.flatMap JunctionSide.columns ++
          accessors model.name target.name))
    (nodup : (sides.flatMap JunctionSide.columns).Nodup)
    (apart :
      ∀ stamp ∈ timestampNames timestamps,
        stamp ∉ sides.flatMap JunctionSide.columns) :
    migration.Joins sides := by
  have hasKeys :
      implicit.junction.ownKeys ≠ [] ∧
        implicit.junction.relatedKeys ≠ [] := by
    rw [← areSides, Junction.sides] at hasColumns
    exact ⟨hasColumns _ List.mem_cons_self,
      hasColumns _ (List.mem_cons_of_mem _ List.mem_cons_self)⟩
  obtain ⟨own, related, isSides, bridges⟩ :=
    bridges_of_pivotModel distinct made (joins.length_eq through)
      hasKeys.1 hasKeys.2
  obtain ⟨isOwner, ⟨name, isName, isTarget⟩, sameSides, named⟩ :=
    sidesOf_eq_ok isSides
  obtain rfl : own.model = model :=
    Option.some.inj (isOwner.symm.trans declared)
  obtain rfl : related.model = target := by
    rw [joins.target_eq] at isName
    obtain rfl := Option.some.inj isName
    rw [distinct.model?_eq_some inDocument] at isTarget
    exact (Option.some.inj isTarget).symm
  have sidesEq : [own, related].map Side.junctionSide = sides :=
    sameSides.trans areSides
  have columnsEq :
      [own, related].flatMap Side.columns =
        sides.flatMap JunctionSide.columns := by
    rw [← sidesEq, List.flatMap_map]
    rfl
  rw [← sidesEq]
  apply joins_of_bridges bridges compiled
  · intro side member
    rw [documented.1]
    rcases List.mem_pair.mp member with rfl | rfl
    · exact distinct.model?_eq_some
        (Schema.Document.mem_of_model? declared).1
    · exact distinct.model?_eq_some inDocument
  · intro side member
    apply hasColumns side.junctionSide
    rw [← sidesEq]
    exact List.mem_map_of_mem member
  · intro name isName
    rw [columnsEq, named] at isName
    rcases documented.fieldDirectives pivot.name name with
        absent | ⟨other, inModels, sameName, field, isField, rfl, written⟩
    · rw [absent]
      exact ⟨rfl, rfl⟩
    · exact unmarked other inModels (sameName.trans bridges.name_eq) field
        isField isName _ written
  · rw [columnsEq]
    exact nodup
  · rw [columnsEq]
    exact apart

end Migration

end Tablewright
