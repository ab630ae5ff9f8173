import Tablewright.Migration.Basic
import Tablewright.Proofs.Column.Builder
import Tablewright.Proofs.Generator.Failure
import Tablewright.Proofs.Rule.Unique

namespace Tablewright

/-!
# Unique columns of a model

A model without silent fields has every unique index in its migration.  A
unique field has a constraint of its own as long as it lies outside of the
primary key; inside, it is unique only if it is the whole key or has an index
over nothing else.
-/

open Schema Code

/-- The ways in which the migration of a model makes a unique field unique. -/
inductive Schema.Model.KeepsUnique (model : Model) (field : Field) : Prop
  | outsideKey
      (outside : field.columnName ∉ model.primaryKeyColumns) :
      KeepsUnique model field
  | wholeKey
      (alone :
        ∀ other ∈ model.columns,
          other.columnName ∈ model.primaryKeyColumns → other = field) :
      KeepsUnique model field
  | ownIndex
      {index : Index}
      (member : index ∈ model.indexes)
      (unique : index.kind = .unique)
      (same : SameNames (model.columnsOf index.fields) [field.columnName]) :
      KeepsUnique model field

/-- A context knows no silent field of a model without silent fields. -/
theorem Context.silentInMigrations_of_shown
    {document : Document}
    (closed : document.Closed)
    {settings : Settings}
    {context : Context}
    (opened : ofDocument document settings = .ok context)
    {model : Model}
    (inDocument : model ∈ document.models)
    (shown :
      ∀ field ∈ model.fields,
        ∀ directives,
          Directive.Set.ofDocumentation field.documentation =
              .ok directives →
            directives.silentInMigrations = false) :
    ∀ field ∈ model.fields,
      (context.fieldDirectives model.name
        field.name).silentInMigrations = false := by
  intro field member
  obtain ⟨directives, read⟩ :=
    closed.fieldDocumentation model inDocument field member
  rw [fieldDirectives_eq closed.toDistinct opened inDocument member read]
  exact shown field member directives read

namespace Table

variable {context : Context} {model : Model} {table : Table}

/-- A table starts without an identity column and without applied rules. -/
theorem fresh_ofModel
    (built : ofModel context model = .ok table) :
    table.identity = none ∧
      table.consumed = [] ∧ table.indexes = indexesOf model := by
  obtain ⟨columns, _, rest⟩ := Outcome.bind_eq_ok_iff.mp built
  obtain rfl := Except.ok.inj rest
  exact ⟨rfl, rfl, rfl⟩

/-- A unique index of the model is a unique index of its table. -/
theorem mem_indexesOf_of_unique
    {index : Index}
    (member : index ∈ model.indexes)
    (unique : index.kind = .unique) :
    ⟨index.kind, model.columnsOf index.fields,
        index.dbName.or index.name⟩ ∈ indexesOf model := by
  refine List.mem_map.mpr ⟨index, List.mem_filter.mpr ⟨member, ?_⟩, rfl⟩
  rw [unique]
  rfl

section Shown

variable (built : ofModel context model = .ok table)
variable
  (shown :
    ∀ field ∈ model.fields,
      (context.fieldDirectives model.name
        field.name).silentInMigrations = false)

include built shown

/-- The table of a model without silent fields shows all of its columns. -/
theorem shown_ofModel : table.Shown := by
  obtain ⟨columns, fromFields, rest⟩ := Outcome.bind_eq_ok_iff.mp built
  obtain rfl := Except.ok.inj rest
  intro position column held
  obtain ⟨field, member, made⟩ :=
    Outcome.exists_of_mem_mapM fromFields (List.mem_of_getElem? held)
  rw [Column.silent_ofModelField made, shown field member]

/-- The columns with a unique index of their own are those of the unique
fields outside of the primary key. -/
theorem uniqueNames_ofModel :
    table.uniqueNames =
      (model.columns.filter (fun field =>
        field.isUnique &&
          !model.primaryKeyColumns.contains field.columnName)).map
        Field.columnName := by
  obtain ⟨columns, fromFields, rest⟩ := Outcome.bind_eq_ok_iff.mp built
  obtain rfl := Except.ok.inj rest
  rw [uniqueNames, Model.columns, List.filter_filter]
  apply Outcome.map_filter_eq_of_mapM fromFields
  intro field member column made
  have marks := Column.isMarker_ofModelField made
  cases isColumn : field.isColumn with
  | true =>
      obtain ⟨_, named, primary, silent⟩ :=
        Column.ofModelField_of_isColumn isColumn made
      have unique := Column.unique_ofModelField isColumn made
      rw [shown field member] at silent
      exact ⟨by simp [marks, primary, silent, unique, isColumn],
        fun _ => named⟩
  | false => simp [marks, isColumn]

/-- The primary key consists of the key columns. -/
theorem mem_primaryNames_ofModel
    {name : String} :
    name ∈ table.primaryNames ↔
      name ∈ model.primaryKeyColumns ∧
        ∃ field ∈ model.columns, field.columnName = name := by
  rw [primaryNames_ofModel built fun field member _ => shown field member]
  simp [and_comm]

theorem mem_uniqueNames_ofModel
    {name : String} :
    name ∈ table.uniqueNames ↔
      ∃ field ∈ model.columns,
        field.isUnique = true ∧
          field.columnName ∉ model.primaryKeyColumns ∧
          field.columnName = name := by
  rw [uniqueNames_ofModel built shown]
  simp [and_assoc]

/-- A unique field is guaranteed to be unique just if the model keeps it
unique. -/
theorem exists_guarantees_iff_keepsUnique
    (distinct : (model.columns.map Field.columnName).Nodup)
    {field : Field}
    (member : field ∈ model.columns)
    (flagged : field.isUnique = true) :
    (∃ columns,
        table.Guarantees columns ∧
          SameNames columns [field.columnName]) ↔
      model.KeepsUnique field := by
  have sameField :
      ∀ other ∈ model.columns,
        other.columnName = field.columnName → other = field :=
    fun other otherMember sameName =>
      List.inj_on_of_nodup_map distinct otherMember member sameName
  obtain ⟨_, _, indexes⟩ := fresh_ofModel built
  have column_of_outside
      (outside : field.columnName ∉ model.primaryKeyColumns) :
      table.Guarantees [field.columnName] :=
    .column ((mem_uniqueNames_ofModel built shown).mpr
      ⟨field, member, flagged, outside, rfl⟩)
  constructor
  · rintro ⟨columns, guaranteed, same⟩
    cases guaranteed with
    | key =>
        apply Model.KeepsUnique.wholeKey
        intro other otherMember isKey
        have inKey : other.columnName ∈ table.primaryNames :=
          (mem_primaryNames_ofModel built shown).mpr
            ⟨isKey, other, otherMember, rfl⟩
        exact sameField other otherMember
          (List.mem_singleton.mp ((same _).mp inKey))
    | @column name unique =>
        obtain ⟨other, otherMember, _, outside, named⟩ :=
          (mem_uniqueNames_ofModel built shown).mp unique
        have sameName : name = field.columnName :=
          List.mem_singleton.mp ((same name).mp List.mem_cons_self)
        obtain rfl :=
          sameField other otherMember (named.trans sameName)
        exact .outsideKey outside
    | @index tableIndex inTable unique _ =>
        rw [indexes] at inTable
        obtain ⟨index, kept, rfl⟩ := List.mem_map.mp inTable
        exact .ownIndex (List.mem_filter.mp kept).1 unique same
  · intro keeps
    cases keeps with
    | outsideKey outside =>
        exact ⟨_, column_of_outside outside, fun _ => Iff.rfl⟩
    | wholeKey alone =>
        by_cases isKey : field.columnName ∈ model.primaryKeyColumns
        · have inKey : field.columnName ∈ table.primaryNames :=
            (mem_primaryNames_ofModel built shown).mpr
              ⟨isKey, field, member, rfl⟩
          refine ⟨table.primaryNames,
            .key (List.ne_nil_of_mem inKey), ?_⟩
          intro name
          constructor
          · intro named
            obtain ⟨inKeyColumns, other, otherMember, rfl⟩ :=
              (mem_primaryNames_ofModel built shown).mp named
            rw [alone other otherMember inKeyColumns]
            exact List.mem_cons_self
          · intro named
            rw [List.mem_singleton.mp named]
            exact inKey
        · exact ⟨_, column_of_outside isKey, fun _ => Iff.rfl⟩
    | @ownIndex index inModel unique same =>
        refine ⟨_, .index
          (indexes ▸ mem_indexesOf_of_unique inModel unique) unique ?_,
          same⟩
        exact List.ne_nil_of_mem ((same _).mpr List.mem_cons_self)

end Shown

end Table

namespace Migration

/--
The migration of a model without silent fields makes the columns of every
unique index unique.  A unique field has a line that makes exactly its column
unique just if it lies outside of the primary key, is the whole key, or has a
unique index over its column only.
-/
theorem makesUnique_flagged_iff
    {document : Document}
    (settings : Settings)
    (valid : document.validate.errors = [])
    {model : Model}
    (inDocument : model ∈ document.models)
    (shown :
      ∀ field ∈ model.fields,
        ∀ directives,
          Directive.Set.ofDocumentation field.documentation =
              .ok directives →
            directives.silentInMigrations = false)
    (distinct : (model.columns.map Field.columnName).Nodup) :
    ∃ context migration,
      Context.ofDocument document settings = .ok context ∧
        ofModel context RuleSet.standard model = .ok migration ∧
        (∀ index ∈ model.indexes,
          index.kind = .unique →
          index.fields ≠ [] →
          ∃ line ∈ migration.lines,
            line.MakesUnique (model.columnsOf index.fields)) ∧
        ∀ field ∈ model.columns,
          field.isUnique = true →
            ((∃ line ∈ migration.lines,
                line.MakesUnique [field.columnName]) ↔
              model.KeepsUnique field) := by
  have closed := Document.closed_of_valid valid
  obtain ⟨context, table, migration, opened, built, compiled, isLines⟩ :=
    Generator.exists_resolved closed settings RuleSet.standard inDocument
  refine ⟨context, migration, opened, compiled, ?_⟩
  have shownInContext :=
    Context.silentInMigrations_of_shown closed opened inDocument shown
  obtain ⟨fresh, unused, indexes⟩ := Table.fresh_ofModel built
  have makes_iff :
      ∀ names : List String,
        (∃ line ∈ migration.lines, line.MakesUnique names) ↔
          ∃ columns, table.Guarantees columns ∧ SameNames columns names := by
    intro names
    rw [isLines]
    exact RuleSet.exists_makesUnique_iff _ fresh unused
      (Table.shown_ofModel built shownInContext)
  constructor
  · intro index member unique nonempty
    refine (makes_iff _).mpr ⟨_, .index
      (indexes ▸ Table.mem_indexesOf_of_unique member unique) unique ?_,
      fun _ => Iff.rfl⟩
    simpa [Model.columnsOf] using nonempty
  · intro field member flagged
    rw [makes_iff, Table.exists_guarantees_iff_keepsUnique built
      shownInContext distinct member flagged]

def memberNumber : Field :=
  { Field.scalar "memberId" "Int" with isUnique := true }

def memberBadge : Field :=
  { Field.scalar "badge" "String" with isUnique := true }

/-- Members of organisations, each with a number and a badge of its own. -/
def membership : Model :=
  { name := "Membership"
    fields := [.scalar "orgId" "Int", memberNumber, memberBadge]
    primaryKey := some { fields := ["orgId", "memberId"] }
    indexes := [⟨.unique, ["badge", "memberId"], none, none⟩] }

def membershipDocument : Document :=
  { models := [membership] }

theorem silentInMigrations_of_mem_membership :
    ∀ field ∈ membership.fields,
      ∀ directives,
        Directive.Set.ofDocumentation field.documentation =
            .ok directives →
          directives.silentInMigrations = false := by
  intro field member directives read
  have undocumented :
      ∀ other ∈ membership.fields, other.documentation = none := by
    decide
  rw [undocumented field member] at read
  obtain rfl := Except.ok.inj read
  rfl

/-- The badge of a member is unique, and so is the index over it, but the
number of a member is not: it is part of a longer key. -/
theorem makesUnique_flagged_iff_membership :
    membershipDocument.validate.errors = [] ∧
      ∃ context migration,
        Context.ofDocument membershipDocument {} = .ok context ∧
          ofModel context RuleSet.standard membership = .ok migration ∧
          (∃ line ∈ migration.lines, line.MakesUnique ["badge"]) ∧
          (∃ line ∈ migration.lines,
            line.MakesUnique ["badge", "memberId"]) ∧
          ¬ ∃ line ∈ migration.lines, line.MakesUnique ["memberId"] := by
  have valid : membershipDocument.validate.errors = [] := by
    decide +kernel
  obtain ⟨context, migration, opened, compiled, indexed, flagged⟩ :=
    makesUnique_flagged_iff {} valid
      (by decide : membership ∈ membershipDocument.models)
      silentInMigrations_of_mem_membership (by decide)
  refine ⟨valid, context, migration, opened, compiled, ?_, ?_, ?_⟩
  · apply (flagged memberBadge (by decide) rfl).mpr
    exact .outsideKey (by decide)
  · exact indexed _ List.mem_cons_self rfl (by decide)
  · intro makes
    cases (flagged memberNumber (by decide) rfl).mp makes with
    | outsideKey outside => exact outside (by decide)
    | wholeKey alone =>
        exact absurd
          (alone (.scalar "orgId" "Int") (by decide) (by decide))
          (by decide)
    | ownIndex member _ same =>
        obtain rfl := List.mem_singleton.mp member
        exact absurd same (by decide)

/-- A unique field need not be unique in its table: some valid document has a
unique field, in a model without silent fields and with distinct columns,
whose migration has no line that makes its column unique. -/
theorem exists_flagged_not_unique :
    ∃ document : Document, ∃ model ∈ document.models,
    ∃ field ∈ model.columns, ∃ context migration,
      document.validate.errors = [] ∧
        (∀ other ∈ model.fields,
          ∀ directives,
            Directive.Set.ofDocumentation other.documentation =
                .ok directives →
              directives.silentInMigrations = false) ∧
        (model.columns.map Field.columnName).Nodup ∧
        field.isUnique = true ∧
        Context.ofDocument document {} = .ok context ∧
        ofModel context RuleSet.standard model = .ok migration ∧
        ¬ ∃ line ∈ migration.lines,
          line.MakesUnique [field.columnName] := by
  have compiled :
      (Context.ofDocument membershipDocument {} >>= fun context =>
          ofModel context RuleSet.standard membership).map
            (fun migration =>
              decide
                (∃ line ∈ migration.lines, line.MakesUnique ["memberId"])) =
        .ok false := by
    decide +kernel
  obtain ⟨migration, compiled, notUnique⟩ :=
    Outcome.map_eq_ok_iff.mp compiled
  obtain ⟨context, opened, compiled⟩ := Outcome.bind_eq_ok_iff.mp compiled
  exact ⟨membershipDocument, membership, by decide,
    memberNumber, by decide, context, migration, by decide +kernel,
    silentInMigrations_of_mem_membership, by decide, rfl, opened, compiled,
    of_decide_eq_false notUnique⟩

end Migration

end Tablewright
