import Tablewright.Proofs.Generator.Tables
import Tablewright.Proofs.Migration.Pivot
import Tablewright.Proofs.Migration.Silence
import Tablewright.Proofs.Migration.Unique
import Tablewright.Proofs.Rule.Primary

namespace Tablewright

/-!
# Primary keys of models

In the table of a model an integer column is passed over from the start only
if it is silent, so the migration of a model declares its primary key exactly
once.  The declaration walks the fields of the model and picks the key
columns, while the class of the model lists them in the order of the key.  The
two orders agree just if the key follows the fields.
-/

open List Schema Code

/-- The identity column of a model is passed over just if it is silent. -/
theorem Table.identityReady_ofModel
    {context : Context}
    {model : Model}
    {table : Table}
    (built : ofModel context model = .ok table) :
    table.IdentityReady := by
  obtain ⟨columns, fromFields, rest⟩ := Outcome.bind_eq_ok_iff.mp built
  obtain rfl := Except.ok.inj rest
  intro position column held recognised
  obtain ⟨field, _, made⟩ :=
    Outcome.exists_of_mem_mapM fromFields (List.mem_of_getElem? held)
  obtain ⟨_, sameHeld, _, _, integer, _⟩ := isIdentity_iff.mp recognised
  obtain rfl := Option.some.inj (held.symm.trans sameHeld)
  rw [Column.ignored_ofModelField made, Column.startsIgnored,
    isMarker_eq_false_of_isInteger integer, Bool.false_and,
    Bool.or_false]

namespace RuleSet

/--
The primary key of a model is declared exactly once.  If no shown column
belongs to it, nothing declares one.  A single column that counts upwards and
is an integer is created as the identity column, any other single column is
declared by itself, and several columns are declared together in the order of
the fields.
-/
theorem resolve_declares_key_once
    {document : Document}
    (settings : Settings)
    (valid : document.validate.errors = [])
    {model : Model}
    (inDocument : model ∈ document.models) :
    ∃ context table,
      Context.ofDocument document settings = .ok context ∧
        Table.ofModel context model = .ok table ∧
        ∀ ruleContext : RuleContext,
        ∀ key declared,
          table.columns.filter Table.isKeyColumn = key →
          (standard.resolve ruleContext table).lines.filter
              Line.declaresKey = declared →
          (key = [] → declared = []) ∧
            (∀ only,
              key = [only] →
              declared =
                if only.autoIncrement && only.kind.isInteger then
                  [.statement (Table.identityStatement only)]
                else [.call "primary" [.literal only.name]]) ∧
            (2 ≤ key.length →
              declared =
                [.call "primary" [.columns (key.map Column.name)]]) := by
  obtain ⟨context, table, _, opened, built, _⟩ :=
    Generator.exists_resolved (Document.closed_of_valid valid) settings
      standard inDocument
  refine ⟨context, table, opened, built, ?_⟩
  rintro ruleContext key declared rfl rfl
  obtain ⟨fresh, unused, _⟩ := Table.fresh_ofModel built
  rw [filter_declaresKey_resolve ruleContext fresh unused
    (Table.identityReady_ofModel built)]
  refine ⟨?_, ?_, ?_⟩
  · intro noKey
    rw [noKey, Table.keyLines]
  · intro only isOnly
    rw [isOnly, Table.keyLines]
  · exact Table.keyLines_of_two_le

/-- The key of a membership has two columns, which are declared together. -/
theorem resolve_declares_key_once_membership :
    Migration.membershipDocument.validate.errors = [] ∧
      Migration.membership ∈ Migration.membershipDocument.models ∧
      ∃ context table,
        Context.ofDocument Migration.membershipDocument {} = .ok context ∧
          Table.ofModel context Migration.membership = .ok table ∧
          (standard.resolve ⟨"Membership", "Membership"⟩
              table).lines.filter Line.declaresKey =
            [.call "primary" [.columns ["orgId", "memberId"]]] := by
  have valid : Migration.membershipDocument.validate.errors = [] := by
    decide +kernel
  have inDocument :
      Migration.membership ∈ Migration.membershipDocument.models := by
    decide
  obtain ⟨context, table, opened, built, declares⟩ :=
    resolve_declares_key_once {} valid inDocument
  refine ⟨valid, inDocument, context, table, opened, built, ?_⟩
  have columns :
      (Context.ofDocument Migration.membershipDocument {} >>=
          fun context => Table.ofModel context Migration.membership).map
            (fun table =>
              (table.columns.filter Table.isKeyColumn).map Column.name) =
        .ok ["orgId", "memberId"] := by
    decide +kernel
  rw [opened, Outcome.ok_bind, built] at columns
  have names := Except.ok.inj columns
  have length := congrArg List.length names
  rw [List.length_map] at length
  rw [← names]
  exact (declares ⟨"Membership", "Membership"⟩ _ _ rfl rfl).2.2 length.ge

end RuleSet

namespace Schema.Model

/-- The key columns of a model are found by walking its columns just if the key
follows them. -/
private theorem filter_contains_eq_iff
    {columns key : List String}
    (distinct : columns.Nodup) :
    columns.filter key.contains = key ↔ key <+ columns := by
  constructor
  · intro same
    rw [← same]
    exact List.filter_sublist
  · intro follows
    have kept : key.filter key.contains = key :=
      List.filter_eq_self.mpr fun name member => by simpa using member
    have front := follows.filter key.contains
    rw [kept] at front
    have inKey : columns.filter key.contains ⊆ key := by
      intro name member
      simpa using (List.mem_filter.mp member).2
    exact (front.eq_of_length_le
      (List.subperm_of_subset (distinct.filter _) inKey).length_le).symm

variable {document : Document} {model : Model}
variable (names : document.Distinct) (inDocument : model ∈ document.models)
variable
  (keyed :
    ∀ name ∈ model.primaryKeyFields,
      ∃ field ∈ model.columns, field.name = name)

include names inDocument keyed

/-- A key of column fields consists of columns of the model. -/
theorem mem_columns_of_mem_primaryKeyColumns
    {name : String}
    (member : name ∈ model.primaryKeyColumns) :
    name ∈ model.columns.map Field.columnName := by
  obtain ⟨fieldName, isKey, rfl⟩ := List.mem_map.mp member
  obtain ⟨field, isColumn, rfl⟩ := keyed fieldName isKey
  have found :=
    names.field?_eq_some inDocument (List.mem_filter.mp isColumn).1
  refine List.mem_map.mpr ⟨field, isColumn, ?_⟩
  simp [columnOf, found]

/-- A key of flagged fields follows the columns of the model. -/
theorem primaryKeyColumns_sublist_of_flagged
    (undeclared : (model.primaryKey.map PrimaryKey.fields).getD [] = [])
    (flagged : model.fields.filter Field.isId ≠ []) :
    model.primaryKeyColumns <+ model.columns.map Field.columnName := by
  have isKey :
      model.primaryKeyFields =
        (model.fields.filter Field.isId).map Field.name := by
    simp [primaryKeyFields, undeclared, flagged]
  have areColumns :
      model.fields.filter Field.isId = model.columns.filter Field.isId := by
    rw [columns, List.filter_filter]
    refine List.filter_congr ?_
    intro field member
    cases isId : field.isId with
    | false => rfl
    | true =>
        have inKey : field.name ∈ model.primaryKeyFields := by
          rw [isKey]
          exact List.mem_map_of_mem
            (List.mem_filter.mpr ⟨member, isId⟩)
        obtain ⟨column, isColumn, named⟩ := keyed field.name inKey
        obtain ⟨columnMember, ofColumn⟩ := List.mem_filter.mp isColumn
        have found := names.field?_eq_some inDocument columnMember
        rw [named, names.field?_eq_some inDocument member] at found
        rw [Option.some.inj found, ofColumn, Bool.true_and]
  rw [primaryKeyColumns, isKey,
    Migration.columnsOf_map_name names inDocument
      (fun _ member => (List.mem_filter.mp member).1), areColumns]
  exact List.filter_sublist.map Field.columnName

end Schema.Model

namespace Migration

/--
The migration of a model without silent fields declares exactly the primary
key of its class, if the columns are distinct and the key consists of column
fields.  The declaration names each column of the key once, in the order of
the fields, so it agrees with the class just if the key follows the fields.
A key of flagged fields always does.
-/
theorem primary_follows_fields
    {document : Document}
    (settings : Settings)
    (valid : document.validate.errors = [])
    {model : Model}
    (inDocument : model ∈ document.models)
    (shown :
      ∀ field ∈ model.fields,
        ∀ directives,
          Directive.Set.ofDocumentation field.documentation =
              .ok directives →
            directives.silentInMigrations = false)
    (distinct : (model.columns.map Field.columnName).Nodup)
    (keyed :
      ∀ name ∈ model.primaryKeyFields,
        ∃ field ∈ model.columns, field.name = name)
    (registry : Relation.Registry) :
    ∃ context migration modelClass named,
      Context.ofDocument document settings = .ok context ∧
        ofModel context RuleSet.standard model = .ok migration ∧
        Generator.classOf context model registry = .ok modelClass ∧
        migration.lines.filterMap Line.primary? =
          (if named = [] then [] else [named]) ∧
        SameNames named modelClass.primaryKey ∧
        named <+ model.columns.map Field.columnName ∧
        (named = modelClass.primaryKey ↔
          modelClass.primaryKey <+ model.columns.map Field.columnName) ∧
        ((model.primaryKey.map PrimaryKey.fields).getD [] = [] →
          model.fields.filter Field.isId ≠ [] →
          named = modelClass.primaryKey) := by
  have closed := Document.closed_of_valid valid
  obtain ⟨context, table, migration, opened, built, compiled, isLines⟩ :=
    Generator.exists_resolved closed settings RuleSet.standard inDocument
  obtain ⟨modelClass, classBuilt⟩ :
      ∃ modelClass,
        Generator.classOf context model registry = .ok modelClass :=
    ⟨_, Outcome.bind_eq_ok_iff.mpr ⟨table, built, rfl⟩⟩
  have shownInContext :=
    Context.silentInMigrations_of_shown closed opened inDocument shown
  refine ⟨context, migration, modelClass, table.primaryNames, opened,
    compiled, classBuilt, ?_⟩
  have classKey := (Generator.shows_of_classOf classBuilt).primaryKey_eq
  have names :=
    Table.primaryNames_ofModel built
      (fun field member _ => shownInContext field member)
  rw [classKey, names]
  refine ⟨?_, ?_, List.filter_sublist,
    Model.filter_contains_eq_iff distinct, ?_⟩
  · obtain ⟨fresh, unused, _⟩ := Table.fresh_ofModel built
    rw [← names, isLines, ← Line.filterMap_primary?_filter,
      RuleSet.filter_declaresKey_resolve _ fresh unused
        (Table.identityReady_ofModel built),
      Table.filterMap_primary?_keyLines, table.primaryNames_eq]
    simp
  · intro name
    simp only [List.mem_filter, List.contains_iff_mem]
    exact ⟨And.right, fun isKey =>
      ⟨Model.mem_columns_of_mem_primaryKeyColumns closed.toDistinct
        inDocument keyed isKey, isKey⟩⟩
  · intro undeclared flagged
    exact (Model.filter_contains_eq_iff distinct).mpr
      (Model.primaryKeyColumns_sublist_of_flagged closed.toDistinct
        inDocument keyed undeclared flagged)

/-- The key of a membership follows its fields, so the migration declares it
as the class has it. -/
theorem primary_follows_fields_membership :
    membershipDocument.validate.errors = [] ∧
      (membership.columns.map Field.columnName).Nodup ∧
      ∃ context migration modelClass,
        Context.ofDocument membershipDocument {} = .ok context ∧
          ofModel context RuleSet.standard membership = .ok migration ∧
          Generator.classOf context membership {} = .ok modelClass ∧
          modelClass.primaryKey = ["orgId", "memberId"] ∧
          migration.lines.filterMap Line.primary? =
            [["orgId", "memberId"]] := by
  have valid : membershipDocument.validate.errors = [] := by
    decide +kernel
  have distinct : (membership.columns.map Field.columnName).Nodup := by
    decide
  obtain ⟨context, migration, modelClass, named, opened, compiled,
      classBuilt, declared, _, _, agrees, _⟩ :=
    primary_follows_fields {} valid
      (by decide : membership ∈ membershipDocument.models)
      silentInMigrations_of_mem_membership distinct (by decide) {}
  have key : modelClass.primaryKey = ["orgId", "memberId"] := by
    rw [(Generator.shows_of_classOf classBuilt).primaryKey_eq]
    decide
  obtain rfl : named = ["orgId", "memberId"] :=
    (agrees.mpr (key ▸ by decide)).trans key
  exact ⟨valid, distinct, context, migration, modelClass, opened, compiled,
    classBuilt, key, declared⟩

/-- Memberships whose key starts with the member. -/
def memberFirst : Model :=
  { membership with
    primaryKey := some { fields := ["memberId", "orgId"] } }

def memberFirstDocument : Document :=
  { models := [memberFirst] }

/-- A migration need not declare the key of the class: some valid document has
a model without silent fields, with distinct columns and with a key of column
fields, whose migration declares the columns of the key in another order. -/
theorem exists_primary_ne_primaryKey :
    ∃ document : Document, ∃ model ∈ document.models,
    ∃ context migration modelClass,
      document.validate.errors = [] ∧
        (∀ field ∈ model.fields,
          ∀ directives,
            Directive.Set.ofDocumentation field.documentation =
                .ok directives →
              directives.silentInMigrations = false) ∧
        (model.columns.map Field.columnName).Nodup ∧
        (∀ name ∈ model.primaryKeyFields,
          ∃ field ∈ model.columns, field.name = name) ∧
        Context.ofDocument document {} = .ok context ∧
        ofModel context RuleSet.standard model = .ok migration ∧
        Generator.classOf context model {} = .ok modelClass ∧
        modelClass.primaryKey = ["memberId", "orgId"] ∧
        migration.lines.filterMap Line.primary? =
          [["orgId", "memberId"]] := by
  have computed :
      (Context.ofDocument memberFirstDocument {} >>= fun context =>
          ofModel context RuleSet.standard memberFirst >>= fun migration =>
            (Generator.classOf context memberFirst {}).map fun modelClass =>
              (modelClass.primaryKey,
                migration.lines.filterMap Line.primary?)) =
        .ok (["memberId", "orgId"], [["orgId", "memberId"]]) := by
    decide +kernel
  obtain ⟨context, opened, computed⟩ := Outcome.bind_eq_ok_iff.mp computed
  obtain ⟨migration, compiled, computed⟩ :=
    Outcome.bind_eq_ok_iff.mp computed
  obtain ⟨modelClass, classBuilt, computed⟩ :=
    Outcome.map_eq_ok_iff.mp computed
  obtain ⟨key, declared⟩ := Prod.mk.inj computed
  exact ⟨memberFirstDocument, memberFirst, by decide, context, migration,
    modelClass, by decide +kernel, silentInMigrations_of_mem_membership,
    by decide, by decide, opened, compiled, classBuilt, key, declared⟩

end Migration

end Tablewright
