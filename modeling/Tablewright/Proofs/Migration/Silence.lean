import Tablewright.Migration.Basic
import Tablewright.Proofs.Column.Builder
import Tablewright.Proofs.Context
import Tablewright.Proofs.Rule.Silence

namespace Tablewright

/-!
# Silent columns

A column that a directive leaves out of migrations appears in no line that
creates columns, keys or indexes.  A foreign key is left out only by a
directive on its relation field: as long as there is none, the constraint
names its local columns, silent or not.
-/

open Schema Code

/-- The foreign key of a relation field when it is enforced. -/
def ForeignKey.ofRelation
    (model target : Model)
    (relation : Field) : ForeignKey :=
  { field := relation.name
    targetTable := target.tableName
    localColumns := model.columnsOf relation.relationFromFields
    references := target.columnsOf relation.relationToFields
    onDelete := relation.onDelete
    onUpdate := relation.onUpdate }

/-- A relation field gives rise to an enforced foreign key. -/
structure Context.Enforces
    (context : Context)
    (model : Model)
    (relation : Field)
    (target : Model) : Prop where
  owning : relation ∈ model.owningRelations
  isTarget : context.document.model? relation.typeName = some target
  shown :
    (context.fieldDirectives model.name
      relation.name).silentInMigrations = false
  enforced :
    (context.fieldDirectives model.name
      relation.name).localInMigrations = false

namespace Column

theorem ignored_ofModelField
    {context : Context}
    {model : Model}
    {keyColumns : List String}
    {field : Field}
    {column : Column}
    (built :
      ofModelField context model keyColumns field = .ok column) :
    column.ignored = startsIgnored column := by
  unfold ofModelField at built
  split at built
  · obtain ⟨_, _, rest⟩ := Outcome.bind_eq_ok_iff.mp built
    obtain rfl := Except.ok.inj rest
    rfl
  · obtain rfl := Except.ok.inj built
    rfl

/-- The foreign key of a marker, enforced or not. -/
theorem foreignKey_markerOf_iff
    {context : Context}
    {model : Model}
    {field : Field}
    {marker : Column}
    (built : markerOf context model field = .ok marker)
    {key : ForeignKey} :
    marker.foreignKey = some key ↔
      field.isOwning = true ∧
        ∃ target,
          context.document.model? field.typeName = some target ∧
            key =
              { ForeignKey.ofRelation model target field with
                isLocal :=
                  (context.fieldDirectives model.name
                    field.name).localInMigrations } := by
  unfold markerOf at built
  cases owning : field.isOwning with
  | false =>
      simp only [owning, Bool.not_false, ↓reduceIte] at built
      obtain rfl := Except.ok.inj built
      simp [marker, plain]
  | true =>
      simp only [owning, Bool.not_true, Bool.false_eq_true, ↓reduceIte]
        at built
      obtain ⟨target, isTarget, rest⟩ := Outcome.bind_eq_ok_iff.mp built
      obtain rfl := Except.ok.inj rest
      rw [Document.targetOf_eq_ok_iff] at isTarget
      simp only [isTarget, Option.some.injEq, true_and,
        exists_eq_left', ForeignKey.ofRelation]
      exact eq_comm

/-- The marker of a field is active with an enforced key just if the field
enforces that key. -/
theorem owningKey?_ofModelField_iff
    {context : Context}
    {model : Model}
    {keyColumns : List String}
    {field : Field}
    (member : field ∈ model.fields)
    {column : Column}
    (built : ofModelField context model keyColumns field = .ok column)
    {key : ForeignKey} :
    column.isMarker = true ∧
        column.ignored = false ∧ column.owningKey? = some key ↔
      ∃ target,
        context.Enforces model field target ∧
          key = ForeignKey.ofRelation model target field := by
  cases isRelation : field.isRelation with
  | false =>
      have isColumn : field.isColumn = true := by
        simp [Field.isColumn, isRelation]
      constructor
      · rintro ⟨marks, _⟩
        simp [isMarker_ofModelField built, isColumn] at marks
      · rintro ⟨target, enforces, _⟩
        have owning := (List.mem_filter.mp enforces.owning).2
        rw [Field.isOwning, isRelation] at owning
        cases owning
  | true =>
      obtain ⟨marker, isMarked, marks, sameKey, silent, ignored⟩ :=
        ofModelField_of_isRelation isRelation built
      rw [owningKey?_eq_some_iff, sameKey,
        foreignKey_markerOf_iff isMarked]
      constructor
      · rintro ⟨_, active, ⟨owning, target, isTarget, rfl⟩, enforced, _⟩
        rw [ignored, startsIgnored, Bool.or_eq_false_iff, silent]
          at active
        refine ⟨target,
          ⟨List.mem_filter.mpr ⟨member, owning⟩, isTarget, active.1,
            enforced⟩, ?_⟩
        simp only at enforced
        rw [enforced]
        rfl
      · rintro ⟨target, enforces, rfl⟩
        have owning := (List.mem_filter.mp enforces.owning).2
        have keyed :
            marker.foreignKey =
              some (ForeignKey.ofRelation model target field) := by
          refine (foreignKey_markerOf_iff isMarked).mpr
            ⟨owning, target, enforces.isTarget, ?_⟩
          rw [enforces.enforced]
          rfl
        have hasColumns : field.relationFromFields ≠ [] := by
          simpa using (Bool.and_eq_true_iff.mp owning).2
        refine ⟨marks, ?_, (foreignKey_markerOf_iff isMarked).mp keyed,
          rfl, ?_⟩
        · rw [ignored, startsIgnored, silent, enforces.shown, sameKey,
            keyed]
          simp [ForeignKey.ofRelation]
        · simpa [ForeignKey.ofRelation, Model.columnsOf] using hasColumns

end Column

namespace Table

variable {context : Context} {model : Model} {table : Table}

/-- A silent column that shares its name with no other one silences its
name. -/
theorem silences_ofModel
    (built : ofModel context model = .ok table)
    {field : Field}
    (member : field ∈ model.columns)
    (silent :
      (context.fieldDirectives model.name
        field.name).silentInMigrations = true)
    (alone :
      ∀ other ∈ model.columns,
        other.columnName = field.columnName → other = field) :
    table.Silences field.columnName := by
  obtain ⟨columns, fromFields, rest⟩ := Outcome.bind_eq_ok_iff.mp built
  obtain rfl := Except.ok.inj rest
  obtain ⟨inModel, isColumn⟩ := List.mem_filter.mp member
  constructor
  · obtain ⟨column, inTable, made⟩ :=
      Outcome.exists_result_of_mem_mapM fromFields inModel
    obtain ⟨notMarker, named, _⟩ :=
      Column.ofModelField_of_isColumn isColumn made
    obtain ⟨position, held⟩ := List.mem_iff_getElem?.mp inTable
    exact ⟨position, column, held, notMarker, named⟩
  · intro position column held notMarker named
    obtain ⟨other, otherIn, made⟩ :=
      Outcome.exists_of_mem_mapM fromFields (List.mem_of_getElem? held)
    have otherIsColumn : other.isColumn = true := by
      simpa [Column.isMarker_ofModelField made] using notMarker
    obtain ⟨_, otherNamed, _, otherSilent⟩ :=
      Column.ofModelField_of_isColumn otherIsColumn made
    obtain rfl : other = field :=
      alone other (List.mem_filter.mpr ⟨otherIn, otherIsColumn⟩)
        (otherNamed.symm.trans named)
    rw [silent] at otherSilent
    refine ⟨otherSilent, ?_⟩
    rw [Column.ignored_ofModelField made, Column.startsIgnored,
      otherSilent, Bool.true_or]

/-- A name is claimed through the enforced keys of the relation fields. -/
theorem exists_claimed_ofModel_iff
    (built : ofModel context model = .ok table)
    {name : String}
    {key : ForeignKey} :
    (∃ marker, table.Claimed name marker key) ↔
      ∃ relation target,
        context.Enforces model relation target ∧
          name ∈ model.columnsOf relation.relationFromFields ∧
          key = ForeignKey.ofRelation model target relation := by
  obtain ⟨columns, fromFields, rest⟩ := Outcome.bind_eq_ok_iff.mp built
  obtain rfl := Except.ok.inj rest
  constructor
  · rintro ⟨marker, holder, held, marks, active, owning, claims⟩
    obtain ⟨relation, inModel, made⟩ :=
      Outcome.exists_of_mem_mapM fromFields (List.mem_of_getElem? held)
    obtain ⟨target, enforces, rfl⟩ :=
      (Column.owningKey?_ofModelField_iff inModel made).mp
        ⟨marks, active, owning⟩
    exact ⟨relation, target, enforces, claims, rfl⟩
  · rintro ⟨relation, target, enforces, claims, rfl⟩
    have inModel := (List.mem_filter.mp enforces.owning).1
    obtain ⟨holder, inTable, made⟩ :=
      Outcome.exists_result_of_mem_mapM fromFields inModel
    obtain ⟨marks, active, owning⟩ :=
      (Column.owningKey?_ofModelField_iff inModel made).mpr
        ⟨target, enforces, rfl⟩
    obtain ⟨marker, held⟩ := List.mem_iff_getElem?.mp inTable
    exact ⟨marker, holder, held, marks, active, owning, claims⟩

end Table

namespace Migration

/--
In the migration of a model, a silent column that shares its name with no
other one is named by exactly these lines: the explicit constraints of the
relations whose foreign key it is part of, as long as the relation is neither
silent nor local itself.  No line creates the column, and none puts it into a
key or an index.
-/
theorem named_silent_column_iff
    {document : Document}
    {settings : Settings}
    {context : Context}
    (valid : document.validate.errors = [])
    (opened : Context.ofDocument document settings = .ok context)
    {model : Model}
    (inDocument : model ∈ document.models)
    {field : Field}
    (member : field ∈ model.columns)
    {directives : Directive.Set}
    (read :
      Directive.Set.ofDocumentation field.documentation = .ok directives)
    (silent : directives.silentInMigrations = true)
    (alone :
      ∀ other ∈ model.columns,
        other.columnName = field.columnName → other = field)
    {migration : Migration}
    (compiled : ofModel context RuleSet.standard model = .ok migration)
    {line : Line} :
    line ∈ migration.lines ∧ field.columnName ∈ line.named ↔
      ∃ relation ∈ model.owningRelations,
        ∃ target relationDirectives,
          document.model? relation.typeName = some target ∧
            Directive.Set.ofDocumentation relation.documentation =
              .ok relationDirectives ∧
            relationDirectives.silentInMigrations = false ∧
            relationDirectives.localInMigrations = false ∧
            field.columnName ∈
              model.columnsOf relation.relationFromFields ∧
            line =
              .statement
                (ForeignKey.ofRelation model target
                  relation).constraint := by
  have closed := Document.closed_of_valid valid
  have same := (Context.documented_of_ofDocument opened).1
  have known :
      ∀ {other : Field} {written : Directive.Set},
        other ∈ model.fields →
        Directive.Set.ofDocumentation other.documentation =
          .ok written →
        context.fieldDirectives model.name other.name = written :=
    fun inModel isWritten =>
      Context.fieldDirectives_eq closed.toDistinct opened inDocument
        inModel isWritten
  obtain ⟨table, built, rest⟩ := Outcome.bind_eq_ok_iff.mp compiled
  obtain rfl := Except.ok.inj rest
  have silences : table.Silences field.columnName := by
    refine Table.silences_ofModel built member ?_ alone
    rw [known (List.mem_filter.mp member).1 read, silent]
  rw [RuleSet.mem_lines_and_named_iff _ silences]
  constructor
  · rintro ⟨marker, key, claimed, rfl⟩
    obtain ⟨relation, target, enforces, claims, rfl⟩ :=
      (Table.exists_claimed_ofModel_iff built).mp ⟨marker, claimed⟩
    have inModel := (List.mem_filter.mp enforces.owning).1
    obtain ⟨written, readRelation⟩ :=
      closed.fieldDocumentation model inDocument relation inModel
    have isWritten := known inModel readRelation
    exact ⟨relation, enforces.owning, target, written,
      same ▸ enforces.isTarget, readRelation,
      isWritten ▸ enforces.shown, isWritten ▸ enforces.enforced, claims,
      rfl⟩
  · rintro ⟨relation, owning, target, written, isTarget, readRelation,
      shown, enforced, claims, rfl⟩
    have isWritten := known (List.mem_filter.mp owning).1 readRelation
    obtain ⟨marker, claimed⟩ :=
      (Table.exists_claimed_ofModel_iff built).mpr
        ⟨relation, target,
          ⟨owning, same.symm ▸ isTarget, isWritten.symm ▸ shown,
            isWritten.symm ▸ enforced⟩, claims, rfl⟩
    exact ⟨marker, _, claimed, rfl⟩

/-- The number that a post had in the former system. -/
def legacyNumber : Field :=
  (Field.scalar "legacyId" "Int").withDocumentation "@silent(migrations)"

/-- The record of a post in the former system. -/
def legacyRecord : Field :=
  (Field.relation "legacy" "Record").references ["legacyId"] ["id"]

/-- Posts with an index on the number that they had in a former system. -/
def legacyPost : Model :=
  { name := "Post"
    fields := [.autoincrementId, legacyNumber, legacyRecord]
    indexes := [⟨.normal, ["legacyId"], none, none⟩] }

def legacyTarget : Model :=
  { name := "Record"
    fields := [.autoincrementId, (Field.relation "posts" "Post").list] }

def legacyDocument : Document :=
  { models := [legacyPost, legacyTarget] }

theorem exists_silent_legacyNumber :
    ∃ directives,
      Directive.Set.ofDocumentation legacyNumber.documentation =
          .ok directives ∧
        directives.silentInMigrations = true := by
  have silenced :
      (Directive.Set.ofDocumentation legacyNumber.documentation).map
          Directive.Set.silentInMigrations =
        .ok true := by
    decide +kernel
  exact Outcome.map_eq_ok_iff.mp silenced

/-- The migration of posts neither creates the silent number nor puts it into
an index, but it constrains it. -/
theorem named_silent_column_iff_legacy :
    legacyDocument.validate.errors = [] ∧
      ∃ context migration,
        Context.ofDocument legacyDocument {} = .ok context ∧
          ofModel context RuleSet.standard legacyPost = .ok migration ∧
          migration.statements =
            [ "$table->id();",
              "$table->foreign('legacyId')->references('id')" ++
                "->on('Record');" ] ∧
          (∃ line ∈ migration.lines, "legacyId" ∈ line.named) ∧
          ∀ line ∈ migration.lines,
            "legacyId" ∈ line.named →
              ∃ relation ∈ legacyPost.owningRelations,
                "legacyId" ∈
                  legacyPost.columnsOf relation.relationFromFields := by
  have valid : legacyDocument.validate.errors = [] := by decide +kernel
  have compiled :
      (Context.ofDocument legacyDocument {} >>= fun context =>
          ofModel context RuleSet.standard legacyPost).map statements =
        .ok
          [ "$table->id();",
            "$table->foreign('legacyId')->references('id')" ++
              "->on('Record');" ] := by
    decide +kernel
  obtain ⟨migration, compiled, written⟩ :=
    Outcome.map_eq_ok_iff.mp compiled
  obtain ⟨context, opened, compiled⟩ := Outcome.bind_eq_ok_iff.mp compiled
  obtain ⟨directives, read, silent⟩ := exists_silent_legacyNumber
  have named_iff :=
    fun line =>
      @named_silent_column_iff legacyDocument {} context valid opened
        legacyPost (by decide) legacyNumber (by decide) directives read
        silent (by decide) migration compiled line
  obtain ⟨line, inLines⟩ :=
    (named_iff
      (.statement
        (ForeignKey.ofRelation legacyPost legacyTarget
          legacyRecord).constraint)).mpr
      ⟨legacyRecord, by decide, _, {}, by decide +kernel,
        by decide +kernel, rfl, rfl, by decide, rfl⟩
  refine ⟨valid, context, migration, opened, compiled, written,
    ⟨_, line, inLines⟩, ?_⟩
  intro line member named
  obtain ⟨relation, owning, _, _, _, _, _, _, claims, _⟩ :=
    (named_iff line).mp ⟨member, named⟩
  exact ⟨relation, owning, claims⟩

/-- A silent column need not be without a trace: some valid document has a
silent column, which shares its name with no other one, in a foreign key of
its migration. -/
theorem exists_named_silent_column :
    ∃ document : Document, ∃ model ∈ document.models,
    ∃ field ∈ model.columns, ∃ directives context migration,
      document.validate.errors = [] ∧
        Directive.Set.ofDocumentation field.documentation =
          .ok directives ∧
        directives.silentInMigrations = true ∧
        (∀ other ∈ model.fields,
          other.columnName = field.columnName → other = field) ∧
        Context.ofDocument document {} = .ok context ∧
        ofModel context RuleSet.standard model = .ok migration ∧
        ∃ line ∈ migration.lines,
          field.columnName ∈
            line.constraints.flatMap Constraint.columns := by
  have compiled :
      (Context.ofDocument legacyDocument {} >>= fun context =>
          ofModel context RuleSet.standard legacyPost).map
            (fun migration =>
              decide
                (∃ line ∈ migration.lines,
                  "legacyId" ∈
                    line.constraints.flatMap Constraint.columns)) =
        .ok true := by
    decide +kernel
  obtain ⟨migration, compiled, constrains⟩ :=
    Outcome.map_eq_ok_iff.mp compiled
  obtain ⟨context, opened, compiled⟩ := Outcome.bind_eq_ok_iff.mp compiled
  obtain ⟨directives, read, silent⟩ := exists_silent_legacyNumber
  exact ⟨legacyDocument, legacyPost, by decide, legacyNumber, by decide,
    directives, context, migration, by decide +kernel, read, silent,
    by decide, opened, compiled, of_decide_eq_true constrains⟩

end Migration

end Tablewright
