import Tablewright.Relation.Polymorphic
import Tablewright.Proofs.Migration.Silence
import Tablewright.Proofs.Rule.Collapse
import Tablewright.Proofs.Text.Pieces

namespace Tablewright

/-!
# Polymorphic pairs of a model

The migration of a model collapses a discriminator pair as long as no enforced
foreign key claims its first column.  The model is the child of a polymorphic
relation as long as no foreign key does, enforced or not.  So the two disagree
just where a key is left out of the migration.
-/

open Schema Code

namespace Relation

/-- A relation is the child side of the discriminator pair of a base. -/
structure Definition.IsChildOf
    (relation : Definition)
    (base : String) : Prop where
  kind_eq : relation.kind = .morphTo
  discriminator_eq :
    relation.discriminator = some (Discriminator.conventional base)

/-- The endings of a discriminator pair are the ones that migrations know. -/
structure Options.IsConventional (options : Options) : Prop where
  idEnding : options.morphIdEnding = "_id"
  typeEnding : options.morphTypeEnding = "_type"

/-- A foreign key of a model covers a column, enforced or not. -/
def Covers
    (model : Model)
    (key : Field)
    (column : String) : Prop :=
  key ∈ model.owningRelations ∧
    column ∈ model.columnsOf key.relationFromFields

section Children

variable {options : Options} (conventional : options.IsConventional)

include conventional

/-- A column is the first one of the pair of a base just if it is called
so, the other column is there and no key covers it. -/
theorem exists_morphToOf?_iff
    {keyColumns columns : List String}
    {column base : String} :
    (∃ relation,
        morphToOf? options keyColumns columns column = some relation ∧
          relation.IsChildOf base) ↔
      base ≠ "" ∧
        column = base ++ "_id" ∧
        base ++ "_type" ∈ columns ∧
        column ∉ keyColumns := by
  unfold morphToOf?
  rw [conventional.idEnding, conventional.typeEnding]
  constructor
  · rintro ⟨relation, found, isChild⟩
    cases ends : Text.withoutEnding? "_id" column with
    | none => simp [ends] at found
    | some front =>
        obtain rfl := Text.withoutEnding?_eq_some_iff.mp ends
        simp only [ends, Option.ite_none_left_eq_some, Bool.or_eq_true,
          not_or, Option.some.injEq] at found
        obtain ⟨⟨⟨based, uncovered⟩, typed⟩, rfl⟩ := found
        obtain rfl : front = base :=
          congrArg Discriminator.base
            (Option.some.inj isChild.discriminator_eq)
        exact ⟨by simpa using based, rfl, by simpa using typed,
          by simpa using uncovered⟩
  · rintro ⟨based, rfl, typed, uncovered⟩
    refine
      ⟨{ name := Naming.camel base
         kind := .morphTo
         discriminator := some (.conventional base) },
        ?_, rfl, rfl⟩
    rw [Text.withoutEnding?_eq_some_iff.mpr rfl]
    simp [based, typed, uncovered, Discriminator.conventional]

/-- A model is the child of a pair just if it has the two columns and none
of its keys covers the first of them. -/
theorem exists_detectMorphTo_iff
    {model : Model}
    {base : String} :
    (∃ relation ∈ detectMorphTo options model,
        relation.IsChildOf base) ↔
      base ≠ "" ∧
        base ++ "_id" ∈ model.columns.map Field.columnName ∧
        base ++ "_type" ∈ model.columns.map Field.columnName ∧
        ∀ key, ¬ Covers model key (base ++ "_id") := by
  have looked :
      detectMorphTo options model =
        (model.columns.map Field.columnName).filterMap
          (morphToOf? options
            (model.owningRelations.flatMap fun relation =>
              model.columnsOf relation.relationFromFields)
            (model.columns.map Field.columnName)) := by
    simp [detectMorphTo, conventional.idEnding, conventional.typeEnding]
  simp only [looked, List.mem_filterMap]
  constructor
  · rintro ⟨relation, ⟨column, inModel, found⟩, isChild⟩
    obtain ⟨based, rfl, typed, uncovered⟩ :=
      (exists_morphToOf?_iff conventional).mp ⟨relation, found, isChild⟩
    exact ⟨based, inModel, typed, fun key covers =>
      uncovered (List.mem_flatMap.mpr ⟨key, covers⟩)⟩
  · rintro ⟨based, inModel, typed, uncovered⟩
    obtain ⟨relation, found, isChild⟩ :=
      (exists_morphToOf?_iff conventional).mpr ⟨based, rfl, typed,
        fun covered =>
          let ⟨key, covers⟩ := List.mem_flatMap.mp covered
          uncovered key covers⟩
    exact ⟨relation, ⟨_, inModel, found⟩, isChild⟩

end Children

end Relation

namespace Table

variable {context : Context} {model : Model} {table : Table}

/-- A pair of columns in the table of a model is a pair of columns of the
model. -/
theorem Paired.mem_columns
    {pair : MorphPair}
    {idColumn typeColumn : Column}
    (paired : table.Paired pair idColumn typeColumn)
    (built : ofModel context model = .ok table) :
    pair.base ++ "_id" ∈ model.columns.map Field.columnName ∧
      pair.base ++ "_type" ∈ model.columns.map Field.columnName := by
  rw [← map_name_ofModel built]
  constructor
  · refine List.mem_map.mpr ⟨idColumn, List.mem_filter.mpr ⟨?_, ?_⟩,
      paired.idNamed⟩
    · exact List.mem_of_getElem? paired.idHeld
    · simp [paired.idIsColumn]
  · refine List.mem_map.mpr ⟨typeColumn, List.mem_filter.mpr ⟨?_, ?_⟩,
      paired.typeNamed⟩
    · exact List.mem_of_getElem? paired.typeHeld
    · simp [paired.typeIsColumn]

/-- A name that no marker claims is covered by no enforced key. -/
theorem not_covers_of_markersClaiming
    (built : ofModel context model = .ok table)
    {name : String}
    (unclaimed : table.markersClaiming name = [])
    {key : Field}
    {target : Model}
    (enforces : context.Enforces model key target) :
    ¬ Relation.Covers model key name := by
  rintro ⟨_, covers⟩
  obtain ⟨marker, claimed⟩ :=
    (exists_claimed_ofModel_iff built).mpr
      ⟨key, target, enforces, covers, rfl⟩
  obtain ⟨holder, held, marks, active, owning, claims⟩ := claimed
  have claiming : marker ∈ table.markersClaiming name :=
    mem_markersClaiming.mpr
      ⟨holder, _, held, marks, active, owning, claims⟩
  rw [unclaimed] at claiming
  cases claiming

end Table

namespace Migration

/--
When the migration of a model collapses a discriminator pair, the model is the
child of that pair just if none of its foreign keys covers the first column.
As long as the columns of the model have distinct names, only a key that a
directive leaves out of the migration can cover it.
-/
theorem isChildOf_collapsed_iff
    {document : Document}
    {settings : Settings}
    {context : Context}
    (valid : document.validate.errors = [])
    (opened : Context.ofDocument document settings = .ok context)
    {model : Model}
    (inDocument : model ∈ document.models)
    {migration : Migration}
    (compiled : ofModel context RuleSet.standard model = .ok migration)
    {line : Line}
    (member : line ∈ migration.lines)
    {base : String}
    (collapses : line.Collapses base)
    {options : Relation.Options}
    (conventional : options.IsConventional) :
    ((∃ relation ∈ Relation.detectMorphTo options model,
          relation.IsChildOf base) ↔
        ∀ key, ¬ Relation.Covers model key (base ++ "_id")) ∧
      ((model.columns.map Field.columnName).Nodup →
        ∀ key directives,
          Relation.Covers model key (base ++ "_id") →
          Directive.Set.ofDocumentation key.documentation =
            .ok directives →
          directives.silentInMigrations = true ∨
            directives.localInMigrations = true) := by
  have closed := Document.closed_of_valid valid
  have same := (Context.documented_of_ofDocument opened).1
  obtain ⟨table, built, rest⟩ := Outcome.bind_eq_ok_iff.mp compiled
  obtain rfl := Except.ok.inj rest
  constructor
  · obtain ⟨pair, _, _, paired, rfl⟩ :=
      RuleSet.exists_paired_of_collapses member collapses
    obtain ⟨hasId, hasType⟩ := paired.mem_columns built
    rw [Relation.exists_detectMorphTo_iff conventional]
    exact ⟨fun given => given.2.2.2,
      fun uncovered => ⟨paired.based, hasId, hasType, uncovered⟩⟩
  · intro nodup key directives covers read
    have distinct : table.DistinctNames := by
      apply Table.distinctNames_of_nodup
      rw [Table.map_name_ofModel built]
      exact nodup
    have unclaimed :=
      RuleSet.markersClaiming_of_collapses distinct member collapses
    by_contra neither
    rw [not_or, Bool.not_eq_true, Bool.not_eq_true] at neither
    obtain ⟨inModel, _⟩ := List.mem_filter.mp covers.1
    have known :
        context.fieldDirectives model.name key.name = directives :=
      Context.fieldDirectives_eq closed.toDistinct opened inDocument
        inModel read
    obtain ⟨target, isTarget, _⟩ :=
      (closed.model model inDocument).relation key
        (model.owningRelations_subset covers.1)
    have enforces : context.Enforces model key target :=
      { owning := covers.1
        isTarget := same.symm ▸ isTarget
        shown := known.symm ▸ neither.1
        enforced := known.symm ▸ neither.2 }
    exact Table.not_covers_of_markersClaiming built unclaimed enforces
      covers

/-- The user who owns an asset, of which the database knows nothing. -/
def assetUser : Field :=
  ((Field.relation "user" "User").references
    ["owner_id"] ["id"]).withDocumentation "@local"

/-- Assets with two discriminator pairs, one of which is a key as well. -/
def assetModel : Model :=
  { name := "Asset"
    fields :=
      [ .autoincrementId,
        .scalar "owner_id" "Int", .scalar "owner_type" "String",
        assetUser,
        .scalar "topic_id" "Int", .scalar "topic_type" "String" ] }

def assetOwner : Model :=
  { name := "User"
    fields := [.autoincrementId, (Field.relation "assets" "Asset").list] }

def assetDocument : Document :=
  { models := [assetModel, assetOwner] }

theorem exists_compiled_assets :
    ∃ context migration,
      Context.ofDocument assetDocument {} = .ok context ∧
        ofModel context RuleSet.standard assetModel = .ok migration ∧
        migration.lines =
          [ .call "id" [],
            .call "morphs" [.literal "owner"],
            .call "morphs" [.literal "topic"] ] := by
  have compiled :
      (Context.ofDocument assetDocument {} >>= fun context =>
          ofModel context RuleSet.standard assetModel).map lines =
        .ok
          [ .call "id" [],
            .call "morphs" [.literal "owner"],
            .call "morphs" [.literal "topic"] ] := by
    decide +kernel
  obtain ⟨migration, compiled, written⟩ :=
    Outcome.map_eq_ok_iff.mp compiled
  obtain ⟨context, opened, compiled⟩ := Outcome.bind_eq_ok_iff.mp compiled
  exact ⟨context, migration, opened, compiled, written⟩

/-- Both pairs of an asset are collapsed.  It is the child of the one that is
no key, and not of the other. -/
theorem isChildOf_collapsed_iff_asset :
    assetDocument.validate.errors = [] ∧
      (∃ relation ∈ Relation.detectMorphTo {} assetModel,
        relation.IsChildOf "topic") ∧
      ¬ ∃ relation ∈ Relation.detectMorphTo {} assetModel,
        relation.IsChildOf "owner" := by
  have valid : assetDocument.validate.errors = [] := by decide +kernel
  obtain ⟨context, migration, opened, compiled, written⟩ :=
    exists_compiled_assets
  have collapsed :
      ∀ {base : String},
        Line.call "morphs" [.literal base] ∈ migration.lines →
        ((∃ relation ∈ Relation.detectMorphTo {} assetModel,
            relation.IsChildOf base) ↔
          ∀ key, ¬ Relation.Covers assetModel key (base ++ "_id")) :=
    fun member =>
      (isChildOf_collapsed_iff valid opened
        (show assetModel ∈ assetDocument.models by decide) compiled
        member ⟨.integer, false, rfl⟩ ⟨rfl, rfl⟩).1
  refine ⟨valid, (collapsed (by simp [written])).mpr ?_, ?_⟩
  · rintro key ⟨owning, covers⟩
    have keys : assetModel.owningRelations = [assetUser] := by decide
    rw [keys] at owning
    obtain rfl := List.mem_singleton.mp owning
    revert covers
    decide
  · intro isChild
    exact (collapsed (by simp [written])).mp isChild assetUser
      ⟨by decide, by decide⟩

/-- A collapsed pair need not be polymorphic: some valid document has a model
with such a pair of which it is no child. -/
theorem exists_collapsed_not_isChildOf :
    ∃ document : Document, ∃ model ∈ document.models,
    ∃ context migration, ∃ line ∈ migration.lines, ∃ base,
      document.validate.errors = [] ∧
        Context.ofDocument document {} = .ok context ∧
        ofModel context RuleSet.standard model = .ok migration ∧
        line.Collapses base ∧
        ∀ relation ∈ Relation.detectMorphTo {} model,
          ¬ relation.IsChildOf base := by
  obtain ⟨context, migration, opened, compiled, written⟩ :=
    exists_compiled_assets
  refine ⟨assetDocument, assetModel, by decide, context, migration,
    .call "morphs" [.literal "owner"], by simp [written], "owner",
    by decide +kernel, opened, compiled, ⟨.integer, false, rfl⟩, ?_⟩
  rintro relation member ⟨_, isPair⟩
  have only :
      (Relation.detectMorphTo {} assetModel).map
          Relation.Definition.discriminator =
        [some (.conventional "topic")] := by
    decide +kernel
  have inList := List.mem_map_of_mem
    (f := Relation.Definition.discriminator) member
  rw [only, isPair] at inList
  revert inList
  decide

end Migration

end Tablewright
