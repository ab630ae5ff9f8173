import Tablewright.Proofs.Migration.Silence
import Tablewright.Proofs.Relation.Inference

namespace Tablewright

/-!
# Keys of migrations and models

A foreign key is written down on both sides of the compilation: in the marker
of its relation field, for the migration, and in the relations of the field
and of its counterpart, for the models.  All of them translate the fields of
the key with the same two models, so they name the same columns in the same
order.
-/

open Schema

namespace Relation

/-- A relation follows a foreign key: it compares the columns of the key with
the columns that the key refers to. -/
structure Definition.Follows
    (relation : Definition)
    (key : ForeignKey) : Prop where
  foreignKeys_eq : relation.foreignKeys = key.localColumns
  localKeys_eq : relation.localKeys = key.references

/-- A relation to the other side of a key that one of two models owns. -/
def Kind.IsHas (kind : Kind) : Prop :=
  kind = .hasOne ∨ kind = .hasMany

/-- A single field with a key belongs to its target. -/
theorem inferField_of_isOwning
    (options : Options)
    {document : Document}
    (model : Model)
    {target : Model}
    {field : Field}
    (directives : Directive.Set)
    (isTarget : document.model? field.typeName = some target)
    (owning : field.isOwning = true)
    (single : field.isList = false) :
    inferField options document model field directives =
      .ok (some (belongsToRelation model field target
        (options.accessorName field.name))) := by
  unfold inferField
  rw [Document.targetOf_eq_ok_iff.mpr isTarget, Outcome.ok_bind]
  simp [owning, single, inferSingle, pure, Except.pure]

/-- A single field that has one or many of its target is the other side of a
key of its counterpart. -/
theorem eq_hasRelation_of_inferSingle
    {model target : Model}
    {field other : Field}
    {name : String}
    {relation : Definition}
    (inferred :
      inferSingle model field target (some other) name = some relation)
    (has : relation.kind.IsHas) :
    ∃ kind, relation = hasRelation kind model field target other name := by
  unfold inferSingle at inferred
  split at inferred
  · obtain rfl := Option.some.inj inferred
    rcases has with one | many
    · cases one
    · cases many
  · simp only at inferred
    split at inferred
    · exact ⟨_, (Option.some.inj inferred).symm⟩
    · cases inferred

/-- A list field that has many of its target is the other side of a key of
its counterpart. -/
theorem eq_hasRelation_of_inferList
    {document : Document}
    {model target : Model}
    {field other : Field}
    {directives : Directive.Set}
    {name : String}
    {relation : Definition}
    (inferred :
      inferList document model field target other directives name =
        .ok (some relation))
    (has : relation.kind.IsHas) :
    ∃ kind, relation = hasRelation kind model field target other name := by
  unfold inferList at inferred
  split at inferred
  · obtain rfl := Option.some.inj (Except.ok.inj inferred)
    rcases has with one | many
    · cases one
    · cases many
  · obtain ⟨explicit, isExplicit, inferred⟩ :=
      Outcome.bind_eq_ok_iff.mp inferred
    cases explicit with
    | some found =>
        obtain rfl := Option.some.inj (Except.ok.inj inferred)
        rw [Kind.IsHas, explicitManyToMany?_kind isExplicit] at has
        rcases has with one | many
        · cases one
        · cases many
    | none =>
        simp only at inferred
        split at inferred
        · exact ⟨_, (Option.some.inj (Except.ok.inj inferred)).symm⟩
        · cases inferred

/-- Whatever has one or many of its target is the other side of a key of its
counterpart. -/
theorem eq_hasRelation_of_inferField
    {options : Options}
    {document : Document}
    {model target : Model}
    {field other : Field}
    {directives : Directive.Set}
    {relation : Definition}
    (isTarget : document.model? field.typeName = some target)
    (found : counterpart? model field target = some other)
    (inferred :
      inferField options document model field directives =
        .ok (some relation))
    (has : relation.kind.IsHas) :
    ∃ kind,
      relation =
        hasRelation kind model field target other
          (options.accessorName field.name) := by
  unfold inferField at inferred
  rw [Document.targetOf_eq_ok_iff.mpr isTarget, Outcome.ok_bind]
    at inferred
  simp only [found, Option.isNone_some, Bool.and_false,
    Bool.false_eq_true, ↓reduceIte] at inferred
  split at inferred
  · exact eq_hasRelation_of_inferList inferred has
  · exact eq_hasRelation_of_inferSingle (Except.ok.inj inferred) has

end Relation

namespace Table

/-- The marker of a relation field that owns its key carries that key. -/
theorem exists_key_of_isOwning
    {context : Context}
    {model target : Model}
    {table : Table}
    (built : ofModel context model = .ok table)
    {field : Field}
    (member : field ∈ model.owningRelations)
    (isTarget :
      context.document.model? field.typeName = some target) :
    ∃ marker,
      (field, marker) ∈ model.fields.zip table.columns ∧
        marker.isMarker = true ∧
        marker.foreignKey =
          some { ForeignKey.ofRelation model target field with
            isLocal :=
              (context.fieldDirectives model.name
                field.name).localInMigrations } := by
  obtain ⟨columns, fromFields, rest⟩ := Outcome.bind_eq_ok_iff.mp built
  obtain rfl := Except.ok.inj rest
  obtain ⟨inModel, owning⟩ := List.mem_filter.mp member
  obtain ⟨column, inPlace, made⟩ :=
    Outcome.exists_mem_zip_of_mem_mapM fromFields inModel
  obtain ⟨marker, isMarked, marks, sameKey, _⟩ :=
    Column.ofModelField_of_isRelation
      (Bool.and_eq_true_iff.mp owning).1 made
  refine ⟨column, inPlace, marks, ?_⟩
  rw [sameKey]
  exact (Column.foreignKey_markerOf_iff isMarked).mpr
    ⟨owning, target, isTarget, rfl⟩

end Table

namespace Relation

/--
Migrations and models agree on every foreign key of a valid document.  The
marker of a single field that owns a key refers to the table of the target.
The relation of the field compares the columns of that key with the columns
that it refers to, and so does every relation of one or many that the target
has through a field with this counterpart.
-/
theorem inferField_follows_foreignKey
    {document : Document}
    (valid : document.validate.errors = [])
    (settings : Settings)
    {model : Model}
    (inDocument : model ∈ document.models)
    {field : Field}
    (member : field ∈ model.owningRelations)
    (single : field.isList = false) :
    ∃ target context table marker key,
      document.model? field.typeName = some target ∧
        Context.ofDocument document settings = .ok context ∧
        Table.ofModel context model = .ok table ∧
        (field, marker) ∈ model.fields.zip table.columns ∧
        marker.isMarker = true ∧
        marker.foreignKey = some key ∧
        key.targetTable = target.tableName ∧
        (∀ options directives,
          ∃ relation,
            inferField options document model field directives =
                .ok (some relation) ∧
              relation.kind = .belongsTo ∧
              relation.target = some target.name ∧
              relation.Follows key) ∧
        ∀ options directives other relation,
          other.typeName = model.name →
          counterpart? target other model = some field →
          inferField options document target other directives =
            .ok (some relation) →
          relation.kind.IsHas →
          relation.Follows key := by
  have closed := Document.closed_of_valid valid
  have known := closed.model model inDocument
  obtain ⟨target, isTarget, _⟩ :=
    known.relation field (model.owningRelations_subset member)
  obtain ⟨context, opened⟩ := Context.exists_ofDocument closed settings
  have same := (Context.documented_of_ofDocument opened).1
  obtain ⟨table, built⟩ : ∃ table, Table.ofModel context model = .ok table :=
    Table.exists_ofModel fun relation inModel =>
      same.symm ▸ known.exists_targetOf inModel model.name
  obtain ⟨marker, inPlace, marks, hasKey⟩ :=
    Table.exists_key_of_isOwning built member (same.symm ▸ isTarget)
  refine ⟨target, context, table, marker, _, isTarget, opened, built,
    inPlace, marks, hasKey, rfl, ?_, ?_⟩
  · intro options directives
    exact ⟨_,
      inferField_of_isOwning options model directives isTarget
        (List.mem_filter.mp member).2 single,
      rfl, rfl, rfl, rfl⟩
  · intro options directives other relation returns found inferred has
    have isModel : document.model? other.typeName = some model :=
      returns ▸ closed.model?_eq_some inDocument
    obtain ⟨kind, rfl⟩ :=
      eq_hasRelation_of_inferField isModel found inferred has
    exact ⟨rfl, rfl⟩

/-- The sensor of a reading, by the station and the channel. -/
def readingSensor : Field :=
  (Field.relation "sensor" "Sensor").references
    ["station", "channel"] ["code", "number"]

def readingModel : Model :=
  { name := "Reading"
    fields :=
      [ .autoincrementId,
        (Field.scalar "channel" "Int").withDbName "sensor_channel",
        (Field.scalar "station" "String").withDbName "sensor_station",
        readingSensor ] }

/-- The readings of a sensor. -/
def sensorReadings : Field :=
  (Field.relation "readings" "Reading").list

def sensorModel : Model :=
  { name := "Sensor"
    dbName := some "sensors"
    fields :=
      [ (Field.scalar "number" "Int").withDbName "channel_number",
        (Field.scalar "code" "String").withDbName "station_code",
        sensorReadings ]
    primaryKey := some { fields := ["code", "number"] } }

/-- Readings refer to their sensor by a key of two renamed columns. -/
def sensorDocument : Document :=
  { models := [readingModel, sensorModel] }

/-- A reading belongs to its sensor, and the sensor has many readings, by the
two columns of the foreign key in the order of the key. -/
theorem inferField_follows_foreignKey_sensor :
    sensorDocument.validate.errors = [] ∧
      ∃ key : ForeignKey,
        key.localColumns = ["sensor_station", "sensor_channel"] ∧
          key.references = ["station_code", "channel_number"] ∧
          key.targetTable = "sensors" ∧
          (∃ relation,
            inferField {} sensorDocument readingModel readingSensor {} =
                .ok (some relation) ∧
              relation.kind = .belongsTo ∧
              relation.Follows key) ∧
          ∃ relation,
            inferField {} sensorDocument sensorModel sensorReadings {} =
                .ok (some relation) ∧
              relation.kind = .hasMany ∧
              relation.Follows key := by
  have valid : sensorDocument.validate.errors = [] := by decide +kernel
  obtain ⟨target, context, table, marker, key, isTarget, _, _, _, _, _,
    refers, belongs, has⟩ :=
    inferField_follows_foreignKey valid {}
      (show readingModel ∈ sensorDocument.models by decide)
      (show readingSensor ∈ readingModel.owningRelations by decide) rfl
  have isSensor :
      sensorDocument.model? readingSensor.typeName = some sensorModel := by
    decide +kernel
  obtain rfl := Option.some.inj (isSensor.symm.trans isTarget)
  obtain ⟨relation, inferred, kind, _, follows⟩ := belongs {} {}
  have columns :
      (inferField {} sensorDocument readingModel readingSensor {}).map
          (Option.map fun relation =>
            (relation.foreignKeys, relation.localKeys)) =
        .ok (some
          (["sensor_station", "sensor_channel"],
            ["station_code", "channel_number"])) := by
    decide +kernel
  rw [inferred] at columns
  obtain ⟨foreignKeys, localKeys⟩ :=
    Prod.mk.inj (Option.some.inj (Except.ok.inj columns))
  have counted :
      (inferField {} sensorDocument sensorModel sensorReadings {}).map
          (Option.map Definition.kind) =
        .ok (some .hasMany) := by
    decide +kernel
  obtain ⟨found, inferredBack, isMany⟩ := Outcome.map_eq_ok_iff.mp counted
  obtain ⟨back, rfl, many⟩ := Option.map_eq_some_iff.mp isMany
  refine ⟨valid, key, ?_, ?_, ?_, ⟨relation, inferred, kind, follows⟩,
    back, inferredBack, many, ?_⟩
  · rw [← follows.foreignKeys_eq, foreignKeys]
  · rw [← follows.localKeys_eq, localKeys]
  · rw [refers]
    rfl
  · exact has {} {} sensorReadings back rfl (by decide +kernel)
      inferredBack (Or.inr many)

end Relation

end Tablewright
