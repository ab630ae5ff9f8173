import Tablewright.Column.Builder
import Tablewright.Proofs.Reference

namespace Tablewright.Traced

/-!
# References that the table of a model follows

The table of a model is built once more, on the record.  It looks up the key
and the indexes on the model, the target of each foreign key with the fields
that it refers to, and the enumeration of each enumeration field.  Any model
all of whose names belong to something will do, also one that is not part of
the document.
-/

open Schema Column

/-! ## The table, traced -/

/-- The column of a field before its default is known, traced. -/
def storedOf (document : Document) (field : Field) : Traced Column := do
  let start : Column :=
    { plain field.columnName .string with
      fieldName := field.name
      nullable := !field.isRequired
      unique := field.isUnique }
  if field.kind = .enumeration then do
    let values ← enumValues document field
    return { start with kind := .enumeration, enumValues := values }
  else
    let storage := scalarStorage field.typeName field.nativeType
    return { start with
      kind := storage.kind
      arguments := storage.arguments
      unsigned := storage.unsigned }

/-- `Column.ofField`, traced. -/
def ofField (document : Document) (field : Field) : Traced Column := do
  let stored ← storedOf document field
  return withFieldDefault stored field.defaultValue

/-- `Column.markerOf`, traced. -/
def markerOf (context : Context) (model : Model) (field : Field) :
    Traced Column := do
  let start : Column :=
    { marker field.name none with nullable := !field.isRequired }
  if !field.isOwning then return start
  else do
    let target ← targetOf context.document model.name field
    let directives := context.fieldDirectives model.name field.name
    let localColumns ← columnsOf model field.relationFromFields
    let references ← columnsOf target field.relationToFields
    return { start with
      foreignKey := some {
        field := field.name
        targetTable := target.tableName
        localColumns := localColumns
        references := references
        onDelete := field.onDelete
        onUpdate := field.onUpdate
        isLocal := directives.localInMigrations } }

/-- `Column.ofModelField`, traced. -/
def ofModelField (context : Context) (model : Model)
    (keyColumns : List String) (field : Field) : Traced Column := do
  let directives := context.fieldDirectives model.name field.name
  let built ←
    (if field.isRelation then markerOf context model field
    else ofField context.document field)
  let column := withKey keyColumns { built with
    comment := directives.comment
    silent := directives.silentInMigrations }
  return { column with ignored := startsIgnored column }

/-- An index of a model as an index of its table, traced. -/
def indexOf (model : Model) (index : Index) : Traced TableIndex := do
  let columns ← columnsOf model index.fields
  return {
    kind := index.kind
    columns := columns
    name := index.dbName.or index.name }

/-- `Table.indexesOf`, traced. -/
def indexesOf (model : Model) : Traced (List TableIndex) :=
  (model.indexes.filter (fun index => index.kind != .id)).mapM
    (indexOf model)

/-- `Table.ofModel`, traced. -/
def tableOf (context : Context) (model : Model) : Traced Table := do
  let keyColumns ← primaryKeyColumns model
  let columns ← model.fields.mapM (ofModelField context model keyColumns)
  let indexes ← indexesOf model
  return { columns := columns, indexes := indexes }

/-! ## Its outcome -/

theorem outcome_ofField (document : Document) (field : Field) :
    (ofField document field).outcome =
      .ok (Column.ofField document field) := by
  unfold ofField storedOf Column.ofField
  simp only [outcome_bind]
  split
  · rfl
  · rfl

theorem outcome_markerOf
    (context : Context)
    (model : Model)
    (field : Field) :
    (markerOf context model field).outcome =
      Column.markerOf context model field := by
  unfold markerOf Column.markerOf
  split
  · rfl
  · simp only [outcome_bind, outcome_targetOf, outcome_columnsOf,
      outcome_pure]
    rfl

theorem outcome_ofModelField
    (context : Context)
    (model : Model)
    (keyColumns : List String)
    (field : Field) :
    (ofModelField context model keyColumns field).outcome =
      Column.ofModelField context model keyColumns field := by
  unfold ofModelField Column.ofModelField
  simp only [outcome_bind, outcome_ite, outcome_markerOf, outcome_ofField]
  split
  · rfl
  · rfl

theorem outcome_indexesOf (model : Model) :
    (indexesOf model).outcome = .ok (Table.indexesOf model) := by
  refine outcome_mapM_eq_ok (fun index => ?_) _
  simp only [indexOf, outcome_bind, outcome_columnsOf, outcome_pure]
  rfl

theorem outcome_tableOf (context : Context) (model : Model) :
    (tableOf context model).outcome = Table.ofModel context model := by
  simp only [tableOf, outcome_bind, outcome_primaryKeyColumns,
    Outcome.ok_bind, outcome_indexesOf, outcome_pure,
    outcome_mapM (outcome_ofModelField context model
      model.primaryKeyColumns)]
  rfl

/-! ## What it looks up -/

section Closed

variable {context : Context}
variable {model : Model}
variable (closed : model.ClosedIn context.document)

include closed

theorem resolves_ofField
    {field : Field}
    (member : field ∈ model.fields) :
    (ofField context.document field).Resolves context.document := by
  refine resolves_bind ?_ fun _ _ => resolves_pure _
  refine resolves_ite (fun isEnumeration => ?_) fun _ => resolves_pure _
  exact resolves_bind (resolves_enumValues closed member isEnumeration)
    fun _ _ => resolves_pure _

theorem resolves_markerOf
    {field : Field}
    (member : field ∈ model.relationFields) :
    (markerOf context model field).Resolves context.document := by
  refine resolves_ite (fun _ => resolves_pure _) fun _ => ?_
  refine resolves_bind (resolves_targetOf closed member model.name)
    fun target isTarget => ?_
  have found := Document.targetOf_eq_ok_iff.mp isTarget
  refine resolves_bind (resolves_columnsOf
    (closed.hasFields_relationFromFields member)) fun _ _ => ?_
  refine resolves_bind (resolves_columnsOf
    (closed.hasFields_relationToFields member found)) fun _ _ => ?_
  exact resolves_pure _

theorem resolves_indexesOf :
    (indexesOf model).Resolves context.document := by
  refine resolves_mapM fun index member => ?_
  refine resolves_bind (resolves_columnsOf ?_) fun _ _ => resolves_pure _
  exact closed.index index (List.mem_filter.mp member).1

/-- The table of a closed model is built without looking up anything in
vain. -/
theorem resolves_tableOf :
    (tableOf context model).Resolves context.document := by
  refine resolves_bind (resolves_primaryKeyColumns closed)
    fun keyColumns _ => ?_
  refine resolves_bind (resolves_mapM fun field member => ?_) fun _ _ => ?_
  · refine resolves_bind ?_ fun _ _ => resolves_pure _
    refine resolves_ite (fun isRelation => ?_) fun _ => ?_
    · exact resolves_markerOf closed
        (List.mem_filter.mpr ⟨member, isRelation⟩)
    · exact resolves_ofField closed member
  · exact resolves_bind (resolves_indexesOf closed)
      fun _ _ => resolves_pure _

end Closed

end Tablewright.Traced
