import Tablewright.Column.Builder
import Tablewright.Proofs.Column.Table
import Tablewright.Proofs.Failure

namespace Tablewright

/-!
# Columns of a model

A field that is no relation has a column of its name, which belongs to the
primary key if that name does.  A foreign key starts out on the marker of its
relation field.
-/

namespace Column

/-- The default of a field changes nothing but the kind, the default and the
counting, and makes no column a marker. -/
theorem exists_withFieldDefault
    (column : Column)
    (given : Option Schema.DefaultValue) :
    ∃ kind defaultValue autoIncrement,
      column.withFieldDefault given =
          { column with
            kind := kind
            defaultValue := defaultValue
            autoIncrement := autoIncrement } ∧
        (column.isMarker = false → kind.isRelation = false) := by
  cases given with
  | none => exact ⟨_, _, _, rfl, id⟩
  | some value =>
      cases value with
      | literal value => exact ⟨_, _, _, rfl, id⟩
      | generator name arguments =>
          simp only [withFieldDefault]
          repeat' split
          all_goals first
            | exact ⟨_, _, _, rfl, id⟩
            | exact ⟨_, _, _, rfl, fun _ => rfl⟩

/-- A field that is no relation has a column without a foreign key. -/
theorem foreignKey_ofField
    (document : Schema.Document)
    (field : Schema.Field) :
    (ofField document field).foreignKey = none := by
  rw [ofField]
  obtain ⟨_, _, _, same, _⟩ := exists_withFieldDefault _ field.defaultValue
  rw [same]
  split <;> rfl

/-- A field that is no relation has a column that is unique like it. -/
theorem unique_ofField
    (document : Schema.Document)
    (field : Schema.Field) :
    (ofField document field).unique = field.isUnique := by
  rw [ofField]
  obtain ⟨_, _, _, same, _⟩ := exists_withFieldDefault _ field.defaultValue
  rw [same]
  split <;> rfl

/-- A relation field has a marker. -/
theorem isMarker_of_markerOf
    {context : Context}
    {model : Schema.Model}
    {field : Schema.Field}
    {column : Column}
    (built : markerOf context model field = .ok column) :
    column.isMarker = true := by
  unfold markerOf at built
  split at built
  · obtain rfl := Except.ok.inj built
    rfl
  · obtain ⟨target, _, rest⟩ := Outcome.bind_eq_ok_iff.mp built
    obtain rfl := Except.ok.inj rest
    rfl

@[simp]
theorem kind_withKey
    (keyColumns : List String)
    (column : Column) :
    (withKey keyColumns column).kind = column.kind := by
  unfold withKey
  split <;> rfl

@[simp]
theorem foreignKey_withKey
    (keyColumns : List String)
    (column : Column) :
    (withKey keyColumns column).foreignKey = column.foreignKey := by
  unfold withKey
  split <;> rfl

@[simp]
theorem name_withKey
    (keyColumns : List String)
    (column : Column) :
    (withKey keyColumns column).name = column.name := by
  unfold withKey
  split <;> rfl

@[simp]
theorem unique_withKey
    (keyColumns : List String)
    (column : Column) :
    (withKey keyColumns column).unique = column.unique := by
  unfold withKey
  split <;> rfl

@[simp]
theorem silent_withKey
    (keyColumns : List String)
    (column : Column) :
    (withKey keyColumns column).silent = column.silent := by
  unfold withKey
  split <;> rfl

@[simp]
theorem comment_withKey
    (keyColumns : List String)
    (column : Column) :
    (withKey keyColumns column).comment = column.comment := by
  unfold withKey
  split <;> rfl

/-- No scalar type is stored as a relation. -/
theorem isRelation_scalarStorage
    (typeName : String)
    (nativeType : Option Schema.NativeType) :
    (scalarStorage typeName nativeType).kind.isRelation = false := by
  have integers :
      ∀ fallback : Kind,
        fallback.isRelation = false →
        ∀ native : Option String,
          (integerStorage fallback native).kind.isRelation = false := by
    intro fallback isFallback native
    cases native with
    | none => exact isFallback
    | some native =>
        simp only [integerStorage, integerKind?]
        split <;> first | rfl | exact isFallback
  simp only [scalarStorage]
  split
  · exact integers .integer rfl _
  · exact integers .bigInteger rfl _
  · split <;> rfl
  · rfl
  · rfl
  · unfold textStorage
    split <;> rfl
  · unfold temporalStorage
    split <;> rfl
  · split <;> rfl
  · rfl
  · rfl

/-- A field that is no relation has a column of its name. -/
theorem isMarker_and_name_ofField
    (document : Schema.Document)
    (field : Schema.Field) :
    (ofField document field).isMarker = false ∧
      (ofField document field).name = field.columnName := by
  rw [ofField]
  obtain ⟨kind, _, _, same, staysColumn⟩ :=
    exists_withFieldDefault _ field.defaultValue
  rw [same]
  constructor
  · apply staysColumn
    split
    · rfl
    · exact isRelation_scalarStorage field.typeName field.nativeType
  · split <;> rfl

/-- What a field that is no relation says about its column. -/
theorem ofModelField_of_isColumn
    {context : Context}
    {model : Schema.Model}
    {keyColumns : List String}
    {field : Schema.Field}
    {column : Column}
    (isColumn : field.isColumn = true)
    (built :
      ofModelField context model keyColumns field = .ok column) :
    column.isMarker = false ∧
      column.name = field.columnName ∧
      column.primary = keyColumns.contains field.columnName ∧
      column.silent =
        (context.fieldDirectives model.name
          field.name).silentInMigrations := by
  have notRelation : field.isRelation = false := by
    simpa [Schema.Field.isColumn] using isColumn
  unfold ofModelField at built
  rw [notRelation, if_neg Bool.false_ne_true] at built
  obtain rfl := Except.ok.inj built
  obtain ⟨notMarker, named⟩ :=
    isMarker_and_name_ofField context.document field
  refine ⟨?_, ?_, ?_, ?_⟩
  · simpa only [isMarker, kind_withKey] using notMarker
  · simpa only [name_withKey] using named
  · rw [← named]
    simp only [withKey]
    rw [if_neg]
    simpa [isMarker] using notMarker
  · simp only [silent_withKey]

/-- A field that is no relation makes its column unique or not. -/
theorem unique_ofModelField
    {context : Context}
    {model : Schema.Model}
    {keyColumns : List String}
    {field : Schema.Field}
    {column : Column}
    (isColumn : field.isColumn = true)
    (built :
      ofModelField context model keyColumns field = .ok column) :
    column.unique = field.isUnique := by
  have notRelation : field.isRelation = false := by
    simpa [Schema.Field.isColumn] using isColumn
  unfold ofModelField at built
  rw [notRelation, if_neg Bool.false_ne_true] at built
  obtain rfl := Except.ok.inj built
  simp only [unique_withKey]
  exact unique_ofField context.document field

/-- What a relation field says about its marker. -/
theorem ofModelField_of_isRelation
    {context : Context}
    {model : Schema.Model}
    {keyColumns : List String}
    {field : Schema.Field}
    {column : Column}
    (isRelation : field.isRelation = true)
    (built :
      ofModelField context model keyColumns field = .ok column) :
    ∃ marker,
      markerOf context model field = .ok marker ∧
        column.isMarker = true ∧
        column.foreignKey = marker.foreignKey ∧
        column.silent =
          (context.fieldDirectives model.name
            field.name).silentInMigrations ∧
        column.ignored = startsIgnored column := by
  unfold ofModelField at built
  rw [isRelation, if_pos rfl] at built
  obtain ⟨marker, isMarked, rest⟩ := Outcome.bind_eq_ok_iff.mp built
  obtain rfl := Except.ok.inj rest
  have marks := isMarker_of_markerOf isMarked
  refine ⟨marker, isMarked, ?_, ?_, ?_, rfl⟩
  · simpa only [isMarker, kind_withKey] using marks
  · simp only [foreignKey_withKey]
  · simp only [silent_withKey]

/-- Relation fields have markers, and all other fields have columns. -/
theorem isMarker_ofModelField
    {context : Context}
    {model : Schema.Model}
    {keyColumns : List String}
    {field : Schema.Field}
    {column : Column}
    (built :
      ofModelField context model keyColumns field = .ok column) :
    column.isMarker = !field.isColumn := by
  cases isColumn : field.isColumn with
  | true => exact (ofModelField_of_isColumn isColumn built).1
  | false =>
      have isRelation : field.isRelation = true := by
        simpa [Schema.Field.isColumn] using isColumn
      obtain ⟨_, _, marks, _⟩ := ofModelField_of_isRelation isRelation built
      exact marks

/-- A column or marker is silent if its field is. -/
theorem silent_ofModelField
    {context : Context}
    {model : Schema.Model}
    {keyColumns : List String}
    {field : Schema.Field}
    {column : Column}
    (built :
      ofModelField context model keyColumns field = .ok column) :
    column.silent =
      (context.fieldDirectives model.name
        field.name).silentInMigrations := by
  unfold ofModelField at built
  split at built
  · obtain ⟨_, _, rest⟩ := Outcome.bind_eq_ok_iff.mp built
    obtain rfl := Except.ok.inj rest
    simp only [silent_withKey]
  · obtain rfl := Except.ok.inj built
    simp only [silent_withKey]

/-- A column or marker has the comment of its field. -/
theorem comment_ofModelField
    {context : Context}
    {model : Schema.Model}
    {keyColumns : List String}
    {field : Schema.Field}
    {column : Column}
    (built :
      ofModelField context model keyColumns field = .ok column) :
    column.comment =
      (context.fieldDirectives model.name field.name).comment := by
  unfold ofModelField at built
  split at built
  · obtain ⟨_, _, rest⟩ := Outcome.bind_eq_ok_iff.mp built
    obtain rfl := Except.ok.inj rest
    simp only [comment_withKey]
  · obtain rfl := Except.ok.inj built
    simp only [comment_withKey]

/-- Only the marker of a field has a foreign key. -/
theorem foreignKey_ofModelField
    {context : Context}
    {model : Schema.Model}
    {keyColumns : List String}
    {field : Schema.Field}
    {column : Column}
    (built :
      ofModelField context model keyColumns field = .ok column)
    (isColumn : column.isMarker = false) :
    column.foreignKey = none := by
  unfold ofModelField at built
  split at built
  · obtain ⟨marker, isBuilt, rest⟩ := Outcome.bind_eq_ok_iff.mp built
    obtain rfl := Except.ok.inj rest
    have marks := isMarker_of_markerOf isBuilt
    simp only [isMarker, kind_withKey] at isColumn marks
    rw [isColumn] at marks
    cases marks
  · obtain rfl := Except.ok.inj built
    simp only [foreignKey_withKey]
    exact foreignKey_ofField context.document field

end Column

/-! ## Tables -/

/-- The marker of a relation field can be made if the target is known. -/
theorem Column.exists_markerOf
    (context : Context)
    (model : Schema.Model)
    {field : Schema.Field}
    (known :
      ∃ target, context.document.targetOf model.name field = .ok target) :
    ∃ column, markerOf context model field = .ok column := by
  obtain ⟨target, isTarget⟩ := known
  unfold markerOf
  simp only [isTarget, bind, Except.bind]
  split
  · exact ⟨_, rfl⟩
  · exact ⟨_, rfl⟩

/-- The table of a model can be built if the targets of its relation fields
are known. -/
theorem Table.exists_ofModel
    {context : Context}
    {model : Schema.Model}
    (known :
      ∀ field ∈ model.relationFields, ∃ target,
        context.document.targetOf model.name field = .ok target) :
    ∃ table, ofModel context model = .ok table := by
  have built :
      ∀ field ∈ model.fields, ∃ column,
        Column.ofModelField context model model.primaryKeyColumns field =
          .ok column := by
    intro field member
    unfold Column.ofModelField
    by_cases isRelation : field.isRelation = true
    · obtain ⟨marker, isMarker⟩ :=
        Column.exists_markerOf context model
          (known field (List.mem_filter.mpr ⟨member, isRelation⟩))
      simp only [isRelation, ↓reduceIte, isMarker, bind, Except.bind]
      exact ⟨_, rfl⟩
    · simp only [isRelation, Bool.false_eq_true, ↓reduceIte, bind,
        Except.bind]
      exact ⟨_, rfl⟩
  obtain ⟨columns, areColumns⟩ := Outcome.exists_mapM_eq_ok built
  unfold ofModel
  rw [areColumns]
  exact ⟨_, rfl⟩

/-- Only markers have foreign keys in the table of a model. -/
theorem Table.foreignKey_ofModel
    {context : Context}
    {model : Schema.Model}
    {table : Table}
    (built : ofModel context model = .ok table) :
    ∀ column ∈ table.columns,
      column.isMarker = false → column.foreignKey = none := by
  obtain ⟨columns, fromFields, rest⟩ := Outcome.bind_eq_ok_iff.mp built
  obtain rfl := Except.ok.inj rest
  intro column member isColumn
  obtain ⟨field, _, fromField⟩ :=
    Outcome.exists_of_mem_mapM fromFields member
  exact Column.foreignKey_ofModelField fromField isColumn

/-- The columns of a table are those of the fields that are columns, with the
names that these have. -/
theorem Table.map_name_ofModel
    {context : Context}
    {model : Schema.Model}
    {table : Table}
    (built : ofModel context model = .ok table) :
    (table.columns.filter (fun column => !column.isMarker)).map
        Column.name =
      model.columns.map Schema.Field.columnName := by
  obtain ⟨columns, fromFields, rest⟩ := Outcome.bind_eq_ok_iff.mp built
  obtain rfl := Except.ok.inj rest
  refine Outcome.map_filter_eq_of_mapM fromFields ?_
  intro field _ column made
  refine ⟨by simp [Column.isMarker_ofModelField made], ?_⟩
  intro isColumn
  exact (Column.ofModelField_of_isColumn isColumn made).2.1

/-- The primary key of a table consists of the key columns of the model, if
none of them is silent. -/
theorem Table.primaryNames_ofModel
    {context : Context}
    {model : Schema.Model}
    {table : Table}
    (built : ofModel context model = .ok table)
    (shown :
      ∀ field ∈ model.fields,
        field.columnName ∈ model.primaryKeyColumns →
        (context.fieldDirectives model.name
          field.name).silentInMigrations = false) :
    table.primaryNames =
      (model.columns.map Schema.Field.columnName).filter
        model.primaryKeyColumns.contains := by
  obtain ⟨columns, fromFields, rest⟩ := Outcome.bind_eq_ok_iff.mp built
  obtain rfl := Except.ok.inj rest
  rw [primaryNames_eq, List.filter_map, Schema.Model.columns,
    List.filter_filter]
  refine Outcome.map_filter_eq_of_mapM fromFields ?_
  intro field member column made
  have marks := Column.isMarker_ofModelField made
  cases isColumn : field.isColumn with
  | true =>
      obtain ⟨_, named, primary, silent⟩ :=
        Column.ofModelField_of_isColumn isColumn made
      refine ⟨?_, fun _ => named⟩
      by_cases isKey : field.columnName ∈ model.primaryKeyColumns
      · rw [shown field member isKey] at silent
        simp [isKeyColumn, marks, primary, silent, isColumn]
      · simp [isKeyColumn, primary, isKey]
  | false => simp [isKeyColumn, marks, isColumn]

/-- A relation that owns a foreign key has an active marker with that key,
unless a directive speaks against it. -/
theorem Table.exists_marker_of_isOwning
    {context : Context}
    {model : Schema.Model}
    {table : Table}
    (built : ofModel context model = .ok table)
    {field : Schema.Field}
    (member : field ∈ model.fields)
    (owning : field.isOwning = true)
    (shown :
      (context.fieldDirectives model.name
        field.name).silentInMigrations = false)
    (enforced :
      (context.fieldDirectives model.name
        field.name).localInMigrations = false)
    (hasColumns : model.columnsOf field.relationFromFields ≠ []) :
    ∃ target marker key,
      context.document.targetOf model.name field = .ok target ∧
        marker ∈ table.columns ∧
        marker.isMarker = true ∧
        marker.ignored = false ∧
        marker.owningKey? = some key ∧
        key.localColumns = model.columnsOf field.relationFromFields ∧
        key.references = target.columnsOf field.relationToFields ∧
        key.targetTable = target.tableName := by
  obtain ⟨columns, fromFields, rest⟩ := Outcome.bind_eq_ok_iff.mp built
  obtain rfl := Except.ok.inj rest
  obtain ⟨column, inTable, made⟩ :=
    Outcome.exists_result_of_mem_mapM fromFields member
  have isRelation : field.isRelation = true :=
    (Bool.and_eq_true_iff.mp owning).1
  obtain ⟨marker, isMarked, marks, sameKey, silent, ignored⟩ :=
    Column.ofModelField_of_isRelation isRelation made
  unfold Column.markerOf at isMarked
  rw [owning, Bool.not_true, if_neg Bool.false_ne_true] at isMarked
  obtain ⟨target, isTarget, isMarked⟩ := Outcome.bind_eq_ok_iff.mp isMarked
  obtain rfl := Except.ok.inj isMarked
  simp only at sameKey
  refine ⟨target, column, _, isTarget, inTable, marks, ?_,
    Column.owningKey?_eq_some_iff.mpr ⟨sameKey, ?_⟩, rfl, rfl, rfl⟩
  · rw [ignored, Column.startsIgnored, silent, shown, sameKey]
    simp [enforced]
  · simp [enforced, hasColumns]

end Tablewright
