import Tablewright.Proofs.Column.Builder

namespace Tablewright.Column

/-!
# What columns store

The kind of a column, its arguments and its values are settled by the field,
whatever table the column is in.  Its sign is settled by the table as well,
because an integer key that counts upwards has none.
-/

open Schema

/-- Two columns store the same values, up to their sign. -/
structure SameKind (column other : Column) : Prop where
  kind_eq : column.kind = other.kind
  arguments_eq : column.arguments = other.arguments
  enumValues_eq : column.enumValues = other.enumValues

namespace SameKind

variable {first second third : Column}

theorem symm
    (same : SameKind first second) :
    SameKind second first :=
  ⟨same.kind_eq.symm, same.arguments_eq.symm, same.enumValues_eq.symm⟩

theorem trans
    (same : SameKind first second)
    (further : SameKind second third) :
    SameKind first third :=
  ⟨same.kind_eq.trans further.kind_eq,
    same.arguments_eq.trans further.arguments_eq,
    same.enumValues_eq.trans further.enumValues_eq⟩

end SameKind

/-! ## Defaults -/

/-- A default changes what a column stores only by its kind. -/
theorem withFieldDefault_keeps
    (column : Column)
    (given : Option DefaultValue) :
    (column.withFieldDefault given).arguments = column.arguments ∧
      (column.withFieldDefault given).enumValues = column.enumValues ∧
      (column.withFieldDefault given).unsigned = column.unsigned := by
  obtain ⟨_, _, _, same, _⟩ := exists_withFieldDefault column given
  rw [same]
  exact ⟨rfl, rfl, rfl⟩

/-- The default of a field acts on columns of one kind in the same way. -/
theorem SameKind.withFieldDefault
    {column other : Column}
    (same : SameKind column other)
    (given : Option DefaultValue) :
    SameKind (column.withFieldDefault given)
      (other.withFieldDefault given) := by
  obtain ⟨keptArguments, keptValues, _⟩ :=
    withFieldDefault_keeps column given
  obtain ⟨otherArguments, otherValues, _⟩ :=
    withFieldDefault_keeps other given
  refine ⟨?_, ?_, ?_⟩
  · cases given with
    | none => exact same.kind_eq
    | some value =>
        cases value with
        | literal value => exact same.kind_eq
        | generator name arguments =>
            simp only [Column.withFieldDefault, same.kind_eq,
              same.arguments_eq]
            repeat' split
            all_goals rfl
  · rw [keptArguments, otherArguments, same.arguments_eq]
  · rw [keptValues, otherValues, same.enumValues_eq]

/-- Only the generators of identifiers change what a column stores. -/
theorem sameKind_withFieldDefault
    (column : Column)
    {given : Option DefaultValue}
    (plain :
      ∀ name arguments, given = some (.generator name arguments) →
        name ≠ "uuid" ∧ name ≠ "ulid") :
    SameKind (column.withFieldDefault given) column := by
  obtain ⟨keptArguments, keptValues, _⟩ :=
    withFieldDefault_keeps column given
  refine ⟨?_, keptArguments, keptValues⟩
  cases given with
  | none => rfl
  | some value =>
      cases value with
      | literal value => rfl
      | generator name arguments =>
          obtain ⟨noUuid, noUlid⟩ := plain name arguments rfl
          simp only [Column.withFieldDefault, noUuid, noUlid, false_and,
            ↓reduceIte]
          split <;> rfl

/-- Only the generator of a count makes a column count. -/
theorem autoIncrement_withFieldDefault
    (column : Column)
    {given : Option DefaultValue}
    (plain :
      ∀ name arguments, given = some (.generator name arguments) →
        name ≠ "autoincrement") :
    (column.withFieldDefault given).autoIncrement =
      column.autoIncrement := by
  cases given with
  | none => rfl
  | some value =>
      cases value with
      | literal value => rfl
      | generator name arguments =>
          have noCount := plain name arguments rfl
          simp only [withFieldDefault, noCount, ↓reduceIte]
          repeat' split
          all_goals rfl

/-! ## Fields -/

/-- The column of a field before its default is looked at. -/
def storedAs (document : Document) (field : Field) : Column :=
  ofField document { field with defaultValue := none }

theorem ofField_eq
    (document : Document)
    (field : Field) :
    ofField document field =
      (storedAs document field).withFieldDefault field.defaultValue :=
  rfl

/-- What a column stores without a default is settled by the kind and the
types of its field, and such a column does not count. -/
theorem storedAs_congr
    (document : Document)
    {field other : Field}
    (sameKind : field.kind = other.kind)
    (sameType : field.typeName = other.typeName)
    (sameNative : field.nativeType = other.nativeType) :
    SameKind (storedAs document field) (storedAs document other) ∧
      (storedAs document field).unsigned =
        (storedAs document other).unsigned := by
  simp only [storedAs, ofField, withFieldDefault, sameKind, sameType,
    sameNative]
  split
  · exact ⟨⟨rfl, rfl, rfl⟩, rfl⟩
  · exact ⟨⟨rfl, rfl, rfl⟩, rfl⟩

theorem autoIncrement_storedAs
    (document : Document)
    (field : Field) :
    (storedAs document field).autoIncrement = false := by
  simp only [storedAs, ofField, withFieldDefault]
  split <;> rfl

/-- What a field that is no relation makes its column store. -/
theorem sameKind_ofModelField
    {context : Context}
    {model : Model}
    {keyColumns : List String}
    {field : Field}
    {column : Column}
    (isColumn : field.isColumn = true)
    (built :
      ofModelField context model keyColumns field = .ok column) :
    SameKind column (ofField context.document field) ∧
      column.autoIncrement =
        (ofField context.document field).autoIncrement ∧
      column.unsigned =
        ((storedAs context.document field).unsigned ||
          (column.primary && column.autoIncrement &&
            column.kind.isInteger)) := by
  have notRelation : field.isRelation = false := by
    simpa [Field.isColumn] using isColumn
  have notMarker :=
    (isMarker_and_name_ofField context.document field).1
  obtain ⟨_, _, sign⟩ :=
    withFieldDefault_keeps (storedAs context.document field)
      field.defaultValue
  rw [← ofField_eq] at sign
  unfold ofModelField at built
  rw [notRelation, if_neg Bool.false_ne_true] at built
  obtain rfl := Except.ok.inj built
  rw [← sign]
  unfold withKey
  rw [if_neg (by simpa [isMarker] using notMarker)]
  exact ⟨⟨rfl, rfl, rfl⟩, rfl, rfl⟩

end Tablewright.Column
