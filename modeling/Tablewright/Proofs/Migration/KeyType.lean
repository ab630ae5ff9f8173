import Tablewright.Proofs.Column.Storage
import Tablewright.Proofs.Context
import Tablewright.Proofs.Generator.Failure

namespace Tablewright

/-!
# Types of junction keys

A key column of a junction table is made from the field of the key that it
refers to.  It takes over what is stored, but not the counting of the key, and
with it goes the sign: a key that counts upwards has none, and the column that
refers to it has one.
-/

open Schema Tablewright.Relation

/-! ## Named columns -/

/-- The first column of a table, markers aside, with a name. -/
def Table.named? (table : Table) (name : String) : Option Column :=
  table.columns.find? fun column =>
    !column.isMarker && column.name == name

/-- The first column of a name is that of the first field with a column of the
name. -/
theorem Table.exists_named?
    {context : Context}
    {model : Model}
    {table : Table}
    (built : ofModel context model = .ok table)
    {name : String}
    {field : Field}
    (found :
      model.fields.find? (fun field =>
        field.isColumn && field.columnName == name) = some field) :
    ∃ column,
      table.named? name = some column ∧
        Column.ofModelField context model model.primaryKeyColumns field =
          .ok column := by
  obtain ⟨columns, fromFields, rest⟩ := Outcome.bind_eq_ok_iff.mp built
  obtain rfl := Except.ok.inj rest
  refine Outcome.exists_find?_of_forall₂
    (Outcome.mapM_eq_ok_iff.mp fromFields) ?_ found
  intro other column made
  rw [Column.isMarker_ofModelField made, Bool.not_not]
  cases isColumn : other.isColumn with
  | true =>
      obtain ⟨_, named, _⟩ := Column.ofModelField_of_isColumn isColumn made
      rw [named]
  | false => rfl

namespace Migration

/-! ## Key columns -/

/-- Whether the application generates the identifiers of a key. -/
def IsIdentifier (key : Field) : Prop :=
  key.generatorName? = some "uuid" ∨ key.generatorName? = some "ulid"

theorem generatorName?_of_defaultValue
    {key : Field}
    {name : String}
    {arguments : List Json.Value}
    (given : key.defaultValue = some (.generator name arguments)) :
    key.generatorName? = some name := by
  rw [Field.generatorName?, given]

/-- A key column has the default of its key if the application generates the
identifiers of the key, and no default otherwise. -/
theorem defaultValue_keyColumn
    (name : String)
    (key : Field) :
    IsIdentifier key ∧
        (keyColumn name key).defaultValue = key.defaultValue ∨
      ¬ IsIdentifier key ∧ (keyColumn name key).defaultValue = none := by
  by_cases identifies : IsIdentifier key
  · exact .inl ⟨identifies, if_pos identifies⟩
  · exact .inr ⟨identifies, if_neg identifies⟩

/-- A key column stores what its key stores. -/
theorem sameKind_keyColumn
    (document : Document)
    (name : String)
    (key : Field) :
    Column.SameKind (Column.ofField document (keyColumn name key))
        (Column.ofField document key) ∧
      (Column.storedAs document (keyColumn name key)).unsigned =
        (Column.storedAs document key).unsigned := by
  obtain ⟨sameKind, sameSign⟩ :=
    Column.storedAs_congr document
      (show (keyColumn name key).kind = key.kind from rfl) rfl rfl
  refine ⟨?_, sameSign⟩
  rw [Column.ofField_eq, Column.ofField_eq]
  rcases defaultValue_keyColumn name key with
    ⟨_, kept⟩ | ⟨noIdentifier, dropped⟩
  · rw [kept]
    exact sameKind.withFieldDefault key.defaultValue
  · rw [dropped]
    refine sameKind.trans (Column.sameKind_withFieldDefault _ ?_).symm
    intro generator arguments given
    have named := generatorName?_of_defaultValue given
    exact ⟨fun isUuid => noIdentifier (.inl (isUuid ▸ named)),
      fun isUlid => noIdentifier (.inr (isUlid ▸ named))⟩

/-- A key column does not count. -/
theorem autoIncrement_keyColumn
    (document : Document)
    (name : String)
    (key : Field) :
    (Column.ofField document (keyColumn name key)).autoIncrement =
      false := by
  rw [Column.ofField_eq, ← Column.autoIncrement_storedAs document
    (keyColumn name key)]
  apply Column.autoIncrement_withFieldDefault
  rintro generator arguments given rfl
  rcases defaultValue_keyColumn name key with ⟨identifies, kept⟩ | ⟨_, dropped⟩
  · have named := generatorName?_of_defaultValue (kept.symm.trans given)
    rcases identifies with isUuid | isUlid
    · exact absurd (named.symm.trans isUuid) (by decide)
    · exact absurd (named.symm.trans isUlid) (by decide)
  · cases dropped.symm.trans given

/-- A column of a junction table stores what the key that it refers to stores,
up to the sign of a key that counts. -/
structure FollowsKey (column key : Column) : Prop where
  isKey : key.primary = true
  sameKind : Column.SameKind column key
  unsigned_eq :
    key.unsigned =
      (column.unsigned || (key.autoIncrement && key.kind.isInteger))

/-- The column and the key have the same sign just if the key does not count
or is declared without sign. -/
theorem FollowsKey.unsigned_iff
    {column key : Column}
    (follows : FollowsKey column key) :
    column.unsigned = key.unsigned ↔
      (key.autoIncrement = true → key.kind.isInteger = true →
        column.unsigned = true) := by
  rw [follows.unsigned_eq]
  cases column.unsigned <;> cases key.autoIncrement <;> simp

/-- The column that is made for a key follows the key. -/
theorem followsKey_of_built
    {context : Context}
    {pivot model : Model}
    {pivotKey : List String}
    {name : String}
    {field : Field}
    {column key : Column}
    (isColumn : field.isColumn = true)
    (inKey : field.columnName ∈ model.primaryKeyColumns)
    (built :
      Column.ofModelField context pivot pivotKey (keyColumn name field) =
        .ok column)
    (keyBuilt :
      Column.ofModelField context model model.primaryKeyColumns field =
        .ok key) :
    FollowsKey column key := by
  obtain ⟨stores, count, sign⟩ :=
    Column.sameKind_ofModelField
      (show (keyColumn name field).isColumn = true from isColumn) built
  obtain ⟨keyStores, keyCount, keySign⟩ :=
    Column.sameKind_ofModelField isColumn keyBuilt
  obtain ⟨sameKind, sameSign⟩ :=
    sameKind_keyColumn context.document name field
  have uncounted := autoIncrement_keyColumn context.document name field
  have isKey : key.primary = true := by
    obtain ⟨_, _, primary, _⟩ :=
      Column.ofModelField_of_isColumn isColumn keyBuilt
    rw [primary]
    simpa using inKey
  refine ⟨isKey, (stores.trans sameKind).trans keyStores.symm, ?_⟩
  rw [keySign, isKey, Bool.true_and, sign, count, uncounted, sameSign]
  simp

/-! ## Sides -/

/-- The columns of a junction table that refer to a model, with the key columns
of the model that they refer to. -/
structure Refers
    (context : Context)
    (pivot : Model)
    (columns : List Column)
    (target : Model)
    (keys : List Column) : Prop where
  inDocument : target ∈ context.document.models
  exists_relation :
    ∃ field ∈ pivot.relationFields,
      field.typeName = target.name ∧
        field.relationFromFields = columns.map Column.name ∧
        target.columnsOf field.relationToFields = target.primaryKeyColumns
  exists_table :
    ∃ table,
      Table.ofModel context target = .ok table ∧
        target.primaryKeyColumns.map table.named? = keys.map some

/-- The field of a key is the first column field with its column name. -/
theorem Side.find?_of_keys
    {side : Side}
    {keys : List (String × Field)}
    (found : side.keys = .ok keys)
    {key : String × Field}
    (member : key ∈ keys) :
    side.model.fields.find? (fun field =>
      field.isColumn && field.columnName == key.2.columnName) =
        some key.2 := by
  obtain ⟨pair, _, made⟩ := Outcome.exists_of_mem_mapM found member
  obtain ⟨field, isKey, made⟩ := Outcome.bind_eq_ok_iff.mp made
  obtain rfl := Except.ok.inj made
  obtain ⟨_, _, named⟩ := keyOf_eq_ok isKey
  rw [named]
  unfold keyOf Inconsistency.orFail at isKey
  split at isKey
  · rename_i held
    rw [held, Except.ok.inj isKey]
  · cases isKey

/-- Columns of a junction table are made for named keys. -/
def MadeFor
    (context : Context)
    (pivot : Model)
    (keys : List (String × Field))
    (columns : List Column) : Prop :=
  List.Forall₂
    (fun key column =>
      Column.ofModelField context pivot pivot.primaryKeyColumns
        (keyColumn key.1 key.2) = .ok column)
    keys columns

/-- The columns that are made for keys have the names that stand beside the
keys. -/
theorem MadeFor.map_name_eq
    {context : Context}
    {pivot : Model}
    {keys : List (String × Field)}
    {columns : List Column}
    (made : MadeFor context pivot keys columns)
    (areColumns : ∀ key ∈ keys, key.2.isColumn = true) :
    keys.map Prod.fst = columns.map Column.name := by
  have itself : List.Forall₂ Eq keys keys :=
    List.forall₂_same.mpr fun _ _ => rfl
  refine Outcome.map_eq_map_of_forall₂
    (Outcome.forall₂_of_common itself made ?_)
  rintro key member _ column rfl columnBuilt
  have isColumn : (keyColumn key.1 key.2).isColumn = true :=
    areColumns key member
  obtain ⟨_, named, _⟩ :=
    Column.ofModelField_of_isColumn isColumn columnBuilt
  exact named.symm

/-- The columns that are made for the keys of a side refer to its model, and
follow the key of it. -/
theorem exists_refers
    {context : Context}
    (closed : context.document.Closed)
    {side : Side}
    (isModel :
      context.document.model? side.model.name = some side.model)
    {keys : List (String × Field)}
    (found : side.keys = .ok keys)
    (keyed : side.Keyed keys)
    (wholeKey : side.referenced = side.model.primaryKeyColumns)
    {pivot : Model}
    {tableName : String}
    (related : side.relationField tableName keys ∈ pivot.fields)
    {columns : List Column}
    (made : MadeFor context pivot keys columns) :
    ∃ keyColumns,
      Refers context pivot columns side.model keyColumns ∧
        List.Forall₂ FollowsKey columns keyColumns := by
  have inDocument := (Document.mem_of_model? isModel).1
  obtain ⟨table, built⟩ :=
    Generator.exists_table rfl (closed.model side.model inDocument)
  obtain ⟨keyColumns, areKeys⟩ := Outcome.exists_forall₂ fun key member =>
    Table.exists_named? built (Side.find?_of_keys found member)
  have referenced :
      keys.map (fun key => key.2.columnName) =
        side.model.primaryKeyColumns := by
    rw [← wholeKey, ← keyed.referenced_eq, List.map_map]
    rfl
  have inKey : ∀ key ∈ keys,
      key.2.columnName ∈ side.model.primaryKeyColumns := by
    intro key member
    rw [← referenced]
    exact List.mem_map_of_mem member
  refine ⟨keyColumns, ⟨inDocument,
    ⟨side.relationField tableName keys, ?related, rfl, ?names, ?targets⟩,
    ⟨table, built, ?keys⟩⟩, ?follow⟩
  case related => exact List.mem_filter.mpr ⟨related, rfl⟩
  case names => exact made.map_name_eq keyed.isColumn
  case targets =>
    have members :
        ∀ field ∈ keys.map Prod.snd, field ∈ side.model.fields := by
      intro field isField
      obtain ⟨key, isKey, rfl⟩ := List.mem_map.mp isField
      exact keyed.mem_fields key isKey
    rw [← wholeKey, ← keyed.referenced_eq,
      ← columnsOf_map_name closed.toDistinct inDocument members,
      List.map_map]
    rfl
  case keys =>
    rw [← referenced, List.map_map]
    exact Outcome.map_eq_map_of_forall₂
      (areKeys.imp fun _ _ isKey => isKey.1)
  case follow =>
    refine Outcome.forall₂_of_common made areKeys ?_
    rintro key member column keyColumn columnBuilt ⟨_, keyBuilt⟩
    exact followsKey_of_built (keyed.isColumn key member)
      (inKey key member) columnBuilt keyBuilt

/-- The sides of a relation that has been inferred are models of the document,
and their key columns refer to the keys of these models. -/
theorem keys_of_sidesOf
    {options : Options}
    {document : Document}
    (distinct : document.Distinct)
    {registries : List (String × Registry)}
    (inferred : inferDocument options document = .ok registries)
    {implicit : Implicit}
    (member : implicit ∈ implicitRelations registries)
    {own related : Side}
    (areSides : sidesOf document implicit = .ok (own, related)) :
    ∀ side ∈ [own, related],
      side.columns.length = side.referenced.length ∧
        side.referenced = side.model.primaryKeyColumns := by
  obtain ⟨_, _, _, _, through⟩ := mem_implicitRelations_iff.mp member
  obtain ⟨model, isModel, target, targetIn, joins⟩ :=
    joins_of_mem_implicitRelations inferred member
  obtain ⟨first, second, found, rfl, ownKey, rfl, relatedKey⟩ :=
    exists_sidesOf isModel (distinct.model?_eq_some targetIn) joins
  obtain ⟨rfl, rfl⟩ :=
    Prod.mk.inj (Except.ok.inj (areSides.symm.trans found))
  obtain ⟨_, _, sides, _⟩ := sidesOf_eq_ok areSides
  simp only [List.map_cons, List.map_nil, Side.junctionSide,
    Junction.sides, List.cons.injEq, JunctionSide.mk.injEq, and_true]
    at sides
  obtain ⟨⟨ownColumns, ownReferenced⟩, relatedColumns,
    relatedReferenced⟩ := sides
  obtain ⟨ownLength, relatedLength⟩ := joins.length_eq through
  intro side isSide
  rcases List.mem_pair.mp isSide with rfl | rfl
  · exact ⟨by rw [ownColumns, ownReferenced, ownLength], ownKey⟩
  · exact ⟨by rw [relatedColumns, relatedReferenced, relatedLength],
      relatedKey⟩

/-- A junction model has a relation to each side. -/
theorem relationField_mem_joined
    {tableName : String}
    {timestamps : Bool}
    {sides : List (Side × List (String × Field))}
    {entry : Side × List (String × Field)}
    (member : entry ∈ sides) :
    entry.1.relationField tableName entry.2 ∈
      (joined tableName timestamps sides).fields :=
  List.mem_append_right _ (List.mem_map_of_mem member)

/-- The table of a junction model starts with the columns for the keys of its
two sides. -/
theorem exists_columns_of_joined
    {context : Context}
    {tableName : String}
    {timestamps : Bool}
    {own related : Side × List (String × Field)}
    {pivot : Model}
    (isJoined : pivot = joined tableName timestamps [own, related])
    {table : Table}
    (built : Table.ofModel context pivot = .ok table) :
    ∃ ownColumns relatedColumns rest,
      table.columns = ownColumns ++ relatedColumns ++ rest ∧
        MadeFor context pivot own.2 ownColumns ∧
        MadeFor context pivot related.2 relatedColumns := by
  have fields :
      pivot.fields =
        own.2.map (fun key => keyColumn key.1 key.2) ++
          (related.2.map (fun key => keyColumn key.1 key.2) ++
            ((if timestamps then timestampFields else []) ++
              [own, related].map fun entry =>
                entry.1.relationField tableName entry.2)) := by
    simp [isJoined, joined]
  obtain ⟨columns, fromFields, same⟩ := Outcome.bind_eq_ok_iff.mp built
  obtain rfl := Except.ok.inj same
  rw [fields] at fromFields
  obtain ⟨ownColumns, others, ownBuilt, othersBuilt, rfl⟩ :=
    Outcome.mapM_append_eq_ok_iff.mp fromFields
  obtain ⟨relatedColumns, rest, relatedBuilt, _, rfl⟩ :=
    Outcome.mapM_append_eq_ok_iff.mp othersBuilt
  rw [Outcome.mapM_eq_ok_iff, List.forall₂_map_left_iff]
    at ownBuilt relatedBuilt
  exact ⟨ownColumns, relatedColumns, rest, by simp, ownBuilt,
    relatedBuilt⟩

/--
Junction keys are typed like the keys that they refer to, up to the sign of a
key that counts.

The table of a junction model starts with the columns that refer to the two
models, and its primary key consists of these columns.  Each of them has the
kind, the arguments and the values of the key column that it refers to.  It has
the same sign as well, just if that key column does not count upwards as an
integer or is declared without sign.
-/
theorem synthesizePivots_typed_iff
    {document : Document}
    (valid : document.validate.errors = [])
    (settings : Settings)
    {options : Options}
    {registries : List (String × Registry)}
    (inferred : inferDocument options document = .ok registries)
    {pivots : List Model}
    (synthesized : synthesizePivots document registries = .ok pivots) :
    ∃ context,
      Context.ofDocument document settings = .ok context ∧
        ∀ pivot ∈ pivots,
          ∃ own related ownColumns relatedColumns ownKeys relatedKeys table
              rest,
            Table.ofModel context pivot = .ok table ∧
              table.columns = ownColumns ++ relatedColumns ++ rest ∧
              pivot.primaryKey =
                some { fields :=
                  (ownColumns ++ relatedColumns).map Column.name } ∧
              Refers context pivot ownColumns own ownKeys ∧
              Refers context pivot relatedColumns related relatedKeys ∧
              List.Forall₂
                (fun column key =>
                  key.primary = true ∧
                    column.kind = key.kind ∧
                    column.arguments = key.arguments ∧
                    column.enumValues = key.enumValues ∧
                    (column.unsigned = key.unsigned ↔
                      (key.autoIncrement = true →
                        key.kind.isInteger = true →
                          column.unsigned = true)))
                (ownColumns ++ relatedColumns)
                (ownKeys ++ relatedKeys) := by
  have closed := Document.closed_of_valid valid
  obtain ⟨context, opened⟩ := Context.exists_ofDocument closed settings
  obtain rfl := (Context.documented_of_ofDocument opened).1
  refine ⟨context, opened, ?_⟩
  intro pivot member
  obtain ⟨implicit, isFirst, made⟩ :=
    Outcome.exists_of_mem_mapM synthesized member
  obtain ⟨table, built⟩ :=
    Generator.exists_table rfl (closedIn_of_pivotModel closed made)
  obtain ⟨own, related, ownKeys, relatedKeys, areSides, areOwn, areRelated,
    rfl⟩ := pivotModel_eq_ok made
  have inImplicit := (mem_firstOfTables isFirst).1
  have isKey :=
    keys_of_sidesOf closed.toDistinct inferred inImplicit areSides
  have isModel := model?_of_sidesOf areSides
  have ownKeyed := Side.keyed_of_keys areOwn (isKey own (by simp)).1
  have relatedKeyed :=
    Side.keyed_of_keys areRelated (isKey related (by simp)).1
  obtain ⟨ownColumns, relatedColumns, rest, starts, madeOwn, madeRelated⟩ :=
    exists_columns_of_joined rfl built
  obtain ⟨ownKeyColumns, ownRefers, ownFollows⟩ :=
    exists_refers closed (isModel own (by simp)) areOwn ownKeyed
      (isKey own (by simp)).2
      (relationField_mem_joined List.mem_cons_self) madeOwn
  obtain ⟨relatedKeyColumns, relatedRefers, relatedFollows⟩ :=
    exists_refers closed (isModel related (by simp)) areRelated relatedKeyed
      (isKey related (by simp)).2
      (relationField_mem_joined
        (List.mem_cons_of_mem _ List.mem_cons_self)) madeRelated
  refine ⟨own.model, related.model, ownColumns, relatedColumns,
    ownKeyColumns, relatedKeyColumns, table, rest, built, starts, ?_,
    ownRefers, relatedRefers, ?_⟩
  · rw [List.map_append, ← madeOwn.map_name_eq ownKeyed.isColumn,
      ← madeRelated.map_name_eq relatedKeyed.isColumn]
    simp [joined]
  · refine (List.rel_append ownFollows relatedFollows).imp ?_
    intro column key follows
    exact ⟨follows.isKey, follows.sameKind.kind_eq,
      follows.sameKind.arguments_eq, follows.sameKind.enumValues_eq,
      follows.unsigned_iff⟩

/-- A post with a short number. -/
def countedPost : Model :=
  { name := "Post"
    fields :=
      [ Field.autoincrementId.withNative "SmallInt" [],
        (Field.relation "tags" "Tag").list ] }

/-- Posts that are counted, and tags that have identifiers. -/
def countedDocument : Document :=
  { models :=
      [ countedPost,
        { name := "Tag"
          fields :=
            [ (Field.scalar "id" "String").id.withGenerator "uuid" [],
              (Field.relation "posts" "Post").list ] } ] }

/-- Both keys of the junction table of posts and tags follow the keys of the
models. -/
theorem synthesizePivots_typed_iff_counted :
    countedDocument.validate.errors = [] ∧
      ∃ registries pivots context,
        inferDocument {} countedDocument = .ok registries ∧
          synthesizePivots countedDocument registries = .ok pivots ∧
          pivots.map Model.tableName = ["Post_Tag"] ∧
          Context.ofDocument countedDocument {} = .ok context ∧
          ∀ pivot ∈ pivots,
            ∃ (table : Table) (columns rest keys : List Column),
              Table.ofModel context pivot = .ok table ∧
                table.columns = columns ++ rest ∧
                pivot.primaryKey =
                  some { fields := columns.map Column.name } ∧
                List.Forall₂
                  (fun column key =>
                    column.kind = key.kind ∧
                      (column.unsigned = key.unsigned ↔
                        (key.autoIncrement = true →
                          key.kind.isInteger = true →
                            column.unsigned = true)))
                  columns keys := by
  have valid : countedDocument.validate.errors = [] := by decide +kernel
  have made :
      ((inferDocument {} countedDocument >>=
          synthesizePivots countedDocument).map
            (List.map Model.tableName)) =
        .ok ["Post_Tag"] := by
    decide +kernel
  obtain ⟨pivots, made, names⟩ := Outcome.map_eq_ok_iff.mp made
  obtain ⟨registries, inferred, synthesized⟩ :=
    Outcome.bind_eq_ok_iff.mp made
  obtain ⟨context, opened, typed⟩ :=
    synthesizePivots_typed_iff valid {} inferred synthesized
  refine ⟨valid, registries, pivots, context, inferred, synthesized, names,
    opened, ?_⟩
  intro pivot member
  obtain ⟨_, _, own, related, ownKeys, relatedKeys, table, rest, built,
    starts, key, _, _, follow⟩ := typed pivot member
  refine ⟨table, own ++ related, rest, ownKeys ++ relatedKeys, built, starts,
    key, follow.imp ?_⟩
  rintro column keyColumn ⟨_, kind, _, _, sign⟩
  exact ⟨kind, sign⟩

/-- The kind and the sign of a column in the table of a model. -/
def storedIn (context : Context) (model : Model) (name : String) :
    Outcome (Option (Column.Kind × Bool)) :=
  (Table.ofModel context model).map fun table =>
    (table.named? name).map fun column => (column.kind, column.unsigned)

/-- The number of a post has no sign, and the column of the junction table that
refers to it has one. -/
theorem exists_key_of_other_sign :
    countedDocument.validate.errors = [] ∧
      ∃ context registries pivot,
        Context.ofDocument countedDocument {} = .ok context ∧
          inferDocument {} countedDocument = .ok registries ∧
          synthesizePivots countedDocument registries = .ok [pivot] ∧
          (∃ field ∈ pivot.relationFields,
            field.typeName = "Post" ∧
              field.relationFromFields = ["post_id"] ∧
              field.relationToFields = ["id"]) ∧
          countedPost.primaryKeyColumns = ["id"] ∧
          storedIn context pivot "post_id" =
            .ok (some (.smallInteger, false)) ∧
          storedIn context countedPost "id" =
            .ok (some (.smallInteger, true)) := by
  have valid : countedDocument.validate.errors = [] := by decide +kernel
  let context : Context := ⟨countedDocument, {}, [], []⟩
  have opened : Context.ofDocument countedDocument {} = .ok context := by
    decide +kernel
  let pivot : Model :=
    { name := "PostTag"
      dbName := some "Post_Tag"
      fields :=
        [ (Field.scalar "post_id" "Int").withNative "SmallInt" [],
          (Field.scalar "tag_id" "String").withGenerator "uuid" [],
          (((Field.relation "post" "Post").inRelation
            "Post_Tag_post").references ["post_id"] ["id"]).deleting
              .cascade,
          (((Field.relation "tag" "Tag").inRelation
            "Post_Tag_tag").references ["tag_id"] ["id"]).deleting
              .cascade ]
      primaryKey := some { fields := ["post_id", "tag_id"] } }
  have made :
      (inferDocument {} countedDocument >>=
          synthesizePivots countedDocument) =
        .ok [pivot] := by
    decide +kernel
  obtain ⟨registries, inferred, synthesized⟩ :=
    Outcome.bind_eq_ok_iff.mp made
  exact ⟨valid, context, registries, pivot, opened, inferred, synthesized,
    by decide, by decide, by decide +kernel, by decide +kernel⟩

end Migration

end Tablewright
