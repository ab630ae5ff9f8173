import Mathlib.Data.List.Nodup
import Tablewright.Migration.Pivot
import Tablewright.Proofs.Relation.Inference

namespace Tablewright.Migration

/-!
# Synthesized junction models

One junction model is made for each junction table.  It has a key column for
every key column of the two sides, and its two relations refer to these
sides.
-/

open Schema Tablewright.Relation

/-! ## First relations -/

theorem mem_firstOfTables
    {seen : List String}
    {relations : List Implicit}
    {found : Implicit}
    (member : found ∈ firstOfTables seen relations) :
    found ∈ relations ∧ found.junction.table ∉ seen := by
  induction relations generalizing seen with
  | nil => cases member
  | cons first rest inductionHypothesis =>
      rw [firstOfTables] at member
      by_cases known : seen.contains first.junction.table = true
      · rw [if_pos known] at member
        obtain ⟨later, fresh⟩ := inductionHypothesis member
        exact ⟨List.mem_cons_of_mem _ later, fresh⟩
      · rw [if_neg known] at member
        rcases List.mem_cons.mp member with rfl | member
        · exact ⟨List.mem_cons_self, by simpa using known⟩
        · obtain ⟨later, fresh⟩ := inductionHypothesis member
          exact ⟨List.mem_cons_of_mem _ later, fun inSeen =>
            fresh (List.mem_cons_of_mem _ inSeen)⟩

/-- No two of the first relations have the same table. -/
theorem nodup_tables_firstOfTables
    (seen : List String)
    (relations : List Implicit) :
    ((firstOfTables seen relations).map
      (fun found => found.junction.table)).Nodup := by
  induction relations generalizing seen with
  | nil => exact List.nodup_nil
  | cons first rest inductionHypothesis =>
      rw [firstOfTables]
      by_cases known : seen.contains first.junction.table = true
      · rw [if_pos known]
        exact inductionHypothesis seen
      · rw [if_neg known, List.map_cons, List.nodup_cons]
        refine ⟨?_, inductionHypothesis _⟩
        intro again
        obtain ⟨other, member, sameTable⟩ := List.mem_map.mp again
        apply (mem_firstOfTables member).2
        rw [sameTable]
        exact List.mem_cons_self

/-- Every table that has not been seen has a first relation. -/
theorem exists_mem_firstOfTables
    {seen : List String}
    {relations : List Implicit}
    {found : Implicit}
    (member : found ∈ relations)
    (fresh : found.junction.table ∉ seen) :
    ∃ first ∈ firstOfTables seen relations,
      first.junction.table = found.junction.table := by
  induction relations generalizing seen with
  | nil => cases member
  | cons first rest inductionHypothesis =>
      rw [firstOfTables]
      by_cases sameTable :
          first.junction.table = found.junction.table
      · have unseen :
            ¬ seen.contains first.junction.table = true := by
          simpa [sameTable] using fresh
        rw [if_neg unseen]
        exact ⟨first, List.mem_cons_self, sameTable⟩
      · have later : found ∈ rest := by
          rcases List.mem_cons.mp member with rfl | later
          · exact (sameTable rfl).elim
          · exact later
        by_cases known : seen.contains first.junction.table = true
        · rw [if_pos known]
          exact inductionHypothesis later fresh
        · rw [if_neg known]
          have stillFresh :
              found.junction.table ∉ first.junction.table :: seen := by
            intro inSeen
            rcases List.mem_cons.mp inSeen with same | inSeen
            · exact sameTable same.symm
            · exact fresh inSeen
          obtain ⟨earliest, isFirst, same⟩ :=
            inductionHypothesis later stillFresh
          exact ⟨earliest, List.mem_cons_of_mem _ isFirst, same⟩

theorem implicitOf?_eq_some_iff
    {model : String}
    {relation : Definition}
    {found : Implicit} :
    implicitOf? model relation = some found ↔
      found.model = model ∧
        found.relation = relation ∧ relation.Through found.junction := by
  unfold implicitOf? Definition.Through
  by_cases implicit : relation.kind = .belongsToManyImplicit
  · rw [if_pos implicit, Option.map_eq_some_iff]
    constructor
    · rintro ⟨junction, through, rfl⟩
      exact ⟨rfl, rfl, implicit, through⟩
    · rintro ⟨rfl, rfl, _, through⟩
      exact ⟨found.junction, through, rfl⟩
  · rw [if_neg implicit]
    constructor
    · intro absent
      cases absent
    · rintro ⟨_, _, isImplicit, _⟩
      exact (implicit isImplicit).elim

theorem mem_implicitRelations_iff
    {registries : List (String × Registry)}
    {found : Implicit} :
    found ∈ implicitRelations registries ↔
      ∃ registry,
        (found.model, registry) ∈ registries ∧
          found.relation ∈ registry.relations ∧
            found.relation.Through found.junction := by
  simp only [implicitRelations, List.mem_flatMap, List.mem_filterMap,
    implicitOf?_eq_some_iff]
  constructor
  · rintro ⟨⟨_, registry⟩, inRegistries, _, declared, rfl, rfl, through⟩
    exact ⟨registry, inRegistries, declared, through⟩
  · rintro ⟨registry, inRegistries, declared, through⟩
    exact ⟨_, inRegistries, _, declared, rfl, rfl, through⟩

/-! ## Junction models -/

theorem tableName_of_pivotModel
    {document : Document}
    {implicit : Implicit}
    {timestamps : Bool}
    {pivot : Model}
    (made : pivotModel document implicit timestamps = .ok pivot) :
    pivot.tableName = implicit.junction.table := by
  obtain ⟨_, _, made⟩ := Outcome.bind_eq_ok_iff.mp made
  obtain ⟨_, _, made⟩ := Outcome.bind_eq_ok_iff.mp made
  obtain ⟨_, _, made⟩ := Outcome.bind_eq_ok_iff.mp made
  obtain rfl := Except.ok.inj made
  rfl

/-- The tables of the junction models are those of the first relations. -/
theorem map_tableName_synthesizePivots
    {document : Document}
    {registries : List (String × Registry)}
    {junctions : List Model}
    (synthesized :
      synthesizePivots document registries = .ok junctions) :
    junctions.map Model.tableName =
      (firstOfTables [] (implicitRelations registries)).map
        (fun found => found.junction.table) :=
  Outcome.map_eq_of_mapM synthesized fun _ _ =>
    tableName_of_pivotModel

/-! ## Sides -/

namespace Side

variable {side : Side}

/-- What a side is to the relation that goes through the junction table. -/
def junctionSide (side : Side) : JunctionSide :=
  ⟨side.columns, side.referenced, side.model.tableName⟩

theorem keyOf_eq_ok
    {column : String}
    {key : Field}
    (found : side.keyOf column = .ok key) :
    key ∈ side.model.fields ∧
      key.isColumn = true ∧ key.columnName = column := by
  unfold keyOf Inconsistency.orFail at found
  split at found
  · rename_i held
    obtain rfl := Except.ok.inj found
    have fits := List.find?_some held
    simp only [Bool.and_eq_true, beq_iff_eq] at fits
    exact ⟨List.mem_of_find?_eq_some held, fits⟩
  · cases found

/-- The key columns of a side, each with the field of the model that it
refers to. -/
structure Keyed
    (side : Side)
    (keys : List (String × Field)) : Prop where
  names_eq : keys.map Prod.fst = side.columns
  referenced_eq :
    (keys.map Prod.snd).map Field.columnName = side.referenced
  mem_fields : ∀ key ∈ keys, key.2 ∈ side.model.fields
  isColumn : ∀ key ∈ keys, key.2.isColumn = true

theorem keyed_of_keys
    {keys : List (String × Field)}
    (found : side.keys = .ok keys)
    (sameLength : side.columns.length = side.referenced.length) :
    side.Keyed keys := by
  have ofPair :
      ∀ (pair : String × String) (key : String × Field),
        (do
          let field ← side.keyOf pair.2
          return (pair.1, field) : Outcome (String × Field)) = .ok key →
        key.1 = pair.1 ∧
          key.2 ∈ side.model.fields ∧
            key.2.isColumn = true ∧ key.2.columnName = pair.2 := by
    intro pair key made
    obtain ⟨_, isKey, made⟩ := Outcome.bind_eq_ok_iff.mp made
    obtain rfl := Except.ok.inj made
    exact ⟨rfl, keyOf_eq_ok isKey⟩
  refine ⟨?_, ?_, ?_, ?_⟩
  · rw [← List.map_fst_zip (Nat.le_of_eq sameLength)]
    exact Outcome.map_eq_of_mapM found fun pair key made =>
      (ofPair pair key made).1
  · rw [List.map_map, ← List.map_snd_zip (Nat.le_of_eq sameLength.symm)]
    exact Outcome.map_eq_of_mapM found fun pair key made =>
      (ofPair pair key made).2.2.2
  · intro key member
    obtain ⟨pair, _, made⟩ := Outcome.exists_of_mem_mapM found member
    exact (ofPair pair key made).2.1
  · intro key member
    obtain ⟨pair, _, made⟩ := Outcome.exists_of_mem_mapM found member
    exact (ofPair pair key made).2.2.1

end Side

/-- The names of the relations of a junction model to two models. -/
def accessors (own related : String) : List String :=
  [ Naming.camel own,
    if own = related then "related" ++ Naming.pascal related
    else Naming.camel related ]

theorem accessors_comm (own related : String) :
    (accessors own related).Perm (accessors related own) := by
  by_cases same : own = related
  · rw [same]
  · have renamed : ¬ related = own := fun back => same back.symm
    rw [accessors, accessors, if_neg same, if_neg renamed]
    exact List.Perm.swap _ _ _

theorem sidesOf_eq_ok
    {document : Document}
    {implicit : Implicit}
    {own related : Side}
    (found : sidesOf document implicit = .ok (own, related)) :
    document.model? implicit.model = some own.model ∧
      (∃ name,
        implicit.relation.target = some name ∧
          document.model? name = some related.model) ∧
      [own, related].map Side.junctionSide =
        implicit.junction.sides implicit.relation own.model.tableName
          related.model.tableName ∧
      [own, related].map Side.accessor =
        accessors own.model.name related.model.name := by
  obtain ⟨owner, isOwner, found⟩ := Outcome.bind_eq_ok_iff.mp found
  cases isTarget : implicit.relation.target with
  | none =>
      simp only [isTarget] at found
      cases found
  | some name =>
      simp only [isTarget] at found
      obtain ⟨_, same, found⟩ := Outcome.bind_eq_ok_iff.mp found
      obtain rfl := Except.ok.inj same
      obtain ⟨target, isModel, found⟩ := Outcome.bind_eq_ok_iff.mp found
      obtain ⟨rfl, rfl⟩ := Prod.mk.inj (Except.ok.inj found)
      exact ⟨Document.requireModel_eq_ok_iff.mp isOwner,
        ⟨name, rfl, Document.requireModel_eq_ok_iff.mp isModel⟩, rfl,
        rfl⟩

/-! ## Columns and relations of a junction model -/

/-- The names of the timestamps of a junction table. -/
def timestampNames (timestamps : Bool) : List String :=
  if timestamps then ["created_at", "updated_at"] else []

/-- The timestamps of a table are those that some relation through it asks
for. -/
theorem exists_of_mem_timestampNames
    {relations : List Implicit}
    {table stamp : String}
    (member :
      stamp ∈ timestampNames (wantsTimestamps relations table)) :
    ∃ found ∈ relations,
      found.junction.table = table ∧
        stamp ∈ timestampNames found.junction.timestamps := by
  cases wants : wantsTimestamps relations table with
  | false =>
      rw [wants] at member
      cases member
  | true =>
      obtain ⟨found, isFound, asks⟩ := List.any_eq_true.mp wants
      simp only [Bool.and_eq_true, beq_iff_eq] at asks
      rw [wants] at member
      exact ⟨found, isFound, asks.1, asks.2 ▸ member⟩

/-- A model of a junction table has the key columns of its sides, and a
relation for each side, whose foreign key consists of those columns. -/
structure Bridges
    (pivot : Model)
    (table : String)
    (timestamps : Bool)
    (sides : List Side) : Prop where
  name_eq : pivot.name = Naming.pascal table
  tableName_eq : pivot.tableName = table
  columnNames_eq :
    pivot.columns.map Field.columnName =
      sides.flatMap Side.columns ++ timestampNames timestamps
  primaryKeyColumns_eq :
    pivot.primaryKeyColumns = sides.flatMap Side.columns
  plain : ∀ field ∈ pivot.fields, field.dbName = none
  exists_relation :
    ∀ side ∈ sides, ∃ field ∈ pivot.fields,
      field.isOwning = true ∧
        field.name = side.accessor ∧
        field.typeName = side.model.name ∧
        pivot.columnsOf field.relationFromFields = side.columns ∧
        side.model.columnsOf field.relationToFields = side.referenced

/-- Columns that are named like their fields are found under these names. -/
theorem columnsOf_eq_self
    {model : Model}
    (plain : ∀ field ∈ model.fields, field.dbName = none)
    (names : List String) :
    model.columnsOf names = names := by
  have itself : ∀ name ∈ names, model.columnOf name = id name := by
    intro name _
    unfold Model.columnOf
    cases found : model.field? name with
    | none => rfl
    | some field =>
        have named : field.name = name := by
          simpa using List.find?_some found
        have unmapped := plain field (List.mem_of_find?_eq_some found)
        simp [Field.columnName, unmapped, named]
  rw [Model.columnsOf, List.map_congr_left itself, List.map_id]

theorem primaryKeyFields_of_declared
    {model : Model}
    {key : PrimaryKey}
    (declared : model.primaryKey = some key)
    (nonempty : key.fields ≠ []) :
    model.primaryKeyFields = key.fields := by
  simp [Model.primaryKeyFields, declared, nonempty]

/-- The columns of fields of a model, found under the names of the
fields. -/
theorem columnsOf_map_name
    {document : Document}
    (distinct : document.Distinct)
    {model : Model}
    (inDocument : model ∈ document.models)
    {fields : List Field}
    (members : ∀ field ∈ fields, field ∈ model.fields) :
    model.columnsOf (fields.map Field.name) =
      fields.map Field.columnName := by
  unfold Model.columnsOf
  rw [List.map_map]
  apply List.map_congr_left
  intro field member
  have found := distinct.field?_eq_some inDocument (members field member)
  simp [Model.columnOf, found]

/-- The junction model of some sides with their key columns. -/
def joined
    (table : String)
    (timestamps : Bool)
    (sides : List (Side × List (String × Field))) : Model :=
  { name := Naming.pascal table
    dbName := some table
    fields :=
      (sides.flatMap Prod.snd).map (fun key => keyColumn key.1 key.2) ++
        (if timestamps then timestampFields else []) ++
        sides.map (fun entry => entry.1.relationField table entry.2)
    primaryKey :=
      some { fields := (sides.flatMap Prod.snd).map Prod.fst } }

theorem pivotModel_eq_ok
    {document : Document}
    {implicit : Implicit}
    {timestamps : Bool}
    {pivot : Model}
    (made : pivotModel document implicit timestamps = .ok pivot) :
    ∃ own related ownKeys relatedKeys,
      sidesOf document implicit = .ok (own, related) ∧
        own.keys = .ok ownKeys ∧
        related.keys = .ok relatedKeys ∧
        pivot =
          joined implicit.junction.table timestamps
            [(own, ownKeys), (related, relatedKeys)] := by
  obtain ⟨⟨own, related⟩, isSides, made⟩ :=
    Outcome.bind_eq_ok_iff.mp made
  obtain ⟨ownKeys, areOwn, made⟩ := Outcome.bind_eq_ok_iff.mp made
  obtain ⟨relatedKeys, areRelated, made⟩ :=
    Outcome.bind_eq_ok_iff.mp made
  obtain rfl := Except.ok.inj made
  refine ⟨own, related, ownKeys, relatedKeys, isSides, areOwn,
    areRelated, ?_⟩
  simp [joined]

section Joined

variable {table : String} {timestamps : Bool}
variable {sides : List (Side × List (String × Field))}

theorem dbName_of_mem_joined
    {field : Field}
    (member : field ∈ (joined table timestamps sides).fields) :
    field.dbName = none := by
  simp only [joined, List.mem_append, List.mem_map] at member
  rcases member with (⟨key, _, rfl⟩ | stamp) | ⟨entry, _, rfl⟩
  · rfl
  · split at stamp
    · rcases List.mem_pair.mp stamp with rfl | rfl <;> rfl
    · cases stamp
  · rfl

theorem map_columnName_joined
    (areColumns :
      ∀ entry ∈ sides, ∀ key ∈ entry.2, key.2.isColumn = true) :
    (joined table timestamps sides).columns.map Field.columnName =
      (sides.flatMap Prod.snd).map Prod.fst ++
        timestampNames timestamps := by
  have keyColumns :
      ((sides.flatMap Prod.snd).map
          (fun key => keyColumn key.1 key.2)).filter Field.isColumn =
        (sides.flatMap Prod.snd).map
          (fun key => keyColumn key.1 key.2) := by
    rw [List.filter_eq_self]
    intro field member
    obtain ⟨key, isKey, rfl⟩ := List.mem_map.mp member
    obtain ⟨entry, inSides, isKey⟩ := List.mem_flatMap.mp isKey
    exact areColumns entry inSides key isKey
  have keyNames :
      ((sides.flatMap Prod.snd).map
          (fun key => keyColumn key.1 key.2)).map Field.columnName =
        (sides.flatMap Prod.snd).map Prod.fst := by
    rw [List.map_map]
    rfl
  have timestampColumns :
      ((if timestamps then timestampFields else []).filter
          Field.isColumn).map Field.columnName =
        timestampNames timestamps := by
    cases timestamps <;> rfl
  have noRelation :
      (sides.map
          (fun entry => entry.1.relationField table entry.2)).filter
            Field.isColumn = [] := by
    rw [List.filter_eq_nil_iff]
    intro field member isColumn
    obtain ⟨entry, _, rfl⟩ := List.mem_map.mp member
    cases isColumn
  rw [Model.columns, joined, List.filter_append, List.filter_append,
    keyColumns, noRelation, List.append_nil, List.map_append, keyNames,
    timestampColumns]

theorem bridges_joined
    {document : Document}
    (distinct : document.Distinct)
    (nonempty : sides ≠ [])
    (inDocument : ∀ entry ∈ sides, entry.1.model ∈ document.models)
    (keyed : ∀ entry ∈ sides, entry.1.Keyed entry.2)
    (hasColumns : ∀ entry ∈ sides, entry.1.columns ≠ []) :
    Bridges (joined table timestamps sides) table timestamps
      (sides.map Prod.fst) := by
  have keyNames :
      (sides.flatMap Prod.snd).map Prod.fst =
        (sides.map Prod.fst).flatMap Side.columns := by
    rw [List.map_flatMap, List.flatMap_map]
    exact List.flatMap_congr fun entry member =>
      (keyed entry member).names_eq
  have plain :
      ∀ names,
        (joined table timestamps sides).columnsOf names = names :=
    columnsOf_eq_self fun _ => dbName_of_mem_joined
  refine ⟨rfl, rfl, ?_, ?_, fun _ => dbName_of_mem_joined, ?_⟩
  · rw [← keyNames]
    exact map_columnName_joined fun entry member =>
      (keyed entry member).isColumn
  · have hasKey : (sides.flatMap Prod.snd).map Prod.fst ≠ [] := by
      rw [keyNames]
      obtain ⟨entry, member⟩ := List.exists_mem_of_ne_nil sides nonempty
      intro empty
      exact hasColumns entry member
        (List.flatMap_eq_nil_iff.mp empty _ (List.mem_map_of_mem member))
    have declared :
        (joined table timestamps sides).primaryKey =
          some { fields := (sides.flatMap Prod.snd).map Prod.fst } := rfl
    rw [Model.primaryKeyColumns, plain, ← keyNames,
      primaryKeyFields_of_declared declared hasKey]
  · intro side member
    obtain ⟨⟨side, keys⟩, inSides, rfl⟩ := List.mem_map.mp member
    have isKeyed := keyed _ inSides
    refine ⟨side.relationField table keys, ?_, ?_, rfl, rfl, ?_, ?_⟩
    · exact List.mem_append_right _ (List.mem_map_of_mem inSides)
    · have hasOwn := hasColumns _ inSides
      rw [← isKeyed.names_eq] at hasOwn
      simpa [Field.isOwning, Side.relationField, Field.deleting,
        Field.references, Field.inRelation, Field.relation,
        Field.ofKind, Field.isRelation] using hasOwn
    · rw [plain]
      exact isKeyed.names_eq
    · have members :
          ∀ field ∈ keys.map Prod.snd, field ∈ side.model.fields := by
        intro field isField
        obtain ⟨key, isKey, rfl⟩ := List.mem_map.mp isField
        exact isKeyed.mem_fields key isKey
      rw [← isKeyed.referenced_eq,
        ← columnsOf_map_name distinct (inDocument _ inSides) members,
        List.map_map]
      rfl

end Joined

/-- The junction model that is made for an implicit relation. -/
theorem bridges_of_pivotModel
    {document : Document}
    (distinct : document.Distinct)
    {implicit : Implicit}
    {timestamps : Bool}
    {pivot : Model}
    (made : pivotModel document implicit timestamps = .ok pivot)
    (sameLength :
      implicit.junction.ownKeys.length =
          implicit.relation.localKeys.length ∧
        implicit.junction.relatedKeys.length =
          implicit.relation.foreignKeys.length)
    (hasOwn : implicit.junction.ownKeys ≠ [])
    (hasRelated : implicit.junction.relatedKeys ≠ []) :
    ∃ own related,
      sidesOf document implicit = .ok (own, related) ∧
        Bridges pivot implicit.junction.table timestamps
          [own, related] := by
  obtain ⟨own, related, ownKeys, relatedKeys, isSides, areOwn, areRelated,
    rfl⟩ := pivotModel_eq_ok made
  obtain ⟨isOwner, ⟨name, _, isTarget⟩, sides, _⟩ :=
    sidesOf_eq_ok isSides
  simp only [List.map_cons, List.map_nil, Side.junctionSide,
    Junction.sides, List.cons.injEq, JunctionSide.mk.injEq, and_true]
    at sides
  obtain ⟨⟨ownColumns, ownReferenced⟩, relatedColumns,
    relatedReferenced⟩ := sides
  rw [← ownColumns, ← ownReferenced, ← relatedColumns,
    ← relatedReferenced] at sameLength
  rw [← ownColumns] at hasOwn
  rw [← relatedColumns] at hasRelated
  have bridges :
      Bridges
        (joined implicit.junction.table timestamps
          [(own, ownKeys), (related, relatedKeys)])
        implicit.junction.table timestamps
        ([(own, ownKeys), (related, relatedKeys)].map Prod.fst) := by
    apply bridges_joined distinct (List.cons_ne_nil _ _)
    · intro entry member
      rcases List.mem_pair.mp member with rfl | rfl
      · exact (Document.mem_of_model? isOwner).1
      · exact (Document.mem_of_model? isTarget).1
    · intro entry member
      rcases List.mem_pair.mp member with rfl | rfl
      · exact Side.keyed_of_keys areOwn sameLength.1
      · exact Side.keyed_of_keys areRelated sameLength.2
    · intro entry member
      rcases List.mem_pair.mp member with rfl | rfl
      · exact hasOwn
      · exact hasRelated
  exact ⟨own, related, isSides, bridges⟩

end Tablewright.Migration
