import Tablewright.Proofs.Migration.Pivot

namespace Tablewright.Migration

/-!
# One junction model for each table

The implicit relations of all models are grouped by their junction tables.
The first relation of a group decides where its table stands and what its
junction model is made from; only the timestamps are asked for by the group as
a whole.
-/

open Schema Tablewright.Relation

/-- The junction tables of implicit relations, one for each relation. -/
def tablesOf (relations : List Implicit) : List String :=
  relations.map (fun found => found.junction.table)

/-! ## Groups -/

/-- The first relations stand in the order in which their tables first
appear. -/
theorem pairwise_idxOf_firstOfTables
    (seen : List String)
    (relations : List Implicit) :
    (tablesOf (firstOfTables seen relations)).Pairwise
      (fun earlier later =>
        (tablesOf relations).idxOf earlier <
          (tablesOf relations).idxOf later) := by
  induction relations generalizing seen with
  | nil => exact List.Pairwise.nil
  | cons first rest inductionHypothesis =>
      -- Behind the head every table has moved on by one position.
      have moved :
          ∀ {seen : List String},
            first.junction.table ∈ seen →
            (tablesOf (firstOfTables seen rest)).Pairwise
              (fun earlier later =>
                (tablesOf (first :: rest)).idxOf earlier <
                  (tablesOf (first :: rest)).idxOf later) := by
        intro seen known
        refine (inductionHypothesis seen).imp_of_mem ?_
        intro earlier later earlierIn laterIn less
        have apart :
            ∀ table ∈ tablesOf (firstOfTables seen rest),
              first.junction.table ≠ table := by
          rintro table member rfl
          obtain ⟨found, isFirst, sameTable⟩ := List.mem_map.mp member
          exact (mem_firstOfTables isFirst).2 (sameTable ▸ known)
        rw [tablesOf, List.map_cons,
          List.idxOf_cons_ne _ (apart earlier earlierIn),
          List.idxOf_cons_ne _ (apart later laterIn)]
        exact Nat.succ_lt_succ less
      rw [firstOfTables]
      by_cases known : seen.contains first.junction.table = true
      · rw [if_pos known]
        exact moved (by simpa using known)
      · rw [if_neg known]
        refine List.pairwise_cons.mpr
          ⟨?_, moved List.mem_cons_self⟩
        intro table member
        obtain ⟨found, isFirst, rfl⟩ := List.mem_map.mp member
        have apart : first.junction.table ≠ found.junction.table := by
          intro sameTable
          exact (mem_firstOfTables isFirst).2
            (sameTable ▸ List.mem_cons_self)
        rw [tablesOf, List.map_cons, List.idxOf_cons_self,
          List.idxOf_cons_ne _ apart]
        exact Nat.succ_pos _

/-- The first relation of a table is the one that a search for the table
finds. -/
theorem find?_of_mem_firstOfTables
    {seen : List String}
    {relations : List Implicit}
    {first : Implicit}
    (member : first ∈ firstOfTables seen relations) :
    relations.find?
        (fun found => found.junction.table == first.junction.table) =
      some first := by
  induction relations generalizing seen with
  | nil => cases member
  | cons head rest inductionHypothesis =>
      rw [firstOfTables] at member
      by_cases known : seen.contains head.junction.table = true
      · rw [if_pos known] at member
        have apart : head.junction.table ≠ first.junction.table := by
          intro sameTable
          exact (mem_firstOfTables member).2
            (sameTable ▸ by simpa using known)
        rw [List.find?_cons_of_neg (by simpa using apart)]
        exact inductionHypothesis member
      · rw [if_neg known] at member
        rcases List.mem_cons.mp member with rfl | later
        · exact List.find?_cons_of_pos (by simp)
        · have apart : head.junction.table ≠ first.junction.table := by
            intro sameTable
            exact (mem_firstOfTables later).2
              (sameTable ▸ List.mem_cons_self)
          rw [List.find?_cons_of_neg (by simpa using apart)]
          exact inductionHypothesis later

/-! ## Timestamps -/

/-- A junction model has the pair of timestamps right behind its key
columns. -/
def IsStamped (pivot : Model) : Prop :=
  ∃ keys rest,
    pivot.fields = keys ++ timestampFields ++ rest ∧
      pivot.primaryKey = some { fields := keys.map Field.name }

/-- Behind the key columns and the timestamps there are only relations, so
the pair of timestamps is present just if it was put there. -/
theorem isStamped_joined_iff
    {table : String}
    {timestamps : Bool}
    {sides : List (Side × List (String × Field))} :
    IsStamped (joined table timestamps sides) ↔ timestamps = true := by
  have named :
      ((sides.flatMap Prod.snd).map
          (fun key => keyColumn key.1 key.2)).map Field.name =
        (sides.flatMap Prod.snd).map Prod.fst := by
    rw [List.map_map]
    rfl
  constructor
  · rintro ⟨keys, rest, fields, key⟩
    by_contra unstamped
    rw [Bool.not_eq_true] at unstamped
    subst unstamped
    simp only [joined, Bool.false_eq_true, ↓reduceIte, List.append_nil,
      List.append_assoc, Option.some.injEq, PrimaryKey.mk.injEq,
      true_and] at fields key
    -- The declared key tells how many fields stand in front.
    have sameLength := congrArg List.length (named.trans key)
    have behind :=
      (List.append_inj fields (by simpa using sameLength)).2
    have isRelation :
        (Field.scalar "created_at" "DateTime").optional ∈
          sides.map (fun entry => entry.1.relationField table entry.2) := by
      rw [behind]
      exact List.mem_append_left _ List.mem_cons_self
    obtain ⟨entry, _, same⟩ := List.mem_map.mp isRelation
    cases congrArg Field.kind same
  · rintro rfl
    exact ⟨_, _, rfl, by rw [named]; rfl⟩

theorem isStamped_pivotModel_iff
    {document : Document}
    {implicit : Implicit}
    {timestamps : Bool}
    {pivot : Model}
    (made : pivotModel document implicit timestamps = .ok pivot) :
    IsStamped pivot ↔ timestamps = true := by
  obtain ⟨_, _, _, _, _, _, _, rfl⟩ := pivotModel_eq_ok made
  exact isStamped_joined_iff

/-- The fields of a junction model are not documented. -/
theorem documentation_of_pivotModel
    {document : Document}
    {implicit : Implicit}
    {timestamps : Bool}
    {pivot : Model}
    (made : pivotModel document implicit timestamps = .ok pivot)
    (field : Field)
    (member : field ∈ pivot.fields) :
    field.documentation = none := by
  obtain ⟨_, _, _, _, _, _, _, rfl⟩ := pivotModel_eq_ok made
  simp only [joined, List.mem_append, List.mem_map] at member
  rcases member with (⟨key, _, rfl⟩ | stamp) | ⟨entry, _, rfl⟩
  · rfl
  · split at stamp
    · rcases List.mem_pair.mp stamp with rfl | rfl <;> rfl
    · cases stamp
  · rfl

theorem name_of_pivotModel
    {document : Document}
    {implicit : Implicit}
    {timestamps : Bool}
    {pivot : Model}
    (made : pivotModel document implicit timestamps = .ok pivot) :
    pivot.name = Naming.pascal implicit.junction.table := by
  obtain ⟨_, _, _, _, _, _, _, rfl⟩ := pivotModel_eq_ok made
  rfl

theorem wantsTimestamps_iff
    {relations : List Implicit}
    {table : String} :
    wantsTimestamps relations table = true ↔
      ∃ found ∈ relations,
        found.junction.table = table ∧
          found.junction.timestamps = true := by
  simp [wantsTimestamps]

/-! ## Synthesized models -/

/--
Synthesis makes one junction model for each table that some implicit relation
with a junction goes through, in the order in which these tables first
appear.  Each model is made from the first relation through its table.  It has
the pair of timestamps just if some relation through the table, of any model,
asks for them.
-/
theorem synthesizePivots_groups_relations
    {document : Document}
    {registries : List (String × Registry)}
    {pivots : List Model}
    (synthesized : synthesizePivots document registries = .ok pivots) :
    (pivots.map Model.tableName).Nodup ∧
      (∀ table,
        table ∈ pivots.map Model.tableName ↔
          ∃ entry ∈ registries, ∃ relation ∈ entry.2.relations,
            ∃ junction,
              relation.kind = .belongsToManyImplicit ∧
                relation.junction = some junction ∧
                junction.table = table) ∧
      (pivots.map Model.tableName).Pairwise
        (fun earlier later =>
          (tablesOf (implicitRelations registries)).idxOf earlier <
            (tablesOf (implicitRelations registries)).idxOf later) ∧
      ∀ pivot ∈ pivots,
        (∃ first timestamps,
          (implicitRelations registries).find?
              (fun found => found.junction.table == pivot.tableName) =
            some first ∧
          pivotModel document first timestamps = .ok pivot) ∧
        (IsStamped pivot ↔
          ∃ entry ∈ registries, ∃ relation ∈ entry.2.relations,
            ∃ junction,
              relation.kind = .belongsToManyImplicit ∧
                relation.junction = some junction ∧
                junction.table = pivot.tableName ∧
                junction.timestamps = true) := by
  have tables := map_tableName_synthesizePivots synthesized
  have unfolded :
      ∀ property : Junction → Prop,
        (∃ found ∈ implicitRelations registries,
          property found.junction) ↔
          ∃ entry ∈ registries, ∃ relation ∈ entry.2.relations,
            ∃ junction,
              relation.kind = .belongsToManyImplicit ∧
                relation.junction = some junction ∧
                property junction := by
    intro property
    constructor
    · rintro ⟨found, member, holds⟩
      obtain ⟨registry, inRegistries, declared, implicit, through⟩ :=
        mem_implicitRelations_iff.mp member
      exact ⟨_, inRegistries, _, declared, _, implicit, through, holds⟩
    · rintro ⟨⟨model, registry⟩, inRegistries, relation, declared,
        junction, implicit, through, holds⟩
      exact ⟨⟨model, relation, junction⟩,
        mem_implicitRelations_iff.mpr
          ⟨registry, inRegistries, declared, implicit, through⟩, holds⟩
  refine ⟨?nodup, ?members, ?order, ?each⟩
  case nodup =>
    rw [tables]
    exact nodup_tables_firstOfTables _ _
  case members =>
    intro table
    rw [tables, List.mem_map,
      ← unfolded (fun junction => junction.table = table)]
    constructor
    · rintro ⟨first, isFirst, sameTable⟩
      exact ⟨first, (mem_firstOfTables isFirst).1, sameTable⟩
    · rintro ⟨found, member, rfl⟩
      exact exists_mem_firstOfTables member List.not_mem_nil
  case order =>
    rw [tables]
    exact pairwise_idxOf_firstOfTables [] _
  case each =>
    intro pivot member
    obtain ⟨first, isFirst, made⟩ :=
      Outcome.exists_of_mem_mapM synthesized member
    have sameTable := tableName_of_pivotModel made
    refine ⟨⟨first, _, ?_, made⟩, ?_⟩
    · rw [sameTable]
      exact find?_of_mem_firstOfTables isFirst
    · rw [isStamped_pivotModel_iff made, wantsTimestamps_iff,
        ← unfolded (fun junction =>
          junction.table = pivot.tableName ∧
            junction.timestamps = true), sameTable]

/-- A relation through a junction table between posts and tags. -/
def sharedTags (name target : String) (junction : Junction) :
    Definition :=
  { name := name
    kind := .belongsToManyImplicit
    target := some target
    foreignKeys := ["id"]
    localKeys := ["id"]
    junction := some junction }

/-- Posts have tags and followers; only the tags ask for timestamps on the
table that they share with the posts. -/
def taggedRegistries : List (String × Registry) :=
  [ ("Post",
      { relations :=
          [ sharedTags "tags" "Tag"
              { table := "Post_Tag"
                ownKeys := ["post_id"]
                relatedKeys := ["tag_id"] },
            sharedTags "followers" "User"
              { table := "Post_User"
                ownKeys := ["post_id"]
                relatedKeys := ["user_id"] } ] }),
    ("Tag",
      { relations :=
          [ sharedTags "posts" "Post"
              { table := "Post_Tag"
                ownKeys := ["tag_id"]
                relatedKeys := ["post_id"]
                timestamps := true } ] }) ]

/-- The posts, tags and users that the relations stem from. -/
def taggedDocument : Document :=
  { models :=
      ["Post", "Tag", "User"].map fun name =>
        { name := name, fields := [.autoincrementId] } }

/-- Posts and tags share one table.  It stands in front, since a post
mentions it first, and it has the timestamps that only the tags ask for. -/
theorem synthesizePivots_groups_relations_tagged :
    ∃ pivots,
      synthesizePivots taggedDocument taggedRegistries = .ok pivots ∧
        pivots.map Model.tableName = ["Post_Tag", "Post_User"] ∧
        (pivots.map Model.tableName).Nodup ∧
        ∃ pivot ∈ pivots,
          pivot.tableName = "Post_Tag" ∧
            pivot.primaryKeyColumns = ["post_id", "tag_id"] ∧
            IsStamped pivot := by
  have synthesized :
      (synthesizePivots taggedDocument taggedRegistries).map
          (fun pivots =>
            pivots.map fun pivot =>
              (pivot.tableName, pivot.primaryKeyColumns)) =
        .ok
          [ ("Post_Tag", ["post_id", "tag_id"]),
            ("Post_User", ["post_id", "user_id"]) ] := by
    decide +kernel
  obtain ⟨pivots, synthesized, shapes⟩ :=
    Outcome.map_eq_ok_iff.mp synthesized
  obtain ⟨nodup, _, _, each⟩ :=
    synthesizePivots_groups_relations synthesized
  have tables := congrArg (List.map Prod.fst) shapes
  rw [List.map_map] at tables
  have inFront :
      ("Post_Tag", ["post_id", "tag_id"]) ∈
        pivots.map fun pivot =>
          (pivot.tableName, pivot.primaryKeyColumns) := by
    rw [shapes]
    exact List.mem_cons_self
  obtain ⟨pivot, member, shape⟩ := List.mem_map.mp inFront
  obtain ⟨isTable, isKey⟩ := Prod.mk.inj shape
  refine ⟨pivots, synthesized, tables, nodup, pivot, member, isTable,
    isKey, (each pivot member).2.mpr ?_⟩
  rw [isTable]
  exact ⟨taggedRegistries[1], by decide, _, List.mem_cons_self, _, rfl,
    rfl, rfl, rfl⟩

end Tablewright.Migration
