import Mathlib.Data.Fintype.Card
import Mathlib.Data.Set.Finite.Basic
import Mathlib.Logic.Relation
import Tablewright.Proofs.Migration.Release
import Tablewright.Proofs.Text.Order

namespace Tablewright.Migration

open List

/-!
# Order of a batch

The migrations of a batch need each other along their foreign keys.  `placed`
lists those that the release loop reaches.  A placed migration stands behind
everything that it needs, and a migration is left out exactly when it reaches
a cycle of needs.  From these two facts follow the guarantees of `sort`: its
order is right when it succeeds, and it fails exactly when there is a cycle.
-/

/-- A migration of a batch refers to the table of another one. -/
def Needs
    (batch : List Migration)
    (referrer referenced : Migration) : Prop :=
  referrer ∈ batch ∧
    referenced ∈ batch ∧
    referenced.table ∈ referrer.dependencies

/-- Following the needs of a migration can end in a cycle. -/
def ReachesCycle
    (batch : List Migration)
    (migration : Migration) : Prop :=
  ∃ member,
    Relation.ReflTransGen (Needs batch) migration member ∧
      Relation.TransGen (Needs batch) member member

/-! ## Edges -/

/-- No migration depends on its own table. -/
theorem ne_of_mem_dependencies
    {migration : Migration}
    {target : String}
    (member : target ∈ migration.dependencies) :
    target ≠ migration.table := by
  simp only [dependencies, List.mem_filter] at member
  simpa using member.2

/-- A dependency edge is a need between two migrations of the batch. -/
theorem mem_dependencyEdges
    {batch : List Migration}
    {edge : String × String} :
    edge ∈ dependencyEdges batch ↔
      ∃ referrer referenced,
        Needs batch referrer referenced ∧
          edge = (referrer.table, referenced.table) := by
  simp only [dependencyEdges, Text.mem_firstOccurrences,
    List.mem_flatMap, edgesOf, List.mem_map, List.mem_filter,
    List.contains_iff_mem]
  constructor
  · intro given
    rcases given with ⟨referrer, referrerMember, target,
        ⟨depends, referenced, referencedMember, rfl⟩, rfl⟩
    exact ⟨referrer, referenced,
      ⟨referrerMember, referencedMember, depends⟩, rfl⟩
  · intro given
    rcases given with ⟨referrer, referenced,
        ⟨referrerMember, referencedMember, depends⟩, rfl⟩
    exact ⟨referrer, referrerMember, referenced.table,
      ⟨depends, referenced, referencedMember, rfl⟩, rfl⟩

/-- The position found for a table holds a migration of that table. -/
theorem getElem?_of_lastPosition?
    {batch : List Migration}
    {table : String}
    {position : Nat}
    (found : lastPosition? batch table = some position) :
    ∃ migration,
      batch[position]? = some migration ∧
        migration.table = table := by
  have holds := List.find?_some found
  simpa using holds

/-- Some position is found for the table of every migration of a batch. -/
theorem exists_lastPosition?
    {batch : List Migration}
    {migration : Migration}
    (member : migration ∈ batch) :
    ∃ position, lastPosition? batch migration.table = some position := by
  obtain ⟨position, held⟩ := List.mem_iff_getElem?.mp member
  have bound := (List.getElem?_eq_some_iff.mp held).1
  apply Option.isSome_iff_exists.mp
  refine List.find?_isSome.mpr ⟨position, by simpa using bound, ?_⟩
  simp [held]

/-- A position is found for one table at most. -/
theorem table_eq_of_lastPosition?
    {batch : List Migration}
    {position : Nat}
    {table other : String}
    (found : lastPosition? batch table = some position)
    (otherFound : lastPosition? batch other = some position) :
    table = other := by
  obtain ⟨_, held, rfl⟩ := getElem?_of_lastPosition? found
  obtain ⟨_, otherHeld, rfl⟩ := getElem?_of_lastPosition? otherFound
  rw [held] at otherHeld
  exact congrArg Migration.table (Option.some.inj otherHeld)

/-- An edge has a position when both of its tables have one. -/
theorem positionedEdge?_eq_some_iff
    {batch : List Migration}
    {edge : String × String}
    {positioned : Nat × Nat} :
    positionedEdge? batch edge = some positioned ↔
      lastPosition? batch edge.2 = some positioned.1 ∧
        lastPosition? batch edge.1 = some positioned.2 := by
  obtain ⟨referenced, referrer⟩ := positioned
  simp only [positionedEdge?, Option.bind_eq_bind,
    Option.bind_eq_some_iff, Option.pure_def, Option.some.injEq,
    Prod.mk.injEq]
  constructor
  · rintro ⟨_, referencedFound, _, referrerFound, rfl, rfl⟩
    exact ⟨referencedFound, referrerFound⟩
  · rintro ⟨referencedFound, referrerFound⟩
    exact ⟨_, referencedFound, _, referrerFound, rfl, rfl⟩

/-- With distinct tables, a migration is found by its table. -/
theorem lastPosition?_of_getElem?
    {batch : List Migration}
    (distinct : (batch.map Migration.table).Nodup)
    {position : Nat}
    {migration : Migration}
    (held : batch[position]? = some migration) :
    lastPosition? batch migration.table = some position := by
  obtain ⟨other, found⟩ :=
    exists_lastPosition? (List.mem_of_getElem? held)
  obtain ⟨same, otherHeld, sameTable⟩ := getElem?_of_lastPosition? found
  obtain ⟨otherBound, _⟩ := List.getElem?_eq_some_iff.mp otherHeld
  have tables :
      (batch.map Migration.table)[other]? =
        (batch.map Migration.table)[position]? := by
    simp [held, otherHeld, sameTable]
  rw [found, (List.getElem?_inj (by simpa using otherBound)
    distinct).mp tables]

/-- With distinct tables, the edges by position are the needs. -/
theorem mem_positionedEdges
    {batch : List Migration}
    (distinct : (batch.map Migration.table).Nodup)
    {edge : Nat × Nat} :
    edge ∈ positionedEdges batch ↔
      ∃ referrer referenced,
        batch[edge.2]? = some referrer ∧
          batch[edge.1]? = some referenced ∧
          Needs batch referrer referenced := by
  simp only [positionedEdges, List.mem_filterMap]
  constructor
  · intro given
    rcases given with ⟨named, member, positioned⟩
    obtain ⟨referrer, referenced, needs, rfl⟩ :=
      mem_dependencyEdges.mp member
    obtain ⟨referrerAt, referrerHeld⟩ :=
      List.mem_iff_getElem?.mp needs.1
    obtain ⟨referencedAt, referencedHeld⟩ :=
      List.mem_iff_getElem?.mp needs.2.1
    simp only [positionedEdge?,
      lastPosition?_of_getElem? distinct referrerHeld,
      lastPosition?_of_getElem? distinct referencedHeld] at positioned
    obtain rfl := Option.some.inj positioned
    exact ⟨referrer, referenced, referrerHeld, referencedHeld, needs⟩
  · intro given
    rcases given with ⟨referrer, referenced, referrerHeld, referencedHeld,
        needs⟩
    refine ⟨(referrer.table, referenced.table),
      mem_dependencyEdges.mpr ⟨referrer, referenced, needs, rfl⟩, ?_⟩
    simp [positionedEdge?,
      lastPosition?_of_getElem? distinct referrerHeld,
      lastPosition?_of_getElem? distinct referencedHeld]

/-- The edges by position are between positions of the batch. -/
theorem within_positionedEdges
    (batch : List Migration) :
    Release.Within batch.length (positionedEdges batch) := by
  intro edge member
  simp only [positionedEdges, List.mem_filterMap] at member
  obtain ⟨named, _, positioned⟩ := member
  obtain ⟨referencedFound, referrerFound⟩ :=
    positionedEdge?_eq_some_iff.mp positioned
  obtain ⟨_, referencedHeld, _⟩ :=
    getElem?_of_lastPosition? referencedFound
  obtain ⟨_, referrerHeld, _⟩ :=
    getElem?_of_lastPosition? referrerFound
  exact ⟨(List.getElem?_eq_some_iff.mp referencedHeld).1,
    (List.getElem?_eq_some_iff.mp referrerHeld).1⟩

/-! ## Placed migrations -/

/-- The migrations that the release loop reaches, in their order. -/
def placed (batch : List Migration) : List Migration :=
  (Release.final batch.length
    (positionedEdges batch)).released.filterMap
      (fun position => batch[position]?)

/-- Looking up all positions of a list in order gives the list. -/
private theorem filterMap_getElem?_range
    (items : List α) :
    (List.range items.length).filterMap
      (fun position => items[position]?) = items := by
  induction items with
  | nil =>
      rfl
  | cons item rest inductionHypothesis =>
      simpa [List.range_succ_eq_map, List.filterMap_map,
        Function.comp_def] using inductionHypothesis

/-- If all positions are released, the placed migrations are the batch. -/
theorem placed_perm
    {batch : List Migration}
    (full : batch.length ≤
      (Release.final batch.length
        (positionedEdges batch)).released.length) :
    (placed batch).Perm batch := by
  have allReleased :=
    Release.released_perm_range (within_positionedEdges batch) full
  have looked :=
    allReleased.filterMap (fun position => batch[position]?)
  rwa [filterMap_getElem?_range] at looked

section Placed

variable {batch : List Migration}

variable (distinct : (batch.map Migration.table).Nodup)

include distinct

/-- A migration is placed when its position is released. -/
theorem mem_placed_of_getElem?
    {position : Nat}
    {migration : Migration}
    (held : batch[position]? = some migration) :
    migration ∈ placed batch ↔
      position ∈
        (Release.final batch.length
          (positionedEdges batch)).released := by
  constructor
  · intro member
    obtain ⟨other, released, otherHeld⟩ :=
      List.mem_filterMap.mp member
    have same : other = position := by
      have found := lastPosition?_of_getElem? distinct held
      rw [lastPosition?_of_getElem? distinct otherHeld] at found
      exact Option.some.inj found
    exact same ▸ released
  · intro released
    exact List.mem_filterMap.mpr ⟨position, released, held⟩

/-- A migration is placed exactly when all that it needs is placed. -/
theorem mem_placed_iff
    {migration : Migration}
    (member : migration ∈ batch) :
    migration ∈ placed batch ↔
      ∀ needed, Needs batch migration needed → needed ∈ placed batch := by
  have within := within_positionedEdges batch
  obtain ⟨position, held⟩ := List.mem_iff_getElem?.mp member
  have bound := (List.getElem?_eq_some_iff.mp held).1
  rw [mem_placed_of_getElem? distinct held,
    Release.mem_released_final_iff within bound]
  constructor
  · intro released needed needs
    obtain ⟨neededAt, neededHeld⟩ :=
      List.mem_iff_getElem?.mp needs.2.1
    rw [mem_placed_of_getElem? distinct neededHeld]
    exact released (neededAt, position)
      ((mem_positionedEdges distinct).mpr
        ⟨migration, needed, held, neededHeld, needs⟩) rfl
  · rintro allPlaced ⟨source, target⟩ edgeMember rfl
    obtain ⟨referrer, referenced, referrerHeld, referencedHeld,
        needs⟩ :=
      (mem_positionedEdges distinct).mp edgeMember
    obtain rfl : migration = referrer :=
      Option.some.inj (held.symm.trans referrerHeld)
    exact (mem_placed_of_getElem? distinct referencedHeld).mp
      (allPlaced referenced needs)

/-- A placed migration stands behind everything that it needs. -/
theorem sublist_placed
    {migration needed : Migration}
    (needs : Needs batch migration needed)
    (member : migration ∈ placed batch) :
    [needed, migration] <+ placed batch := by
  have within := within_positionedEdges batch
  obtain ⟨position, held⟩ := List.mem_iff_getElem?.mp needs.1
  obtain ⟨neededAt, neededHeld⟩ :=
    List.mem_iff_getElem?.mp needs.2.1
  have released := (mem_placed_of_getElem? distinct held).mp member
  have ordered :=
    (Release.consistent_final within).ordered (neededAt, position)
      ((mem_positionedEdges distinct).mpr
        ⟨migration, needed, held, neededHeld, needs⟩) released
  have looked :=
    ordered.filterMap (fun position => batch[position]?)
  simpa only [placed, List.filterMap_cons, held, neededHeld,
    List.filterMap_nil] using looked

/-- Nothing is placed twice. -/
theorem nodup_placed : (placed batch).Nodup := by
  have within := within_positionedEdges batch
  refine (Release.nodup_released_final within).filterMap ?_
  intro first second migration firstHeld secondHeld
  have found := lastPosition?_of_getElem? distinct firstHeld
  rw [lastPosition?_of_getElem? distinct secondHeld] at found
  exact (Option.some.inj found).symm

end Placed

/-! ## Cycles -/

section Cycles

variable {batch : List Migration}
variable (distinct : (batch.map Migration.table).Nodup)

include distinct

/-- What a placed migration transitively needs is placed in front of it. -/
theorem idxOf_lt_of_transGen
    {migration needed : Migration}
    (needs : Relation.TransGen (Needs batch) migration needed)
    (member : migration ∈ placed batch) :
    needed ∈ placed batch ∧
      (placed batch).idxOf needed < (placed batch).idxOf migration := by
  have oneStep :
      ∀ {referrer referenced},
        Needs batch referrer referenced →
        referrer ∈ placed batch →
        referenced ∈ placed batch ∧
          (placed batch).idxOf referenced <
            (placed batch).idxOf referrer := by
    intro referrer referenced direct referrerPlaced
    exact ⟨(mem_placed_iff distinct direct.1).mp referrerPlaced
        referenced direct,
      Release.idxOf_lt_of_sublist (nodup_placed distinct)
        (sublist_placed distinct direct referrerPlaced)⟩
  induction needs with
  | single direct =>
      exact oneStep direct member
  | tail _ direct inductionHypothesis =>
      obtain ⟨middlePlaced, middleBefore⟩ := inductionHypothesis
      obtain ⟨lastPlaced, lastBefore⟩ := oneStep direct middlePlaced
      exact ⟨lastPlaced, lastBefore.trans middleBefore⟩

/-- A placed migration reaches no cycle. -/
theorem not_reachesCycle_of_placed
    {migration : Migration}
    (member : migration ∈ placed batch) :
    ¬ ReachesCycle batch migration := by
  intro given
  rcases given with ⟨onCycle, path, cycle⟩
  have cyclePlaced : onCycle ∈ placed batch := by
    rcases Relation.reflTransGen_iff_eq_or_transGen.mp path with
        same | longer
    · exact same ▸ member
    · exact (idxOf_lt_of_transGen distinct longer member).1
  exact Nat.lt_irrefl _
    (idxOf_lt_of_transGen distinct cycle cyclePlaced).2

/-- A migration that reaches no cycle is placed. -/
theorem placed_of_not_reachesCycle
    {migration : Migration}
    (member : migration ∈ batch)
    (free : ¬ ReachesCycle batch migration) :
    migration ∈ placed batch := by
  -- Among the finitely many migrations that reach no cycle, needing is
  -- well-founded, and a migration is placed once all that it needs is.
  let Free :=
    {item : Migration // item ∈ batch ∧ ¬ ReachesCycle batch item}
  let below : Free → Free → Prop :=
    fun needed item => Relation.TransGen (Needs batch) item.1 needed.1
  have finite : Finite Free :=
    ((List.finite_toSet batch).subset (fun _ held => held.1)).to_subtype
  have transitive : IsTrans Free below :=
    ⟨fun _ _ _ first second => second.trans first⟩
  have irreflexive : Std.Irrefl below :=
    ⟨fun item cycle =>
      item.2.2 ⟨item.1, Relation.ReflTransGen.refl, cycle⟩⟩
  have wellFounded : WellFounded below :=
    Finite.wellFounded_of_trans_of_irrefl below
  have allPlaced : ∀ item : Free, item.1 ∈ placed batch := by
    intro item
    induction item using wellFounded.induction with
    | _ item inductionHypothesis =>
        refine (mem_placed_iff distinct item.2.1).mpr ?_
        intro needed needs
        have neededFree : ¬ ReachesCycle batch needed := by
          intro given
          rcases given with ⟨onCycle, path, cycle⟩
          exact item.2.2
            ⟨onCycle, Relation.ReflTransGen.head needs path, cycle⟩
        exact inductionHypothesis
          ⟨needed, needs.2.1, neededFree⟩
          (Relation.TransGen.single needs)
  exact allPlaced ⟨migration, member, free⟩

/-- The migrations left out are exactly those that reach a cycle. -/
theorem not_mem_placed_iff
    {migration : Migration}
    (member : migration ∈ batch) :
    migration ∉ placed batch ↔ ReachesCycle batch migration := by
  constructor
  · intro leftOut
    by_contra free
    exact leftOut (placed_of_not_reachesCycle distinct member free)
  · intro reaches memberPlaced
    exact not_reachesCycle_of_placed distinct memberPlaced reaches

end Cycles

/-! ## Sorting -/

/-- The outcome of sorting: a trivial batch as it is, all migrations as they
were placed, or the failure of a batch that could not be placed as a whole. -/
theorem sort_cases
    (batch : List Migration) :
    (batch.length ≤ 1 ∧ sort batch = .ok batch) ∨
      ((placed batch).Perm batch ∧ sort batch = .ok (placed batch)) ∨
      ((Release.final batch.length
          (positionedEdges batch)).released.length < batch.length ∧
        sort batch =
          .error (cycleFailure batch
            (Release.final batch.length
              (positionedEdges batch)).released)) := by
  by_cases trivialBatch : batch.length ≤ 1
  · exact Or.inl ⟨trivialBatch, by simp [sort, trivialBatch]⟩
  · by_cases leftOver :
        (Release.final batch.length
          (positionedEdges batch)).released.length < batch.length
    · exact Or.inr (Or.inr
        ⟨leftOver, by simp [sort, trivialBatch, leftOver]⟩)
    · exact Or.inr (Or.inl
        ⟨placed_perm (not_lt.mp leftOver),
          by simp [sort, trivialBatch, leftOver, placed]⟩)

/-- A migration and what it needs are two migrations. -/
theorem Needs.ne
    {batch : List Migration}
    {referrer referenced : Migration}
    (needs : Needs batch referrer referenced) :
    referenced ≠ referrer := by
  intro same
  exact ne_of_mem_dependencies needs.2.2 (congrArg Migration.table same)

/-- In a batch of at most one migration nothing needs anything. -/
theorem not_needs_of_length_le_one
    {batch : List Migration}
    (short : batch.length ≤ 1)
    (referrer referenced : Migration) :
    ¬ Needs batch referrer referenced := by
  intro needs
  have twoMembers : [referenced, referrer].Nodup := by
    simpa using needs.ne
  have inBatch : [referenced, referrer] ⊆ batch := by
    simp [needs.1, needs.2.1]
  have long := (List.subperm_of_subset twoMembers inBatch).length_le
  simp only [List.length_cons, List.length_nil] at long
  omega

/-- Whoever is on a cycle belongs to the batch. -/
theorem mem_of_transGen
    {batch : List Migration}
    {migration needed : Migration}
    (needs : Relation.TransGen (Needs batch) migration needed) :
    migration ∈ batch := by
  obtain ⟨_, first, _⟩ := Relation.TransGen.head'_iff.mp needs
  exact first.1

/-- If some position is never released, some migration reaches a cycle. -/
theorem exists_reachesCycle
    {batch : List Migration}
    (distinct : (batch.map Migration.table).Nodup)
    (leftOver :
      (Release.final batch.length
        (positionedEdges batch)).released.length < batch.length) :
    ∃ migration, ReachesCycle batch migration := by
  by_contra free
  have allReleased :
      List.range batch.length ⊆
        (Release.final batch.length
          (positionedEdges batch)).released := by
    intro position inRange
    have bound : position < batch.length := by simpa using inRange
    have held : batch[position]? = some batch[position] :=
      List.getElem?_eq_getElem bound
    refine (mem_placed_of_getElem? distinct held).mp
      (placed_of_not_reachesCycle distinct
        (List.mem_of_getElem? held) ?_)
    exact fun reaches => free ⟨_, reaches⟩
  have long :=
    (List.subperm_of_subset List.nodup_range allReleased).length_le
  simp only [List.length_range] at long
  omega

/-- A migration of one table needs a migration of another one. -/
def RefersTo
    (batch : List Migration)
    (referrer referenced : String) : Prop :=
  ∃ first second,
    Needs batch first second ∧
      first.table = referrer ∧ second.table = referenced

/-- Whether or not tables are distinct, a batch fails only with a cycle of
tables that refer to each other. -/
theorem exists_cycle_of_sort_eq_error
    {batch : List Migration}
    {failure : Failure}
    (failed : sort batch = .error failure) :
    (∃ stuck, failure = .dependencyCycle stuck (dependencyEdges batch)) ∧
      ∃ table, Relation.TransGen (RefersTo batch) table table := by
  rcases sort_cases batch with
      ⟨_, outcome⟩ | ⟨_, outcome⟩ | ⟨leftOver, outcome⟩
  · rw [outcome] at failed
    cases failed
  · rw [outcome] at failed
    cases failed
  rw [outcome] at failed
  refine ⟨⟨_, (Except.error.inj failed).symm⟩, ?_⟩
  have within := within_positionedEdges batch
  obtain ⟨position, bound, stuck⟩ :
      ∃ position < batch.length,
        position ∉
          (Release.final batch.length
            (positionedEdges batch)).released := by
    by_contra allReleased
    push Not at allReleased
    have long :=
      (List.subperm_of_subset List.nodup_range
        (fun position inRange =>
          allReleased position (List.mem_range.mp inRange))).length_le
    simp only [List.length_range] at long
    omega
  obtain ⟨waiting, cycle⟩ :=
    Release.exists_cycle_of_not_mem_released within bound stuck
  refine ⟨((batch[waiting]?).map Migration.table).getD "",
    Relation.TransGen.lift
      (fun position => ((batch[position]?).map Migration.table).getD "")
      ?_ waiting waiting cycle⟩
  intro referrer referenced member
  obtain ⟨edge, isEdge, positioned⟩ := List.mem_filterMap.mp member
  obtain ⟨referencedFound, referrerFound⟩ :=
    positionedEdge?_eq_some_iff.mp positioned
  obtain ⟨_, referencedHeld, referencedTable⟩ :=
    getElem?_of_lastPosition? referencedFound
  obtain ⟨_, referrerHeld, referrerTable⟩ :=
    getElem?_of_lastPosition? referrerFound
  obtain ⟨first, second, needs, rfl⟩ := mem_dependencyEdges.mp isEdge
  refine ⟨first, second, needs, ?_, ?_⟩
  · simp [referrerHeld, referrerTable]
  · simp [referencedHeld, referencedTable]

/-- Whether or not tables are distinct, a table that refers to another one
waits for it with its last migration. -/
theorem mem_positionedEdges_of_refersTo
    {batch : List Migration}
    {referrer referenced : String}
    (refers : RefersTo batch referrer referenced) :
    ((lastPosition? batch referenced).getD 0,
        (lastPosition? batch referrer).getD 0) ∈ positionedEdges batch := by
  obtain ⟨first, second, needs, rfl, rfl⟩ := refers
  obtain ⟨firstAt, firstFound⟩ := exists_lastPosition? needs.1
  obtain ⟨secondAt, secondFound⟩ := exists_lastPosition? needs.2.1
  refine List.mem_filterMap.mpr ⟨(first.table, second.table),
    mem_dependencyEdges.mpr ⟨first, second, needs, rfl⟩, ?_⟩
  simp [positionedEdge?, firstFound, secondFound]

/-- A batch fails just if some of its tables refer to each other in a
cycle. -/
theorem sort_eq_error_iff
    {batch : List Migration} :
    (∃ failure, sort batch = .error failure) ↔
      ∃ table, Relation.TransGen (RefersTo batch) table table := by
  constructor
  · rintro ⟨failure, failed⟩
    exact (exists_cycle_of_sort_eq_error failed).2
  · rintro ⟨table, cycle⟩
    rcases sort_cases batch with
        ⟨short, _⟩ | ⟨permuted, _⟩ | ⟨_, outcome⟩
    · obtain ⟨_, ⟨first, second, needs, _⟩, _⟩ :=
        Relation.TransGen.head'_iff.mp cycle
      exact (not_needs_of_length_le_one short first second needs).elim
    · -- The last migration of the table waits for itself, but all
      -- positions are released.
      have within := within_positionedEdges batch
      have waits :
          Relation.TransGen (fun referrer referenced =>
              (referenced, referrer) ∈ positionedEdges batch)
            ((lastPosition? batch table).getD 0)
            ((lastPosition? batch table).getD 0) := by
        refine Relation.TransGen.lift
          (fun table => (lastPosition? batch table).getD 0) ?_
          table table cycle
        intro _ _ refers
        exact mem_positionedEdges_of_refersTo refers
      have full :
          batch.length ≤
            (Release.final batch.length
              (positionedEdges batch)).released.length :=
        permuted.length_eq.symm.trans_le (List.length_filterMap_le _ _)
      obtain ⟨_, edge, _⟩ := Relation.TransGen.head'_iff.mp waits
      have released :=
        (Release.released_perm_range within full).mem_iff.mpr
          (List.mem_range.mpr (within _ edge).2)
      exact (Release.not_mem_released_of_cycle within waits released).elim
    · exact ⟨_, outcome⟩

/-- The failure of a batch names the tables whose migrations were not
placed. -/
theorem cycleFailure_final
    {batch : List Migration}
    (distinct : (batch.map Migration.table).Nodup) :
    ∃ stuck,
      cycleFailure batch
          (Release.final batch.length
            (positionedEdges batch)).released =
        .dependencyCycle stuck (dependencyEdges batch) ∧
      stuck.Pairwise (· < ·) ∧
      ∀ table,
        table ∈ stuck ↔
          ∃ migration ∈ batch,
            migration.table = table ∧ migration ∉ placed batch := by
  refine ⟨_, rfl, Text.pairwise_sortedDistinct _, ?_⟩
  intro table
  simp only [Text.mem_sortedDistinct, List.mem_map, List.mem_filterMap,
    List.mem_filter, List.mem_range, List.contains_eq_mem,
    Bool.not_eq_true', decide_eq_false_iff_not]
  constructor
  · intro given
    rcases given with ⟨migration, ⟨position, ⟨_, blocked⟩, held⟩, rfl⟩
    exact ⟨migration, List.mem_of_getElem? held, rfl,
      fun memberPlaced =>
        blocked ((mem_placed_of_getElem? distinct held).mp
          memberPlaced)⟩
  · intro given
    rcases given with ⟨migration, member, rfl, leftOut⟩
    obtain ⟨position, held⟩ := List.mem_iff_getElem?.mp member
    exact ⟨migration,
      ⟨position, ⟨(List.getElem?_eq_some_iff.mp held).1,
        fun released =>
          leftOut ((mem_placed_of_getElem? distinct held).mpr
            released)⟩, held⟩, rfl⟩

/-- A sorted batch has the same migrations as before. -/
theorem perm_of_sort
    {batch ordered : List Migration}
    (sorted : sort batch = .ok ordered) :
    ordered.Perm batch := by
  rcases sort_cases batch with
      ⟨_, outcome⟩ | ⟨permuted, outcome⟩ | ⟨_, outcome⟩
  · obtain rfl := Except.ok.inj (outcome.symm.trans sorted)
    exact List.Perm.refl batch
  · obtain rfl := Except.ok.inj (outcome.symm.trans sorted)
    exact permuted
  · rw [outcome] at sorted
    cases sorted

/-- The order of a batch decides neither what needs what nor whether the
batch can be sorted. -/
theorem exists_sort_of_perm
    {batch reordered : List Migration}
    (permuted : reordered.Perm batch)
    {ordered : List Migration}
    (sorted : sort batch = .ok ordered) :
    ∃ others, sort reordered = .ok others ∧ others.Perm ordered := by
  cases outcome : sort reordered with
  | ok others =>
      exact ⟨others, rfl, (perm_of_sort outcome).trans
        (permuted.trans (perm_of_sort sorted).symm)⟩
  | error failure =>
      obtain ⟨table, cycle⟩ := sort_eq_error_iff.mp ⟨failure, outcome⟩
      have sameCycle : Relation.TransGen (RefersTo batch) table table := by
        refine Relation.TransGen.mono ?_ table table cycle
        rintro _ _ ⟨first, second, ⟨firstIn, secondIn, depends⟩, named⟩
        exact ⟨first, second,
          ⟨permuted.mem_iff.mp firstIn, permuted.mem_iff.mp secondIn,
            depends⟩, named⟩
      obtain ⟨_, failed⟩ := sort_eq_error_iff.mpr ⟨table, sameCycle⟩
      rw [sorted] at failed
      cases failed

/-- In a sorted batch, what a migration needs stands in front of it. -/
theorem sublist_of_sort
    {batch ordered : List Migration}
    (distinct : (batch.map Migration.table).Nodup)
    (sorted : sort batch = .ok ordered)
    {referrer referenced : Migration}
    (needs : Needs batch referrer referenced) :
    [referenced, referrer] <+ ordered := by
  rcases sort_cases batch with
      ⟨short, _⟩ | ⟨permuted, outcome⟩ | ⟨_, outcome⟩
  · exact (not_needs_of_length_le_one short referrer referenced
      needs).elim
  · obtain rfl := Except.ok.inj (outcome.symm.trans sorted)
    exact sublist_placed distinct needs
      (permuted.mem_iff.mpr needs.1)
  · rw [outcome] at sorted
    cases sorted

/--
Sorting a batch with distinct tables keeps every migration as it is and puts
everything that a migration needs in front of it.  On every such batch the
release loop lowers only counters above zero, releases no position twice and
ends with an empty queue.
-/
theorem sort_respects_dependencies
    {batch : List Migration}
    (distinct : (batch.map Migration.table).Nodup) :
    (∀ ordered,
      sort batch = .ok ordered →
      ordered.Perm batch ∧
        ∀ referrer ∈ batch,
          ∀ referenced ∈ batch,
            referenced.table ∈ referrer.dependencies →
            [referenced, referrer] <+ ordered) ∧
      Release.runGuarded? (positionedEdges batch) batch.length
          (Release.start batch.length (positionedEdges batch)) =
        some (Release.final batch.length (positionedEdges batch)) ∧
      (Release.final batch.length (positionedEdges batch)).queue = [] := by
  have within := within_positionedEdges batch
  refine ⟨?_,
    ((Release.consistent_start _ _).run within batch.length).2,
    Release.queue_final within⟩
  intro ordered sorted
  refine ⟨perm_of_sort sorted, ?_⟩
  intro referrer referrerMember referenced referencedMember depends
  exact sublist_of_sort distinct sorted
    ⟨referrerMember, referencedMember, depends⟩

/-- A migration that does nothing but refer to other tables. -/
def referring (table : String) (targets : List String) : Migration :=
  { model := table
    table := table
    lines := []
    resolved :=
      { columns := targets.map fun target =>
          Column.marker target (some
            { field := target
              targetTable := target
              localColumns := [target ++ "_id"]
              references := ["id"] }) }
    silent := false
    pivot := false }

/-- Comments refer to themselves, to a table outside the batch and twice to
their authors. -/
def blogBatch : List Migration :=
  [ referring "comments"
      ["comments", "posts", "legacy", "users", "users"],
    referring "tags" [], referring "posts" ["users"],
    referring "users" [] ]

/-- The tables of a blog have distinct names and can be sorted; comments come
behind their authors. -/
theorem sort_respects_dependencies_blog :
    (blogBatch.map Migration.table).Nodup ∧
      ∃ ordered,
        sort blogBatch = .ok ordered ∧
          ordered.Perm blogBatch ∧
          [referring "users" [],
            referring "comments"
              ["comments", "posts", "legacy", "users", "users"]] <+
            ordered := by
  have distinct : (blogBatch.map Migration.table).Nodup := by decide
  have sorted :
      sort blogBatch =
        .ok
          [ referring "tags" [], referring "users" [],
            referring "posts" ["users"],
            referring "comments"
              ["comments", "posts", "legacy", "users", "users"] ] := by
    decide +kernel
  obtain ⟨permuted, ordered⟩ :=
    (sort_respects_dependencies distinct).1 _ sorted
  exact ⟨distinct, _, sorted, permuted,
    ordered _ (by decide) _ (by decide) (by decide +kernel)⟩

/--
A batch with distinct tables cannot be sorted exactly when its migrations
need each other in a cycle.  The failure then names, in increasing order, the
tables from which a cycle is reached, and lists every need between two
migrations of the batch once.
-/
theorem sort_fails_iff_cycle
    {batch : List Migration}
    (distinct : (batch.map Migration.table).Nodup) :
    ((∃ failure, sort batch = .error failure) ↔
      ∃ migration,
        Relation.TransGen (Needs batch) migration migration) ∧
      ∀ failure,
        sort batch = .error failure →
        ∃ stuck edges,
          failure = .dependencyCycle stuck edges ∧
            stuck.Pairwise (· < ·) ∧
            (∀ table,
              table ∈ stuck ↔
                ∃ migration ∈ batch,
                  migration.table = table ∧
                    ReachesCycle batch migration) ∧
            edges.Nodup ∧
            (∀ edge,
              edge ∈ edges ↔
                ∃ referrer referenced,
                  Needs batch referrer referenced ∧
                    edge = (referrer.table, referenced.table)) ∧
            ∀ edge ∈ edges, edge.1 ≠ edge.2 := by
  rcases sort_cases batch with
      ⟨short, outcome⟩ | ⟨permuted, outcome⟩ | ⟨leftOver, outcome⟩
  · have acyclic :
        ¬ ∃ migration,
          Relation.TransGen (Needs batch) migration migration := by
      intro given
      rcases given with ⟨migration, cycle⟩
      obtain ⟨_, first, _⟩ := Relation.TransGen.head'_iff.mp cycle
      exact not_needs_of_length_le_one short _ _ first
    simp [outcome, acyclic]
  · have acyclic :
        ¬ ∃ migration,
          Relation.TransGen (Needs batch) migration migration := by
      intro given
      rcases given with ⟨migration, cycle⟩
      have memberPlaced : migration ∈ placed batch :=
        permuted.mem_iff.mpr (mem_of_transGen cycle)
      exact not_reachesCycle_of_placed distinct memberPlaced
        ⟨migration, Relation.ReflTransGen.refl, cycle⟩
    simp [outcome, acyclic]
  · obtain ⟨_, onCycle, _, cycle⟩ :=
      exists_reachesCycle distinct leftOver
    obtain ⟨stuck, failed, increasing, named⟩ :=
      cycleFailure_final distinct
    rw [failed] at outcome
    refine ⟨⟨fun _ => ⟨onCycle, cycle⟩, fun _ => ⟨_, outcome⟩⟩, ?_⟩
    intro failure failing
    rw [outcome] at failing
    refine ⟨stuck, dependencyEdges batch,
      (Except.error.inj failing).symm, increasing, ?_,
      Text.nodup_firstOccurrences _,
      fun _ => mem_dependencyEdges, ?_⟩
    · intro table
      rw [named]
      constructor
      · intro given
        rcases given with ⟨migration, member, sameTable, leftOut⟩
        exact ⟨migration, member, sameTable,
          (not_mem_placed_iff distinct member).mp leftOut⟩
      · intro given
        rcases given with ⟨migration, member, sameTable, reaches⟩
        exact ⟨migration, member, sameTable,
          (not_mem_placed_iff distinct member).mpr reaches⟩
    · intro edge member
      obtain ⟨referrer, referenced, needs, rfl⟩ :=
        mem_dependencyEdges.mp member
      exact (ne_of_mem_dependencies needs.2.2).symm

/-- Two tables refer to each other, and a third one to one of them. -/
def cyclicBatch : List Migration :=
  [ referring "w" ["x"], referring "x" ["y"],
    referring "y" ["x"], referring "z" [] ]

/-- A batch with two tables that refer to each other has distinct tables and
cannot be sorted; the table that only refers to them is stuck as well. -/
theorem sort_fails_iff_cycle_pair :
    (cyclicBatch.map Migration.table).Nodup ∧
      (∃ migration,
        Relation.TransGen (Needs cyclicBatch) migration migration) ∧
      ∃ migration ∈ cyclicBatch,
        migration.table = "w" ∧ ReachesCycle cyclicBatch migration := by
  have distinct : (cyclicBatch.map Migration.table).Nodup := by decide
  have failing :
      sort cyclicBatch =
        .error
          (.dependencyCycle ["w", "x", "y"]
            [("w", "x"), ("x", "y"), ("y", "x")]) := by
    decide +kernel
  obtain ⟨cyclic, named⟩ := sort_fails_iff_cycle distinct
  obtain ⟨stuck, _, same, _, stuckIff, _⟩ := named _ failing
  obtain ⟨rfl, _⟩ := Failure.dependencyCycle.inj same
  exact ⟨distinct, cyclic.mp ⟨_, failing⟩,
    (stuckIff "w").mp (by decide)⟩

end Tablewright.Migration
