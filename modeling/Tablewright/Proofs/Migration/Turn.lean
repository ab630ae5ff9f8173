import Mathlib.Order.Lattice.Nat
import Tablewright.Proofs.Migration.Order
import Tablewright.Proofs.Migration.Queue

namespace Tablewright.Migration

open List

/-!
# First come, first served

The turn of a migration is the position of the last migration that it needs,
and among those with the same one its position in the batch.  A sorted batch
stands in the order of these turns.  No other order of the batch does: where
two of them first differ, the turns of both candidates depend on the common
part in front only.  So a sorted batch is left as it is by a further sort, and
along it the chains of needs never get shorter.
-/

/-- The migrations of a batch that a migration needs. -/
def neededIn
    (batch : List Migration)
    (migration : Migration) : List Migration :=
  batch.filter (fun other => migration.dependencies.contains other.table)

/-- The position in an ordered batch of the last migration that is needed. -/
def lastNeeded
    (batch ordered : List Migration)
    (migration : Migration) : WithBot Nat :=
  ((neededIn batch migration).map ordered.idxOf).maximum

/-- What decides the place of a migration in an ordered batch. -/
def turn
    (batch ordered : List Migration)
    (migration : Migration) : WithBot Nat ×ₗ Nat :=
  toLex (lastNeeded batch ordered migration, batch.idxOf migration)

/-- The lengths of the chains of needs that start at a migration. -/
def chainLengths
    (batch : List Migration)
    (migration : Migration) : Set Nat :=
  {length |
    ∃ chain,
      List.IsChain (Needs batch) (migration :: chain) ∧
        chain.length = length}

/-- What a member of a batch needs is listed among the needed ones. -/
theorem mem_neededIn
    {batch : List Migration}
    {referrer referenced : Migration}
    (member : referrer ∈ batch) :
    referenced ∈ neededIn batch referrer ↔
      Needs batch referrer referenced := by
  simp [neededIn, Needs, member]

/-- Two lists with the same members have the same maximum. -/
private theorem maximum_congr
    {first second : List Nat}
    (same : ∀ index, index ∈ first ↔ index ∈ second) :
    first.maximum = second.maximum :=
  le_antisymm
    (List.maximum_mono (fun index => (same index).mp))
    (List.maximum_mono (fun index => (same index).mpr))

/-! ## Order of the edges -/

/-- The edges by position stand in the order of the referring positions. -/
theorem pairwise_positionedEdges
    {batch : List Migration}
    (distinct : (batch.map Migration.table).Nodup) :
    (positionedEdges batch).Pairwise
      (fun earlier later => earlier.2 ≤ later.2) := by
  have named :
      (dependencyEdges batch).Pairwise (fun earlier later =>
        ∀ first, lastPosition? batch earlier.1 = some first →
          ∀ second, lastPosition? batch later.1 = some second →
            first ≤ second) := by
    refine List.Pairwise.sublist (Text.firstOccurrences_sublist _) ?_
    refine List.pairwise_flatMap.mpr ⟨?_, ?_⟩
    · intro migration _
      refine List.pairwise_of_forall_mem_list ?_
      intro earlier earlierEdge later laterEdge first firstFound second
        secondFound
      obtain ⟨_, _, rfl⟩ := List.mem_map.mp earlierEdge
      obtain ⟨_, _, rfl⟩ := List.mem_map.mp laterEdge
      exact (Option.some.inj (firstFound.symm.trans secondFound)).le
    · rw [List.pairwise_iff_getElem]
      intro here there hereBound thereBound before earlier earlierEdge
        later laterEdge first firstFound second secondFound
      obtain ⟨_, _, rfl⟩ := List.mem_map.mp earlierEdge
      obtain ⟨_, _, rfl⟩ := List.mem_map.mp laterEdge
      rw [lastPosition?_of_getElem? distinct
        (List.getElem?_eq_getElem hereBound)] at firstFound
      rw [lastPosition?_of_getElem? distinct
        (List.getElem?_eq_getElem thereBound)] at secondFound
      obtain rfl := Option.some.inj firstFound
      obtain rfl := Option.some.inj secondFound
      exact before.le
  refine named.filterMap _ ?_
  intro earlier later ordered first firstPlaced second secondPlaced
  exact ordered _ (positionedEdge?_eq_some_iff.mp firstPlaced).2
    _ (positionedEdge?_eq_some_iff.mp secondPlaced).2

/-- No edge by position is listed twice. -/
theorem nodup_positionedEdges
    (batch : List Migration) :
    (positionedEdges batch).Nodup := by
  refine List.Nodup.filterMap ?_ (Text.nodup_firstOccurrences _)
  intro edge other positioned placed otherPlaced
  obtain ⟨referencedFound, referrerFound⟩ :=
    positionedEdge?_eq_some_iff.mp placed
  obtain ⟨otherReferencedFound, otherReferrerFound⟩ :=
    positionedEdge?_eq_some_iff.mp otherPlaced
  exact Prod.ext
    (table_eq_of_lastPosition? referrerFound otherReferrerFound)
    (table_eq_of_lastPosition? referencedFound otherReferencedFound)

/-- The edges of a position lead to increasing positions. -/
theorem pairwise_referrers
    {batch : List Migration}
    (distinct : (batch.map Migration.table).Nodup)
    (position : Nat) :
    (Release.referrers (positionedEdges batch) position).Pairwise
      (· < ·) := by
  rw [Release.referrers, List.pairwise_map]
  refine List.Pairwise.imp_of_mem ?_
    (((pairwise_positionedEdges distinct).and
      (nodup_positionedEdges batch)).filter _)
  rintro ⟨source, target⟩ ⟨otherSource, otherTarget⟩ kept otherKept
    ⟨ordered, different⟩
  simp only [List.mem_filter, beq_iff_eq] at kept otherKept
  obtain ⟨_, rfl⟩ := kept
  obtain ⟨_, rfl⟩ := otherKept
  refine lt_of_le_of_ne ordered ?_
  intro sameTarget
  exact different (congrArg (Prod.mk otherSource) sameTarget)

/-! ## From positions to migrations -/

/-- Looking up positions in a batch keeps the index of each of them. -/
private theorem idxOf_filterMap_getElem?
    {batch : List Migration}
    (distinct : (batch.map Migration.table).Nodup)
    {position : Nat}
    {migration : Migration}
    (held : batch[position]? = some migration)
    {positions : List Nat}
    (bounded : ∀ other ∈ positions, other < batch.length) :
    (positions.filterMap (fun other => batch[other]?)).idxOf migration =
      positions.idxOf position := by
  induction positions with
  | nil =>
      rfl
  | cons first rest inductionHypothesis =>
      obtain ⟨other, firstHeld⟩ : ∃ other, batch[first]? = some other :=
        ⟨_, List.getElem?_eq_getElem
          (bounded first List.mem_cons_self)⟩
      have sameIndex :=
        inductionHypothesis (fun other member =>
          bounded other (List.mem_cons_of_mem _ member))
      simp only [List.filterMap_cons, firstHeld, List.idxOf_cons,
        sameIndex]
      by_cases same : first = position
      · subst same
        obtain rfl := Option.some.inj (held.symm.trans firstHeld)
        simp
      · have different : other ≠ migration := by
          rintro rfl
          have found := lastPosition?_of_getElem? distinct firstHeld
          rw [lastPosition?_of_getElem? distinct held] at found
          exact same (Option.some.inj found).symm
        rw [beq_false_of_ne different, beq_false_of_ne same]

section Placed

variable {batch : List Migration}
variable (distinct : (batch.map Migration.table).Nodup)

include distinct

/-- A migration is placed at the index at which its position is released. -/
theorem idxOf_placed
    {position : Nat}
    {migration : Migration}
    (held : batch[position]? = some migration) :
    (placed batch).idxOf migration =
      (Release.final batch.length
        (positionedEdges batch)).released.idxOf position :=
  idxOf_filterMap_getElem? distinct held
    (fun _ member =>
      Release.released_final_lt (within_positionedEdges batch) member)

/-- The turn of a placed migration is the arrival of its position. -/
theorem turn_placed
    {position : Nat}
    {migration : Migration}
    (held : batch[position]? = some migration) :
    turn batch (placed batch) migration =
      Release.arrival (positionedEdges batch)
        (Release.final batch.length (positionedEdges batch)).released
        position := by
  have member := List.mem_of_getElem? held
  have index : batch.idxOf migration = position := by
    obtain ⟨bound, rfl⟩ := List.getElem?_eq_some_iff.mp held
    exact (List.Nodup.of_map _ distinct).idxOf_getElem position bound
  have last :
      lastNeeded batch (placed batch) migration =
        Release.lastAwaited (positionedEdges batch)
          (Release.final batch.length (positionedEdges batch)).released
          position := by
    refine maximum_congr ?_
    intro place
    simp only [List.mem_map, mem_neededIn member, List.mem_filter,
      beq_iff_eq]
    constructor
    · rintro ⟨needed, needs, rfl⟩
      obtain ⟨neededAt, neededHeld⟩ :=
        List.mem_iff_getElem?.mp needs.2.1
      exact ⟨(neededAt, position),
        ⟨(mem_positionedEdges distinct).mpr
          ⟨migration, needed, held, neededHeld, needs⟩, rfl⟩,
        (idxOf_placed distinct neededHeld).symm⟩
    · rintro ⟨⟨neededAt, _⟩, ⟨isEdge, rfl⟩, rfl⟩
      obtain ⟨referrer, needed, referrerHeld, neededHeld, needs⟩ :=
        (mem_positionedEdges distinct).mp isEdge
      obtain rfl : migration = referrer :=
        Option.some.inj (held.symm.trans referrerHeld)
      exact ⟨needed, needs, idxOf_placed distinct neededHeld⟩
  rw [turn, Release.arrival, last, index]

/-- The placed migrations stand in the order of their turns. -/
theorem pairwise_turn_placed :
    (placed batch).Pairwise (fun earlier later =>
      turn batch (placed batch) earlier <
        turn batch (placed batch) later) := by
  have arrivals :=
    Release.pairwise_arrival_final (within_positionedEdges batch)
      (pairwise_referrers distinct)
  refine arrivals.filterMap (fun position => batch[position]?) ?_
  intro first second before earlier earlierHeld later laterHeld
  rwa [turn_placed distinct earlierHeld, turn_placed distinct laterHeld]

end Placed

/-! ## Batches in turn -/

/-- A batch is put in the order of the turns of its migrations, each behind
what it needs. -/
structure InTurn (batch ordered : List Migration) : Prop where
  perm :
    ordered.Perm batch
  behind :
    ∀ {referrer referenced},
      Needs batch referrer referenced → [referenced, referrer] <+ ordered
  increasing :
    ordered.Pairwise (fun earlier later =>
      turn batch ordered earlier < turn batch ordered later)

/-- Sorting puts the migrations of a batch in the order of their turns. -/
theorem inTurn_of_sort
    {batch ordered : List Migration}
    (distinct : (batch.map Migration.table).Nodup)
    (sorted : sort batch = .ok ordered) :
    InTurn batch ordered := by
  refine ⟨perm_of_sort sorted, sublist_of_sort distinct sorted, ?_⟩
  rcases sort_cases batch with
      ⟨short, outcome⟩ | ⟨_, outcome⟩ | ⟨_, outcome⟩
  · obtain rfl := Except.ok.inj (outcome.symm.trans sorted)
    match batch, short with
    | [], _ => exact List.Pairwise.nil
    | [_], _ => exact List.pairwise_singleton _ _
  · obtain rfl := Except.ok.inj (outcome.symm.trans sorted)
    exact pairwise_turn_placed distinct
  · rw [outcome] at sorted
    cases sorted

namespace InTurn

section Order

variable {batch ordered : List Migration}

/-- A later place has a last need at least as late. -/
theorem lastNeeded_le
    (inTurn : InTurn batch ordered)
    {earlier later : Migration}
    (earlierIn : earlier ∈ batch)
    (laterIn : later ∈ batch)
    (before : ordered.idxOf earlier ≤ ordered.idxOf later) :
    lastNeeded batch ordered earlier ≤ lastNeeded batch ordered later := by
  have earlierPlaced := inTurn.perm.mem_iff.mpr earlierIn
  have laterPlaced := inTurn.perm.mem_iff.mpr laterIn
  rcases before.eq_or_lt with same | strictly
  · rw [(List.idxOf_inj earlierPlaced).mp same]
  · have turns :=
      List.pairwise_iff_getElem.mp inTurn.increasing _ _
        (List.idxOf_lt_length_of_mem earlierPlaced)
        (List.idxOf_lt_length_of_mem laterPlaced) strictly
    rw [List.getElem_idxOf, List.getElem_idxOf, turn, turn,
      Prod.Lex.toLex_lt_toLex] at turns
    rcases turns with sooner | ⟨together, _⟩
    · exact sooner.le
    · exact together.le

/-- A chain of needs is matched by one from whatever has a last need at least
as late. -/
theorem exists_isChain
    (inTurn : InTurn batch ordered)
    {earlier later : Migration}
    (laterIn : later ∈ batch)
    (before :
      lastNeeded batch ordered earlier ≤ lastNeeded batch ordered later)
    {chain : List Migration}
    (isChain : List.IsChain (Needs batch) (earlier :: chain)) :
    ∃ other,
      List.IsChain (Needs batch) (later :: other) ∧
        chain.length ≤ other.length := by
  induction chain generalizing earlier later with
  | nil => exact ⟨[], List.IsChain.singleton later, Nat.le_refl 0⟩
  | cons next rest inductionHypothesis =>
      obtain ⟨needs, isRest⟩ := List.isChain_cons_cons.mp isChain
      have nextPlace :
          WithBot.some (ordered.idxOf next) ≤
            lastNeeded batch ordered later :=
        (List.le_maximum_of_mem'
          (List.mem_map.mpr
            ⟨next, (mem_neededIn needs.1).mpr needs, rfl⟩)).trans before
      obtain ⟨last, isLast, notBefore⟩ :=
        List.coe_le_maximum_iff.mp nextPlace
      obtain ⟨needed, isNeeded, rfl⟩ := List.mem_map.mp isLast
      have laterNeeds := (mem_neededIn laterIn).mp isNeeded
      obtain ⟨other, isOther, long⟩ :=
        inductionHypothesis laterNeeds.2.1
          (inTurn.lastNeeded_le needs.2.1
            laterNeeds.2.1 notBefore) isRest
      exact ⟨needed :: other,
        List.isChain_cons_cons.mpr ⟨laterNeeds, isOther⟩,
        Nat.succ_le_succ long⟩

variable (noDuplicates : batch.Nodup)

include noDuplicates

/-- What a migration needs has a smaller index. -/
theorem idxOf_lt
    (inTurn : InTurn batch ordered)
    {referrer referenced : Migration}
    (needs : Needs batch referrer referenced) :
    ordered.idxOf referenced < ordered.idxOf referrer :=
  Release.idxOf_lt_of_sublist (inTurn.perm.nodup_iff.mpr noDuplicates)
    (inTurn.behind needs)

/-- The turn of a migration is decided by what stands in front of it. -/
theorem turn_eq
    {front rest : List Migration}
    {migration : Migration}
    (inTurn : InTurn batch (front ++ migration :: rest))
    (others : List Migration) :
    turn batch (front ++ others) migration =
      turn batch (front ++ migration :: rest) migration := by
  have member : migration ∈ batch :=
    inTurn.perm.mem_iff.mp (by simp)
  have fresh : migration ∉ front := by
    have apart := inTurn.perm.nodup_iff.mpr noDuplicates
    exact fun inFront =>
      (List.nodup_append.mp apart).2.2 migration inFront migration
        List.mem_cons_self rfl
  have inFront :
      ∀ needed ∈ neededIn batch migration, needed ∈ front := by
    intro needed isNeeded
    have before :=
      inTurn.idxOf_lt noDuplicates ((mem_neededIn member).mp isNeeded)
    rw [List.idxOf_append_of_notMem fresh, List.idxOf_cons_self,
      Nat.add_zero] at before
    by_contra behind
    rw [List.idxOf_append_of_notMem behind] at before
    omega
  have last :
      lastNeeded batch (front ++ others) migration =
        lastNeeded batch (front ++ migration :: rest) migration := by
    unfold lastNeeded
    congr 1
    apply List.map_congr_left
    intro needed isNeeded
    rw [List.idxOf_append_of_mem (inFront needed isNeeded),
      List.idxOf_append_of_mem (inFront needed isNeeded)]
  rw [turn, turn, last]

/-- Two orders in turn that agree at the front agree altogether. -/
private theorem eq_of_append
    {front first second : List Migration}
    (inTurn : InTurn batch (front ++ first))
    (otherInTurn : InTurn batch (front ++ second)) :
    first = second := by
  have permuted : first.Perm second :=
    (List.perm_append_left_iff front).mp
      (inTurn.perm.trans otherInTurn.perm.symm)
  induction first generalizing front second with
  | nil =>
      exact permuted.nil_eq
  | cons earlier rest inductionHypothesis =>
      cases second with
      | nil =>
          exact permuted.eq_nil
      | cons other others =>
          have same : earlier = other := by
            by_contra different
            have earlierInOthers : earlier ∈ others :=
              (List.mem_cons.mp
                (permuted.mem_iff.mp List.mem_cons_self)).resolve_left
                  different
            have otherInRest : other ∈ rest :=
              (List.mem_cons.mp
                (permuted.mem_iff.mpr List.mem_cons_self)).resolve_left
                  (Ne.symm different)
            -- Each of the two candidates has its turn before the other.
            have before :=
              (List.pairwise_cons.mp
                (List.pairwise_append.mp inTurn.increasing).2.1).1
                  other otherInRest
            have after :=
              (List.pairwise_cons.mp
                (List.pairwise_append.mp otherInTurn.increasing).2.1).1
                  earlier earlierInOthers
            rw [← inTurn.turn_eq noDuplicates (other :: others),
              otherInTurn.turn_eq noDuplicates (earlier :: rest)]
              at before
            exact lt_asymm before after
          subst same
          have shifted :
              ∀ {items}, front ++ earlier :: items =
                (front ++ [earlier]) ++ items := by
            simp
          rw [shifted] at inTurn otherInTurn
          rw [inductionHypothesis inTurn otherInTurn
            (List.Perm.cons_inv permuted)]

/-- A batch is in turn in one order only. -/
theorem unique
    {first second : List Migration}
    (inTurn : InTurn batch first)
    (otherInTurn : InTurn batch second) :
    first = second := by
  have inTurn' : InTurn batch ([] ++ first) := inTurn
  exact inTurn'.eq_of_append noDuplicates otherInTurn

/-- A batch put in turn is in turn as it is. -/
theorem again
    (inTurn : InTurn batch ordered) :
    InTurn ordered ordered := by
  have needs_iff :
      ∀ {referrer referenced},
        Needs ordered referrer referenced ↔
          Needs batch referrer referenced := by
    intro referrer referenced
    simp only [Needs, inTurn.perm.mem_iff]
  have last :
      ∀ migration,
        lastNeeded ordered ordered migration =
          lastNeeded batch ordered migration := by
    intro migration
    refine maximum_congr ?_
    intro place
    simp only [List.mem_map, neededIn, List.mem_filter,
      inTurn.perm.mem_iff]
  refine ⟨List.Perm.refl ordered,
    fun needs => inTurn.behind (needs_iff.mp needs), ?_⟩
  have indices :=
    Release.pairwise_idxOf (inTurn.perm.nodup_iff.mpr noDuplicates)
  refine (inTurn.increasing.and indices).imp ?_
  rintro earlier later ⟨before, index⟩
  rw [turn, turn, Prod.Lex.toLex_lt_toLex] at before ⊢
  simp only [last]
  rcases before with sooner | ⟨together, _⟩
  · exact Or.inl sooner
  · exact Or.inr ⟨together, index⟩

/-- A chain of needs goes to the front of the ordered batch. -/
theorem length_le_idxOf
    (inTurn : InTurn batch ordered)
    {migration : Migration}
    {chain : List Migration}
    (isChain : List.IsChain (Needs batch) (migration :: chain)) :
    chain.length ≤ ordered.idxOf migration := by
  induction chain generalizing migration with
  | nil => exact Nat.zero_le _
  | cons next rest inductionHypothesis =>
      obtain ⟨needs, isRest⟩ := List.isChain_cons_cons.mp isChain
      have before := inTurn.idxOf_lt noDuplicates needs
      have short := inductionHypothesis isRest
      rw [List.length_cons]
      omega

/-- Every migration has a longest chain of needs, and they never get shorter
along the ordered batch. -/
theorem exists_depth
    (inTurn : InTurn batch ordered) :
    ∃ depth : Migration → Nat,
      (∀ migration,
        IsGreatest (chainLengths batch migration) (depth migration)) ∧
      (ordered.map depth).Pairwise (· ≤ ·) := by
  have greatest :
      ∀ migration,
        IsGreatest (chainLengths batch migration)
          (sSup (chainLengths batch migration)) := by
    intro migration
    have bounded : BddAbove (chainLengths batch migration) := by
      refine ⟨ordered.idxOf migration, ?_⟩
      rintro _ ⟨chain, isChain, rfl⟩
      exact inTurn.length_le_idxOf noDuplicates isChain
    exact ⟨Nat.sSup_mem ⟨0, [], List.IsChain.singleton _, rfl⟩ bounded,
      fun _ member => le_csSup bounded member⟩
  refine ⟨fun migration => sSup (chainLengths batch migration),
    greatest, ?_⟩
  rw [List.pairwise_map]
  refine (Release.pairwise_idxOf
    (inTurn.perm.nodup_iff.mpr noDuplicates)).imp_of_mem ?_
  intro earlier later earlierPlaced laterPlaced before
  have earlierIn := inTurn.perm.mem_iff.mp earlierPlaced
  have laterIn := inTurn.perm.mem_iff.mp laterPlaced
  obtain ⟨chain, isChain, length⟩ := (greatest earlier).1
  obtain ⟨other, isOther, long⟩ :=
    inTurn.exists_isChain laterIn
      (inTurn.lastNeeded_le earlierIn laterIn before.le)
      isChain
  rw [← length]
  exact long.trans ((greatest later).2 ⟨other, isOther, rfl⟩)

/-- What needs nothing comes first, as it was. -/
theorem eq_append
    (inTurn : InTurn batch ordered) :
    ordered =
      batch.filter (fun migration => (neededIn batch migration).isEmpty) ++
        ordered.filter
          (fun migration => !(neededIn batch migration).isEmpty) := by
  have last_of_free :
      ∀ {migration}, (neededIn batch migration).isEmpty = true →
        lastNeeded batch ordered migration = ⊥ := by
    intro migration free
    rw [lastNeeded, List.isEmpty_iff.mp free, List.map_nil,
      List.maximum_nil]
  have free :
      (batch.filter
        (fun migration => (neededIn batch migration).isEmpty)).Pairwise
        (InvImage (· < ·) (turn batch ordered)) := by
    refine ((Release.pairwise_idxOf noDuplicates).filter
      _).imp_of_mem ?_
    intro earlier later earlierKept laterKept before
    rw [InvImage, turn, turn, Prod.Lex.toLex_lt_toLex,
      last_of_free (List.mem_filter.mp earlierKept).2,
      last_of_free (List.mem_filter.mp laterKept).2]
    exact Or.inr ⟨rfl, before⟩
  refine List.Pairwise.eq_of_mem_iff
    (r := InvImage (· < ·) (turn batch ordered)) inTurn.increasing
    (List.pairwise_append.mpr
      ⟨free, inTurn.increasing.filter _, ?_⟩) ?_
  · intro earlier earlierKept later laterKept
    rw [InvImage, turn, turn, Prod.Lex.toLex_lt_toLex,
      last_of_free (List.mem_filter.mp earlierKept).2]
    refine Or.inl (bot_lt_iff_ne_bot.mpr ?_)
    simpa [lastNeeded, List.maximum_eq_bot] using
      (List.mem_filter.mp laterKept).2
  · intro migration
    simp only [List.mem_append, List.mem_filter, inTurn.perm.mem_iff]
    cases (neededIn batch migration).isEmpty <;> simp

end Order

end InTurn

/--
A sorted batch with distinct tables starts with the migrations that need
nothing, as they were.  The others follow by the place of the last migration
that they need, and then by their place in the batch.  So the longest chains
of needs never get shorter, and sorting again changes nothing.
-/
theorem sort_first_come_first_served
    {batch ordered : List Migration}
    (distinct : (batch.map Migration.table).Nodup)
    (sorted : sort batch = .ok ordered) :
    (∃ others,
      ordered =
          batch.filter
            (fun migration => (neededIn batch migration).isEmpty) ++
          others ∧
        others.Perm
          (batch.filter
            (fun migration => !(neededIn batch migration).isEmpty)) ∧
        others.Pairwise (fun earlier later =>
          turn batch ordered earlier < turn batch ordered later)) ∧
      (∃ depth : Migration → Nat,
        (∀ migration,
          IsGreatest (chainLengths batch migration) (depth migration)) ∧
        (ordered.map depth).Pairwise (· ≤ ·)) ∧
      sort ordered = .ok ordered := by
  have noDuplicates : batch.Nodup := List.Nodup.of_map _ distinct
  have inTurn := inTurn_of_sort distinct sorted
  have permuted := inTurn.perm
  refine ⟨⟨_, inTurn.eq_append noDuplicates, permuted.filter _,
    inTurn.increasing.filter _⟩, inTurn.exists_depth noDuplicates, ?_⟩
  obtain ⟨others, sortedAgain, _⟩ := exists_sort_of_perm permuted sorted
  have othersInTurn :=
    inTurn_of_sort ((permuted.map Migration.table).nodup_iff.mpr distinct)
      sortedAgain
  rw [sortedAgain,
    othersInTurn.unique (permuted.nodup_iff.mpr noDuplicates)
      (inTurn.again noDuplicates)]

/-- The tables of a blog have distinct names and can be sorted; sorting them
again changes nothing. -/
theorem sort_first_come_first_served_blog :
    (blogBatch.map Migration.table).Nodup ∧
      ∃ ordered,
        sort blogBatch = .ok ordered ∧
          ordered.map Migration.table =
            ["tags", "users", "posts", "comments"] ∧
          sort ordered = .ok ordered := by
  have distinct : (blogBatch.map Migration.table).Nodup := by decide
  have sorted :
      sort blogBatch =
        .ok
          [ referring "tags" [], referring "users" [],
            referring "posts" ["users"],
            referring "comments"
              ["comments", "posts", "legacy", "users", "users"] ] := by
    decide +kernel
  exact ⟨distinct, _, sorted, rfl,
    (sort_first_come_first_served distinct sorted).2.2⟩

end Tablewright.Migration
