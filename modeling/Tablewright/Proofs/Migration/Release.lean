import Mathlib.Data.Fintype.EquivFin
import Mathlib.Data.List.Nodup
import Mathlib.Data.List.Perm.Subperm
import Mathlib.Logic.Relation
import Tablewright.Migration.Order

namespace Tablewright.Migration.Release

open List

/-!
# Release of a batch

The release loop keeps counters, a queue and the list of released positions.
`Consistent` ties the three together: a counter is the number of edges from
positions that are not released, and the released and queued positions are
exactly those whose counter is zero.  It holds at the start and is kept by
every notification and by every step, so that no counter is lowered below
zero, no position is released twice, and the loop ends with an empty queue.
-/

/-- The edges to a position from positions that are not released. -/
def blocking
    (edges : List (Nat × Nat))
    (released : List Nat)
    (position : Nat) : Nat :=
  edges.countP
    (fun edge => edge.2 == position && !released.contains edge.1)

/-- Nothing blocks a position when all edges to it come from released
positions. -/
theorem blocking_eq_zero_iff
    {edges : List (Nat × Nat)}
    {released : List Nat}
    {position : Nat} :
    blocking edges released position = 0 ↔
      ∀ edge ∈ edges, edge.2 = position → edge.1 ∈ released := by
  simp [blocking, List.countP_eq_zero]

/-- Releasing a position unblocks its referrers, once for each edge. -/
theorem blocking_release
    {edges : List (Nat × Nat)}
    {released : List Nat}
    {position : Nat}
    (fresh : position ∉ released)
    (target : Nat) :
    blocking edges released target =
      blocking edges (released ++ [position]) target +
        (referrers edges position).count target := by
  induction edges with
  | nil =>
      simp [blocking, referrers]
  | cons edge rest inductionHypothesis =>
      have countTail :
          (referrers (edge :: rest) position).count target =
            (referrers rest position).count target +
              if edge.1 = position ∧ edge.2 = target then 1 else 0 := by
        by_cases fromPosition : edge.1 = position
        · simp [referrers, fromPosition, List.count_cons]
        · simp [referrers, fromPosition]
      simp only [blocking, List.countP_cons] at inductionHypothesis ⊢
      rw [countTail, inductionHypothesis]
      by_cases toTarget : edge.2 = target
      · by_cases fromPosition : edge.1 = position
        · simp [toTarget, fromPosition, fresh]
          omega
        · simp [toTarget, fromPosition]
          omega
      · simp [toTarget]

/--
What holds of a release while some positions still have to be notified of
the position released last.
-/
structure Consistent
    (count : Nat)
    (edges : List (Nat × Nat))
    (pending : List Nat)
    (release : Release) : Prop where
  noDuplicates :
    (release.released ++ release.queue).Nodup
  bounded :
    ∀ position ∈ release.released ++ release.queue, position < count
  waiting :
    ∀ position < count,
      release.waiting[position]? =
        some (blocking edges release.released position +
          pending.count position)
  ready :
    ∀ position < count,
      (position ∈ release.released ++ release.queue ↔
        blocking edges release.released position +
          pending.count position = 0)
  ordered :
    ∀ edge ∈ edges,
      edge.2 ∈ release.released →
      [edge.1, edge.2] <+ release.released

/-- Counters, queue and released positions agree before any release. -/
theorem consistent_start
    (count : Nat)
    (edges : List (Nat × Nat)) :
    Consistent count edges [] (start count edges) := by
  have waits :
      ∀ position < count,
        (start count edges).waiting[position]? =
          some (blocking edges [] position) := by
    intro position bound
    simp [start, blocking, List.countP_eq_length_filter, bound]
  have queued :
      ∀ position,
        position ∈ (start count edges).queue ↔
          position < count ∧
            (start count edges).waiting[position]? = some 0 := by
    intro position
    simp [start]
  constructor
  case noDuplicates =>
    simpa [start] using List.nodup_range.filter _
  case bounded =>
    intro position member
    exact ((queued position).mp (by simpa [start] using member)).1
  case waiting =>
    intro position bound
    simpa [start] using waits position bound
  case ready =>
    intro position bound
    have inQueue :
        position ∈ (start count edges).released ++
            (start count edges).queue ↔
          position ∈ (start count edges).queue := by
      simp [start]
    rw [inQueue, queued, waits position bound]
    simp [bound, start]
  case ordered =>
    intro edge _ member
    simp [start] at member

namespace Consistent

variable {count : Nat} {edges : List (Nat × Nat)}

/-- A position that is to be notified still waits. -/
theorem waiting_of_pending
    {position : Nat}
    {pending : List Nat}
    {release : Release}
    (consistent :
      Consistent count edges (position :: pending) release)
    (bound : position < count) :
    release.waiting[position]? =
      some (blocking edges release.released position +
        pending.count position + 1) := by
  rw [consistent.waiting position bound, List.count_cons_self]
  rfl

/-- A position that is to be notified is neither released nor queued. -/
theorem not_mem_of_pending
    {position : Nat}
    {pending : List Nat}
    {release : Release}
    (consistent :
      Consistent count edges (position :: pending) release)
    (bound : position < count) :
    position ∉ release.released ++ release.queue := by
  rw [consistent.ready position bound, List.count_cons_self]
  omega

/-- A notification lowers the counter of its position only. -/
theorem waiting_notify
    {position : Nat}
    {pending : List Nat}
    {release : Release}
    (consistent :
      Consistent count edges (position :: pending) release)
    (other : Nat)
    (bound : other < count) :
    (release.notify position).waiting[other]? =
      some (blocking edges release.released other +
        pending.count other) := by
  by_cases same : position = other
  · subst same
    simp [Release.notify, consistent.waiting_of_pending bound]
  · simp [Release.notify, same, consistent.waiting other bound,
      List.count_cons_of_ne same]

/-- A notified position is queued once nothing blocks it any more. -/
theorem queue_notify
    {position : Nat}
    {pending : List Nat}
    {release : Release}
    (consistent :
      Consistent count edges (position :: pending) release)
    (bound : position < count) :
    (release.notify position).queue =
      if blocking edges release.released position +
          pending.count position = 0 then
        release.queue ++ [position]
      else
        release.queue := by
  have lowered := consistent.waiting_notify position bound
  simp only [Release.notify] at lowered ⊢
  simp only [lowered, Option.some.injEq]

/-- A notification keeps counters, queue and released positions in
agreement. -/
theorem notify
    {position : Nat}
    {pending : List Nat}
    {release : Release}
    (consistent :
      Consistent count edges (position :: pending) release)
    (bound : position < count) :
    Consistent count edges pending (release.notify position) := by
  have fresh := consistent.not_mem_of_pending bound
  have sameReleased :
      (release.notify position).released = release.released :=
    rfl
  have known :
      ∀ other,
        other ∈ (release.notify position).released ++
            (release.notify position).queue ↔
          other ∈ release.released ++ release.queue ∨
            (other = position ∧
              blocking edges release.released position +
                pending.count position = 0) := by
    intro other
    rw [sameReleased, consistent.queue_notify bound]
    split
    · rename_i freed
      simp [freed, or_assoc]
    · rename_i blocked
      simp only [blocked, and_false, or_false]
  constructor
  case noDuplicates =>
    rw [sameReleased, consistent.queue_notify bound]
    split
    · rw [← List.append_assoc]
      exact consistent.noDuplicates.append
        (List.nodup_singleton position)
        (List.disjoint_singleton.mpr fresh)
    · exact consistent.noDuplicates
  case bounded =>
    intro other member
    rcases (known other).mp member with before | ⟨isPosition, _⟩
    · exact consistent.bounded other before
    · exact isPosition ▸ bound
  case waiting =>
    exact consistent.waiting_notify
  case ready =>
    intro other otherBound
    rw [known, consistent.ready other otherBound, sameReleased]
    by_cases same : position = other
    · subst same
      simp
    · rw [List.count_cons_of_ne same]
      simp [Ne.symm same]
  case ordered =>
    exact consistent.ordered

/-- Taking a position from the queue leaves its referrers to be notified. -/
theorem dequeue
    {position : Nat}
    {rest : List Nat}
    {release : Release}
    (consistent : Consistent count edges [] release)
    (queued : release.queue = position :: rest) :
    Consistent count edges (referrers edges position)
      { release with
        queue := rest
        released := release.released ++ [position] } := by
  have sameMembers :
      (release.released ++ [position]) ++ rest =
        release.released ++ release.queue := by
    simp [queued]
  have fresh : position ∉ release.released := by
    have noDuplicates := consistent.noDuplicates
    rw [queued, List.nodup_append] at noDuplicates
    intro member
    exact noDuplicates.2.2 position member position (by simp) rfl
  have freed : blocking edges release.released position = 0 := by
    have member : position ∈ release.released ++ release.queue := by
      simp [queued]
    have zero :=
      (consistent.ready position
        (consistent.bounded position member)).mp member
    simpa using zero
  constructor
  case noDuplicates =>
    rw [sameMembers]
    exact consistent.noDuplicates
  case bounded =>
    rw [sameMembers]
    exact consistent.bounded
  case waiting =>
    intro other otherBound
    rw [consistent.waiting other otherBound,
      blocking_release fresh other]
    simp
  case ready =>
    intro other otherBound
    rw [sameMembers, consistent.ready other otherBound,
      blocking_release fresh other]
    simp
  case ordered =>
    intro edge member target
    rcases List.mem_append.mp target with earlier | isPosition
    · exact (consistent.ordered edge member earlier).trans
        (List.sublist_append_left _ _)
    · have toPosition : edge.2 = position :=
        List.mem_singleton.mp isPosition
      have source : edge.1 ∈ release.released :=
        blocking_eq_zero_iff.mp freed edge member toPosition
      rw [toPosition]
      exact (List.singleton_sublist.mpr source).append
        (List.Sublist.refl [position])

end Consistent

/-! ## Guarded release -/

/-- Notify a position, provided that it still waits. -/
def notifyGuarded? (release : Release) (position : Nat) :
    Option Release :=
  match release.waiting[position]? with
  | some (_ + 1) => some (release.notify position)
  | _ => none

/-- Release the first position of the queue, provided that it was not
released before and that every notification finds a position waiting. -/
def stepGuarded? (edges : List (Nat × Nat)) (release : Release) :
    Option Release :=
  match release.queue with
  | [] => some release
  | position :: rest =>
      if position ∈ release.released then none
      else
        (referrers edges position).foldlM notifyGuarded?
          { release with
            queue := rest
            released := release.released ++ [position] }

/-- Release at most a given number of positions, all of them guarded. -/
def runGuarded? (edges : List (Nat × Nat)) :
    Nat → Release → Option Release
  | 0, release => some release
  | steps + 1, release =>
      (stepGuarded? edges release).bind (runGuarded? edges steps)

/-- Every edge is between positions of the batch. -/
def Within (count : Nat) (edges : List (Nat × Nat)) : Prop :=
  ∀ edge ∈ edges, edge.1 < count ∧ edge.2 < count

/-- The referrers of a position are positions of the batch. -/
theorem Within.referrers
    {count : Nat}
    {edges : List (Nat × Nat)}
    (within : Within count edges)
    (position : Nat) :
    ∀ referrer ∈ referrers edges position, referrer < count := by
  intro referrer member
  simp only [Release.referrers, List.mem_map, List.mem_filter] at member
  obtain ⟨edge, ⟨edgeMember, _⟩, target⟩ := member
  exact target ▸ (within edge edgeMember).2

namespace Consistent

variable {count : Nat} {edges : List (Nat × Nat)}

/-- All pending positions can be notified, and no guard fails. -/
theorem notifyAll
    {pending : List Nat}
    {release : Release}
    (consistent : Consistent count edges pending release)
    (bounds : ∀ position ∈ pending, position < count) :
    Consistent count edges []
        (pending.foldl Release.notify release) ∧
      pending.foldlM notifyGuarded? release =
        some (pending.foldl Release.notify release) := by
  induction pending generalizing release with
  | nil =>
      exact ⟨consistent, rfl⟩
  | cons position rest inductionHypothesis =>
      have bound : position < count :=
        bounds position (by simp)
      have guarded :
          notifyGuarded? release position =
            some (release.notify position) := by
        simp [notifyGuarded?, consistent.waiting_of_pending bound]
      have later :=
        inductionHypothesis (consistent.notify bound)
          (fun other member => bounds other (by simp [member]))
      simp only [List.foldl_cons, List.foldlM_cons, guarded]
      exact later

/-- A step keeps counters, queue and released positions in agreement, and
none of its guards fails. -/
theorem step
    {release : Release}
    (consistent : Consistent count edges [] release)
    (within : Within count edges) :
    Consistent count edges [] (release.step edges) ∧
      stepGuarded? edges release = some (release.step edges) := by
  cases queued : release.queue with
  | nil =>
      simpa only [Release.step, stepGuarded?, queued, and_true] using
        consistent
  | cons position rest =>
      have fresh : position ∉ release.released := by
        have noDuplicates := consistent.noDuplicates
        rw [queued, List.nodup_append] at noDuplicates
        intro member
        exact noDuplicates.2.2 position member position (by simp) rfl
      simp only [Release.step, stepGuarded?, queued, fresh, ↓reduceIte]
      exact (consistent.dequeue queued).notifyAll
        (within.referrers position)

/-- A run keeps counters, queue and released positions in agreement, and
none of its guards fails. -/
theorem run
    {release : Release}
    (consistent : Consistent count edges [] release)
    (within : Within count edges)
    (steps : Nat) :
    Consistent count edges [] (Release.run edges steps release) ∧
      runGuarded? edges steps release =
        some (Release.run edges steps release) := by
  induction steps generalizing release with
  | zero =>
      exact ⟨consistent, rfl⟩
  | succ steps inductionHypothesis =>
      obtain ⟨afterStep, guarded⟩ := consistent.step within
      simp only [Release.run, runGuarded?, guarded, Option.bind_some]
      exact inductionHypothesis afterStep

/-- Released and queued positions together are at most the whole batch. -/
theorem length_le
    {release : Release}
    {pending : List Nat}
    (consistent : Consistent count edges pending release) :
    release.released.length + release.queue.length ≤ count := by
  have inRange :
      release.released ++ release.queue ⊆ List.range count := by
    intro position member
    exact List.mem_range.mpr (consistent.bounded position member)
  have short :=
    (List.subperm_of_subset consistent.noDuplicates inRange).length_le
  simpa using short

end Consistent

/-! ## The end of a run -/

/-- Notifications do not change which positions are released. -/
theorem released_foldl_notify
    (positions : List Nat)
    (release : Release) :
    (positions.foldl notify release).released = release.released := by
  induction positions generalizing release with
  | nil =>
      rfl
  | cons position rest inductionHypothesis =>
      exact inductionHypothesis (release.notify position)

/-- Without a queue nothing is released. -/
theorem run_of_queue_nil
    {edges : List (Nat × Nat)}
    {release : Release}
    (drained : release.queue = [])
    (steps : Nat) :
    run edges steps release = release := by
  induction steps with
  | zero =>
      rfl
  | succ steps inductionHypothesis =>
      simpa only [run, step, drained] using inductionHypothesis

/-- As long as the queue lasts, each step releases one position. -/
theorem length_released_run
    (edges : List (Nat × Nat))
    (steps : Nat)
    (release : Release) :
    (run edges steps release).queue = [] ∨
      (run edges steps release).released.length =
        release.released.length + steps := by
  induction steps generalizing release with
  | zero =>
      exact Or.inr rfl
  | succ steps inductionHypothesis =>
      cases queued : release.queue with
      | nil =>
          left
          rw [run_of_queue_nil queued]
          exact queued
      | cons position rest =>
          have oneMore :
              (release.step edges).released.length =
                release.released.length + 1 := by
            simp [step, queued, released_foldl_notify]
          rcases inductionHypothesis (release.step edges) with
              drained | longer
          · exact Or.inl drained
          · right
            simp only [run]
            omega

section Final

variable {count : Nat} {edges : List (Nat × Nat)}

/-- Counters, queue and released positions agree at the end. -/
theorem consistent_final
    (within : Within count edges) :
    Consistent count edges [] (final count edges) :=
  ((consistent_start count edges).run within count).1

/-- One step for each position is enough to empty the queue. -/
theorem queue_final
    (within : Within count edges) :
    (final count edges).queue = [] := by
  rcases length_released_run edges count (start count edges) with
      drained | full
  · exact drained
  · have short := (consistent_final within).length_le
    have startEmpty : (start count edges).released.length = 0 := rfl
    rw [final] at short ⊢
    exact List.length_eq_zero_iff.mp (by omega)

/-- A position is released exactly when all positions that it waits for
are. -/
theorem mem_released_final_iff
    (within : Within count edges)
    {position : Nat}
    (bound : position < count) :
    position ∈ (final count edges).released ↔
      ∀ edge ∈ edges,
        edge.2 = position →
        edge.1 ∈ (final count edges).released := by
  have ready := (consistent_final within).ready position bound
  rw [queue_final within] at ready
  simpa [blocking_eq_zero_iff] using ready

/-- Released positions do not repeat. -/
theorem nodup_released_final
    (within : Within count edges) :
    (final count edges).released.Nodup := by
  have noDuplicates := (consistent_final within).noDuplicates
  rwa [queue_final within, List.append_nil] at noDuplicates

/-- Released positions are positions of the batch. -/
theorem released_final_lt
    (within : Within count edges)
    {position : Nat}
    (member : position ∈ (final count edges).released) :
    position < count :=
  (consistent_final within).bounded position (by simp [member])

/-- A position that is never released leads to positions that wait for each
other in a cycle. -/
theorem exists_cycle_of_not_mem_released
    (within : Within count edges)
    {position : Nat}
    (bound : position < count)
    (stuck : position ∉ (final count edges).released) :
    ∃ waiting,
      Relation.TransGen (fun referrer referenced =>
        (referenced, referrer) ∈ edges) waiting waiting := by
  by_contra acyclic
  -- Without a cycle waiting is well-founded, so that every position is
  -- released once those that it waits for are.
  let below : Fin count → Fin count → Prop := fun referenced referrer =>
    Relation.TransGen (fun referrer referenced =>
      (referenced, referrer) ∈ edges) referrer.1 referenced.1
  have transitive : IsTrans (Fin count) below :=
    ⟨fun _ _ _ first second => second.trans first⟩
  have irreflexive : Std.Irrefl below :=
    ⟨fun waiting cycle => acyclic ⟨waiting.1, cycle⟩⟩
  have wellFounded : WellFounded below :=
    Finite.wellFounded_of_trans_of_irrefl below
  have allReleased :
      ∀ item : Fin count, item.1 ∈ (final count edges).released := by
    intro item
    induction item using wellFounded.induction with
    | _ item inductionHypothesis =>
        refine (mem_released_final_iff within item.2).mpr ?_
        intro edge member waits
        refine inductionHypothesis ⟨edge.1, (within edge member).1⟩ ?_
        exact Relation.TransGen.single (waits ▸ member)
  exact stuck (allReleased ⟨position, bound⟩)

/-- Once as many positions are released as there are, all of them are. -/
theorem released_perm_range
    (within : Within count edges)
    (full : count ≤ (final count edges).released.length) :
    (final count edges).released.Perm (List.range count) := by
  have inRange :
      (final count edges).released ⊆ List.range count :=
    fun _ member => List.mem_range.mpr (released_final_lt within member)
  exact (List.subperm_of_subset (nodup_released_final within)
    inRange).perm_of_length_le (by simpa using full)

/-- The members of a list without repetition have increasing indices. -/
theorem pairwise_idxOf
    [DecidableEq α]
    {items : List α}
    (noDuplicates : items.Nodup) :
    items.Pairwise
      (fun first second => items.idxOf first < items.idxOf second) := by
  rw [List.pairwise_iff_getElem]
  intro earlier later earlierBound laterBound before
  rwa [noDuplicates.idxOf_getElem earlier earlierBound,
    noDuplicates.idxOf_getElem later laterBound]

/-- A list without repetition has its members in the order of their
indices. -/
theorem idxOf_lt_of_sublist
    [DecidableEq α]
    {items : List α}
    (noDuplicates : items.Nodup)
    {first second : α}
    (ordered : [first, second] <+ items) :
    items.idxOf first < items.idxOf second :=
  (pairwise_idxOf noDuplicates).forall_sublist ordered

/-- Whatever a released position transitively waits for has been released
before. -/
theorem idxOf_lt_of_waits
    (within : Within count edges)
    {referrer referenced : Nat}
    (waits :
      Relation.TransGen (fun referrer referenced =>
        (referenced, referrer) ∈ edges) referrer referenced)
    (released : referrer ∈ (final count edges).released) :
    referenced ∈ (final count edges).released ∧
      (final count edges).released.idxOf referenced <
        (final count edges).released.idxOf referrer := by
  have oneStep :
      ∀ {waiting awaited},
        (awaited, waiting) ∈ edges →
        waiting ∈ (final count edges).released →
        awaited ∈ (final count edges).released ∧
          (final count edges).released.idxOf awaited <
            (final count edges).released.idxOf waiting := by
    intro waiting awaited edge waitingReleased
    have ordered :=
      (consistent_final within).ordered _ edge waitingReleased
    exact ⟨ordered.subset List.mem_cons_self,
      idxOf_lt_of_sublist (nodup_released_final within) ordered⟩
  induction waits with
  | single edge => exact oneStep edge released
  | tail _ edge inductionHypothesis =>
      obtain ⟨middleReleased, middleBefore⟩ := inductionHypothesis
      obtain ⟨lastReleased, lastBefore⟩ := oneStep edge middleReleased
      exact ⟨lastReleased, lastBefore.trans middleBefore⟩

/-- A position on a cycle of positions that wait for each other is never
released. -/
theorem not_mem_released_of_cycle
    (within : Within count edges)
    {waiting : Nat}
    (cycle :
      Relation.TransGen (fun referrer referenced =>
        (referenced, referrer) ∈ edges) waiting waiting) :
    waiting ∉ (final count edges).released := by
  intro released
  exact Nat.lt_irrefl _ (idxOf_lt_of_waits within cycle released).2

end Final

end Tablewright.Migration.Release
