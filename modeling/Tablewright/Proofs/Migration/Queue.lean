import Mathlib.Data.List.MinMax
import Mathlib.Data.Prod.Lex
import Tablewright.Proofs.Migration.Release

namespace Tablewright.Migration.Release

open List

/-!
# Order of release

A position joins the queue when the last position that it waits for is
released.  Positions freed by the same release join it in increasing order,
because the edges of a position lead to increasing positions.  So released
and queued positions together stand in the order of `arrival`: by the release
that frees them, and then by themselves.  It holds at the start and is kept by
every notification and by every step.
-/

/-- When the last of the positions that a position waits for was released. -/
def lastAwaited
    (edges : List (Nat × Nat))
    (released : List Nat)
    (position : Nat) : WithBot Nat :=
  ((edges.filter (fun edge => edge.2 == position)).map
    (fun edge => released.idxOf edge.1)).maximum

/-- The release that frees a position, and the position itself. -/
def arrival
    (edges : List (Nat × Nat))
    (released : List Nat)
    (position : Nat) : WithBot Nat ×ₗ Nat :=
  toLex (lastAwaited edges released position, position)

/-- All positions that a position waits for are released. -/
def Freed
    (edges : List (Nat × Nat))
    (released : List Nat)
    (position : Nat) : Prop :=
  ∀ edge ∈ edges, edge.2 = position → edge.1 ∈ released

/-- Later releases do not change which one has freed a position. -/
theorem Freed.lastAwaited_append
    {edges : List (Nat × Nat)}
    {released : List Nat}
    {position : Nat}
    (freed : Freed edges released position)
    (later : List Nat) :
    lastAwaited edges (released ++ later) position =
      lastAwaited edges released position := by
  unfold lastAwaited
  congr 1
  apply List.map_congr_left
  intro edge member
  simp only [List.mem_filter, beq_iff_eq] at member
  exact List.idxOf_append_of_mem (freed edge member.1 member.2)

/-- A freed position has been freed by one of the releases. -/
theorem Freed.lastAwaited_lt
    {edges : List (Nat × Nat)}
    {released : List Nat}
    {position : Nat}
    (freed : Freed edges released position) :
    lastAwaited edges released position <
      WithBot.some released.length := by
  unfold lastAwaited
  rw [← not_le, List.coe_le_maximum_iff]
  rintro ⟨index, member, long⟩
  obtain ⟨edge, kept, rfl⟩ := List.mem_map.mp member
  simp only [List.mem_filter, beq_iff_eq] at kept
  exact absurd (List.idxOf_lt_length_of_mem (freed edge kept.1 kept.2))
    (not_lt.mpr long)

/-- The latest release has freed every position that waits for it. -/
theorem Freed.lastAwaited_eq
    {edges : List (Nat × Nat)}
    {before : List Nat}
    {latest position : Nat}
    (freed : Freed edges (before ++ [latest]) position)
    (fresh : latest ∉ before)
    (awaits : (latest, position) ∈ edges) :
    lastAwaited edges (before ++ [latest]) position =
      WithBot.some before.length := by
  have atEnd : (before ++ [latest]).idxOf latest = before.length := by
    simp [List.idxOf_append_of_notMem fresh]
  apply le_antisymm
  · apply List.maximum_le_of_forall_le
    intro index member
    obtain ⟨edge, kept, rfl⟩ := List.mem_map.mp member
    simp only [List.mem_filter, beq_iff_eq] at kept
    have short :=
      List.idxOf_lt_length_of_mem (freed edge kept.1 kept.2)
    rw [List.length_append, List.length_singleton] at short
    exact WithBot.coe_le_coe.mpr (Nat.le_of_lt_succ short)
  · apply List.le_maximum_of_mem'
    refine List.mem_map.mpr ⟨(latest, position), ?_, atEnd⟩
    simp [awaits]

/-- The latest release frees no position that does not wait for it. -/
theorem Freed.lastAwaited_lt_of_not_mem
    {edges : List (Nat × Nat)}
    {before : List Nat}
    {latest position : Nat}
    (freed : Freed edges (before ++ [latest]) position)
    (apart : (latest, position) ∉ edges) :
    lastAwaited edges (before ++ [latest]) position <
      WithBot.some before.length := by
  have freedBefore : Freed edges before position := by
    intro edge member target
    rcases List.mem_append.mp (freed edge member target) with
        earlier | isLatest
    · exact earlier
    · rw [List.mem_singleton] at isLatest
      obtain ⟨source, target'⟩ := edge
      simp only at isLatest target
      subst isLatest target
      exact (apart member).elim
  rw [freedBefore.lastAwaited_append]
  exact freedBefore.lastAwaited_lt

/-- Released and queued positions stand in the order of their arrival. -/
def InOrder (edges : List (Nat × Nat)) (release : Release) : Prop :=
  (release.released ++ release.queue).Pairwise
    (fun earlier later =>
      arrival edges release.released earlier <
        arrival edges release.released later)

/-- Before any release the queue holds what waits for nothing. -/
theorem inOrder_start
    (count : Nat)
    (edges : List (Nat × Nat)) :
    InOrder edges (start count edges) := by
  have alone :
      ∀ position ∈ (start count edges).queue,
        lastAwaited edges [] position = ⊥ := by
    intro position queued
    obtain ⟨inRange, idle⟩ := List.mem_filter.mp queued
    have bound := List.mem_range.mp inRange
    simp [bound] at idle
    rw [lastAwaited, List.maximum_eq_bot, List.map_eq_nil_iff]
    simpa using idle
  have increasing : (start count edges).queue.Pairwise (· < ·) :=
    List.pairwise_lt_range.filter _
  refine increasing.imp_of_mem ?_
  intro earlier later earlierQueued laterQueued before
  rw [arrival, arrival, Prod.Lex.toLex_lt_toLex]
  right
  exact ⟨(alone earlier earlierQueued).trans
    (alone later laterQueued).symm, before⟩

section Steps

variable {count : Nat} {edges : List (Nat × Nat)}

/-- Whatever is released or queued is freed. -/
theorem Consistent.freed
    {pending : List Nat}
    {release : Release}
    (consistent : Consistent count edges pending release)
    {position : Nat}
    (known : position ∈ release.released ++ release.queue) :
    Freed edges release.released position := by
  have ready :=
    (consistent.ready position (consistent.bounded position known)).mp
      known
  exact blocking_eq_zero_iff.mp (Nat.eq_zero_of_add_eq_zero_right ready)

/--
What holds of the order of arrival while some positions still have to be
notified of the position released last.  Those that were notified before are
smaller.
-/
structure Arriving
    (edges : List (Nat × Nat))
    (before : List Nat)
    (latest : Nat)
    (pending : List Nat)
    (release : Release) : Prop where
  inOrder :
    InOrder edges release
  isLatest :
    release.released = before ++ [latest]
  awaits :
    ∀ position ∈ pending, (latest, position) ∈ edges
  increasing :
    pending.Pairwise (· < ·)
  apart :
    ∀ known ∈ release.released ++ release.queue,
      (latest, known) ∈ edges →
      ∀ position ∈ pending, known < position

namespace Arriving

variable {before pending : List Nat} {latest position : Nat}
variable {release : Release}

/-- A position that the latest release frees arrives behind all others. -/
theorem arrival_lt
    (arriving : Arriving edges before latest (position :: pending) release)
    (consistent :
      Consistent count edges (position :: pending) release)
    (freed : Freed edges release.released position)
    {known : Nat}
    (isKnown : known ∈ release.released ++ release.queue) :
    arrival edges release.released known <
      arrival edges release.released position := by
  have fresh : latest ∉ before := by
    have noDuplicates := consistent.noDuplicates.of_append_left
    rw [arriving.isLatest, List.nodup_append] at noDuplicates
    intro member
    exact noDuplicates.2.2 latest member latest (by simp) rfl
  have knownFreed := consistent.freed isKnown
  rw [arriving.isLatest] at freed knownFreed ⊢
  rw [arrival, arrival, Prod.Lex.toLex_lt_toLex,
    freed.lastAwaited_eq fresh
      (arriving.awaits position List.mem_cons_self)]
  by_cases knownAwaits : (latest, known) ∈ edges
  · right
    exact ⟨knownFreed.lastAwaited_eq fresh knownAwaits,
      arriving.apart known isKnown knownAwaits position
        List.mem_cons_self⟩
  · left
    exact knownFreed.lastAwaited_lt_of_not_mem knownAwaits

/-- A notification keeps the order of arrival. -/
theorem notify
    (arriving : Arriving edges before latest (position :: pending) release)
    (consistent :
      Consistent count edges (position :: pending) release)
    (bound : position < count) :
    Arriving edges before latest pending (release.notify position) := by
  obtain ⟨smaller, increasing⟩ :=
    List.pairwise_cons.mp arriving.increasing
  have sameReleased :
      (release.notify position).released = release.released :=
    rfl
  have queue := consistent.queue_notify bound
  have known_cases :
      ∀ known ∈ (release.notify position).released ++
          (release.notify position).queue,
        known ∈ release.released ++ release.queue ∨ known = position := by
    intro known isKnown
    rw [sameReleased, queue] at isKnown
    split at isKnown
    · simpa [or_assoc] using isKnown
    · exact Or.inl isKnown
  constructor
  case inOrder =>
    rw [InOrder, sameReleased, queue]
    split
    · rename_i unblocked
      have freed : Freed edges release.released position :=
        blocking_eq_zero_iff.mp
          (Nat.eq_zero_of_add_eq_zero_right unblocked)
      rw [← List.append_assoc]
      refine List.pairwise_append.mpr
        ⟨arriving.inOrder, List.pairwise_singleton _ _, ?_⟩
      intro known isKnown other isPosition
      rw [List.mem_singleton.mp isPosition]
      exact arriving.arrival_lt consistent freed isKnown
    · exact arriving.inOrder
  case isLatest =>
    exact arriving.isLatest
  case awaits =>
    exact fun other member =>
      arriving.awaits other (List.mem_cons_of_mem _ member)
  case increasing =>
    exact increasing
  case apart =>
    intro known isKnown knownAwaits other member
    rcases known_cases known isKnown with before | rfl
    · exact arriving.apart known before knownAwaits other
        (List.mem_cons_of_mem _ member)
    · exact smaller other member

/-- All pending positions can be notified in the order of arrival. -/
theorem notifyAll
    (arriving : Arriving edges before latest pending release)
    (consistent : Consistent count edges pending release)
    (bounds : ∀ position ∈ pending, position < count) :
    InOrder edges (pending.foldl Release.notify release) := by
  induction pending generalizing release with
  | nil => exact arriving.inOrder
  | cons position rest inductionHypothesis =>
      have bound := bounds position List.mem_cons_self
      exact inductionHypothesis (arriving.notify consistent bound)
        (consistent.notify bound)
        (fun other member => bounds other (List.mem_cons_of_mem _ member))

end Arriving

/-- A referrer of a position is at the end of an edge from it. -/
theorem mem_referrers
    {position referrer : Nat} :
    referrer ∈ referrers edges position ↔ (position, referrer) ∈ edges := by
  simp [referrers]

variable (within : Within count edges)
variable
  (increasing :
    ∀ position, (referrers edges position).Pairwise (· < ·))

include within increasing

/-- A step keeps the order of arrival. -/
theorem InOrder.step
    {release : Release}
    (inOrder : InOrder edges release)
    (consistent : Consistent count edges [] release) :
    InOrder edges (release.step edges) := by
  cases queued : release.queue with
  | nil => simpa only [Release.step, queued] using inOrder
  | cons position rest =>
      have next := consistent.dequeue queued
      have sameMembers :
          (release.released ++ [position]) ++ rest =
            release.released ++ release.queue := by
        simp [queued]
      simp only [Release.step, queued]
      refine Arriving.notifyAll
        ⟨?_, rfl, fun _ member => mem_referrers.mp member,
          increasing position, ?_⟩ next (within.referrers position)
      · rw [InOrder, sameMembers]
        refine inOrder.imp_of_mem ?_
        intro earlier later earlierKnown laterKnown before
        rw [arrival, arrival,
          (consistent.freed earlierKnown).lastAwaited_append,
          (consistent.freed laterKnown).lastAwaited_append]
        exact before
      · -- Nothing that is known can wait for a position just released.
        intro known isKnown awaits
        have ready :=
          (next.ready known (next.bounded known isKnown)).mp isKnown
        have still :=
          List.count_pos_iff.mpr (mem_referrers.mpr awaits)
        omega

/-- A run keeps the order of arrival. -/
theorem InOrder.run
    {release : Release}
    (inOrder : InOrder edges release)
    (consistent : Consistent count edges [] release)
    (steps : Nat) :
    InOrder edges (Release.run edges steps release) := by
  induction steps generalizing release with
  | zero => exact inOrder
  | succ steps inductionHypothesis =>
      exact inductionHypothesis (inOrder.step within increasing consistent)
        (consistent.step within).1

/-- All positions are released in the order of their arrival. -/
theorem pairwise_arrival_final :
    (final count edges).released.Pairwise
      (fun earlier later =>
        arrival edges (final count edges).released earlier <
          arrival edges (final count edges).released later) := by
  have inOrder :=
    (inOrder_start count edges).run within increasing
      (consistent_start count edges) count
  rw [← final, InOrder, queue_final within, List.append_nil] at inOrder
  exact inOrder

end Steps

end Tablewright.Migration.Release
