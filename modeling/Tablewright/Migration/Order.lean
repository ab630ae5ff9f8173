import Tablewright.Migration.Basic

namespace Tablewright.Migration

/-!
# Order of migrations

Migrations are ordered so that every table is created after the tables it
refers to. Tables are released first come, first served, so independent
ones keep their order. A cycle is a failure that names the tables which can
never be released.
-/

/-- The edges from a table to the tables of a batch that it refers to. -/
def edgesOf (tables : List String) (migration : Migration) :
    List (String × String) :=
  (migration.dependencies.filter tables.contains).map
    (fun target => (migration.table, target))

/-- The edges between the tables of a batch, the referring one first, each
once. -/
def dependencyEdges (batch : List Migration) : List (String × String) :=
  let tables := batch.map Migration.table
  Text.firstOccurrences (batch.flatMap (edgesOf tables))

/-- The position of the last migration of a table. -/
def lastPosition? (batch : List Migration) (table : String) :
    Option Nat :=
  (List.range batch.length).reverse.find? (fun position =>
    ((batch[position]?).map Migration.table) == some table)

/-- An edge by position, the referenced migration first. -/
def positionedEdge? (batch : List Migration) (edge : String × String) :
    Option (Nat × Nat) := do
  let referenced ← lastPosition? batch edge.2
  let referrer ← lastPosition? batch edge.1
  return (referenced, referrer)

/-- The edges of a batch by position. -/
def positionedEdges (batch : List Migration) : List (Nat × Nat) :=
  (dependencyEdges batch).filterMap (positionedEdge? batch)

/-- The state of the release of a batch. -/
structure Release where
  /-- Positions that may be released, in their order. -/
  queue : List Nat
  /-- Positions released so far, in their order. -/
  released : List Nat
  /-- How many referenced migrations each position still waits for. -/
  waiting : List Nat
  deriving Repr, DecidableEq

namespace Release

/-- The state before any release. -/
def start (count : Nat) (edges : List (Nat × Nat)) : Release :=
  let waiting := (List.range count).map
    (fun position =>
      (edges.filter (fun edge => edge.2 == position)).length)
  { queue := (List.range count).filter
      (fun position => waiting[position]? == some 0)
    released := []
    waiting := waiting }

/-- The positions that wait for a position, once for each edge. -/
def referrers (edges : List (Nat × Nat)) (position : Nat) : List Nat :=
  (edges.filter (fun edge => edge.1 == position)).map Prod.snd

/-- One referenced migration of a position has been released. -/
def notify (release : Release) (position : Nat) : Release :=
  let waiting := release.waiting.modify position (fun count => count - 1)
  { release with
    waiting := waiting
    queue :=
      if waiting[position]? = some 0 then release.queue ++ [position]
      else release.queue }

/-- Release the first position of the queue. -/
def step (edges : List (Nat × Nat)) (release : Release) : Release :=
  match release.queue with
  | [] => release
  | position :: rest =>
      (referrers edges position).foldl notify
        { release with
          queue := rest, released := release.released ++ [position] }

/-- Release at most a given number of positions. -/
def run (edges : List (Nat × Nat)) : Nat → Release → Release
  | 0, release => release
  | steps + 1, release => run edges steps (step edges release)

/-- Release as many positions as can be released. -/
def final (count : Nat) (edges : List (Nat × Nat)) : Release :=
  run edges count (start count edges)

end Release

/-- The failure of a batch of which only some positions are released. -/
def cycleFailure (batch : List Migration) (released : List Nat) :
    Failure :=
  let stuck := (List.range batch.length).filter
    (fun position => !released.contains position)
  .dependencyCycle
    (Text.sortedDistinct
      ((stuck.filterMap (fun position => batch[position]?)).map
        Migration.table))
    (dependencyEdges batch)

/-- Order a batch so that referenced tables come first. -/
def sort (batch : List Migration) : Outcome (List Migration) :=
  if batch.length ≤ 1 then .ok batch
  else
    let final := Release.final batch.length (positionedEdges batch)
    if final.released.length < batch.length then
      .error (cycleFailure batch final.released)
    else
      .ok (final.released.filterMap (fun position => batch[position]?))

end Tablewright.Migration
