import Tablewright.Proofs.Rule.Meaning
import Tablewright.Proofs.Rule.Pairs

namespace Tablewright

/-!
# Every constraint is a dependency

Only the columns that are left active after a pass say what a table depends
on.  When a marker is suppressed its key has moved to a column, and no other
column that is suppressed has a key.  So a pass loses no dependency, and each
constraint that it writes refers to a table that is depended on.
-/

open Code

namespace Table

/--
Where foreign keys are while a pass has still to visit some positions.
Markers aside, only columns that can be created along with a key have one,
and none that is still to be visited.
-/
structure Keyed (table : Table) (positions : List Nat) : Prop where
  collapsible :
    ∀ {position : Nat} {column : Column},
      table.column? position = some column →
      column.isMarker = false →
      column.foreignKey ≠ none →
      (foreignMethod? column.kind).isSome = true
  keyless :
    ∀ position ∈ positions, ∀ {column : Column},
      table.column? position = some column →
      column.isMarker = false →
      column.foreignKey = none

namespace Keyed

variable {table : Table} {position : Nat} {positions : List Nat}

/-- Before the first visit, only markers have keys. -/
theorem of_keysOnMarkers
    (keysOnMarkers :
      ∀ column ∈ table.columns,
        column.isMarker = false → column.foreignKey = none)
    (positions : List Nat) :
    table.Keyed positions where
  collapsible := fun held isColumn hasKey =>
    absurd (keysOnMarkers _ (List.mem_of_getElem? held) isColumn) hasKey
  keyless := fun _ _ _ held isColumn =>
    keysOnMarkers _ (List.mem_of_getElem? held) isColumn

/-- Fewer positions are left after a visit. -/
theorem tail
    (keyed : table.Keyed (position :: positions)) :
    table.Keyed positions where
  collapsible := keyed.collapsible
  keyless := fun other left =>
    keyed.keyless other (List.mem_cons_of_mem _ left)

/-- Suppression moves no keys. -/
theorem suppress
    (keyed : table.Keyed positions)
    (suppressed : Nat) :
    (table.suppress suppressed).Keyed positions := by
  have before :
      ∀ {place : Nat} {column : Column},
        (table.suppress suppressed).column? place = some column →
        ∃ earlier,
          table.column? place = some earlier ∧
            column.kind = earlier.kind ∧
            column.foreignKey = earlier.foreignKey := by
    intro place column held
    rw [Table.suppress, column?_update] at held
    split at held
    · obtain ⟨earlier, earlierHeld, rfl⟩ :=
        Option.map_eq_some_iff.mp held
      exact ⟨earlier, earlierHeld, rfl, rfl⟩
    · exact ⟨column, held, rfl, rfl⟩
  constructor
  case collapsible =>
    intro place column held isColumn hasKey
    obtain ⟨earlier, earlierHeld, kind, key⟩ := before held
    rw [Column.isMarker, kind] at isColumn
    rw [key] at hasKey
    rw [kind]
    exact keyed.collapsible earlierHeld isColumn hasKey
  case keyless =>
    intro place left column held isColumn
    obtain ⟨earlier, earlierHeld, kind, key⟩ := before held
    rw [Column.isMarker, kind] at isColumn
    rw [key]
    exact keyed.keyless place left earlierHeld isColumn

/-- A visited column may be given a key if it can be created along with
one. -/
theorem attach
    (keyed : table.Keyed positions)
    {column : Column}
    (held : table.column? position = some column)
    (method : (foreignMethod? column.kind).isSome = true)
    (visited : position ∉ positions)
    (key : ForeignKey) :
    (table.attach position key).Keyed positions := by
  constructor
  case collapsible =>
    intro place changed changedHeld isColumn hasKey
    by_cases here : position = place
    · subst here
      rw [Table.attach, column?_update_self held] at changedHeld
      obtain rfl := Option.some.inj changedHeld
      exact method
    · rw [Table.attach, column?_update_of_ne here] at changedHeld
      exact keyed.collapsible changedHeld isColumn hasKey
  case keyless =>
    intro place left changed changedHeld isColumn
    have elsewhere : position ≠ place := by
      rintro rfl
      exact visited left
    rw [Table.attach, column?_update_of_ne elsewhere] at changedHeld
    exact keyed.keyless place left changedHeld isColumn

end Keyed

/-- An active column with an enforced key gives a dependency. -/
theorem targetTable_mem_dependencies
    {table : Table}
    {position : Nat}
    {column : Column}
    {key : ForeignKey}
    (held : table.column? position = some column)
    (active : column.ignored = false)
    (owning : column.owningKey? = some key) :
    key.targetTable ∈ table.dependencies :=
  mem_dependencies.mpr ⟨position, column, key, held, active, owning, rfl⟩

/-- Suppressing a column without a key loses no dependency. -/
theorem dependencies_subset_suppress
    {table : Table}
    {position : Nat}
    {column : Column}
    (held : table.column? position = some column)
    (keyless : column.foreignKey = none) :
    table.dependencies ⊆ (table.suppress position).dependencies := by
  intro target depends
  obtain ⟨other, holder, key, holderHeld, active, owning, rfl⟩ :=
    mem_dependencies.mp depends
  have apart : position ≠ other := by
    rintro rfl
    obtain rfl := Option.some.inj (held.symm.trans holderHeld)
    simp [Column.owningKey?, keyless] at owning
  rw [← column?_suppress_of_ne apart] at holderHeld
  exact targetTable_mem_dependencies holderHeld active owning

/-- No dependency is lost when the key of a marker moves to a column without
one. -/
theorem dependencies_subset_collapse
    {table : Table}
    {position marker : Nat}
    {column holder : Column}
    {key : ForeignKey}
    (held : table.column? position = some column)
    (active : column.ignored = false)
    (keyless : column.foreignKey = none)
    (holderHeld : table.column? marker = some holder)
    (apart : marker ≠ position)
    (owning : holder.owningKey? = some key) :
    key.targetTable ∈
        ((table.suppress marker).attach position key).dependencies ∧
      table.dependencies ⊆
        ((table.suppress marker).attach position key).dependencies := by
  have stillHeld : (table.suppress marker).column? position = some column := by
    rw [column?_suppress_of_ne apart, held]
  have moved :
      key.targetTable ∈
        ((table.suppress marker).attach position key).dependencies := by
    obtain ⟨_, isEnforced⟩ := Column.owningKey?_eq_some_iff.mp owning
    exact targetTable_mem_dependencies
      (column?_update_self stillHeld _) active
      (Column.owningKey?_eq_some_iff.mpr ⟨rfl, isEnforced⟩)
  refine ⟨moved, ?_⟩
  intro target depends
  obtain ⟨other, otherHolder, otherKey, otherHeld, otherActive,
      otherOwning, rfl⟩ :=
    mem_dependencies.mp depends
  by_cases isMarker : marker = other
  · subst isMarker
    obtain rfl := Option.some.inj (holderHeld.symm.trans otherHeld)
    obtain rfl := Option.some.inj (owning.symm.trans otherOwning)
    exact moved
  · have notVisited : position ≠ other := by
      rintro rfl
      obtain rfl := Option.some.inj (held.symm.trans otherHeld)
      simp [Column.owningKey?, keyless] at otherOwning
    rw [← column?_suppress_of_ne isMarker,
      ← column?_update_of_ne notVisited] at otherHeld
    exact targetTable_mem_dependencies otherHeld otherActive otherOwning

/-- No column of a pair has a key. -/
theorem Partners.foreignKey_eq_none
    {table : Table}
    {shorthand : Shorthand}
    {position other : Nat}
    (partners : table.Partners shorthand position other)
    {positions : List Nat}
    (keyed : table.Keyed positions)
    {column : Column}
    (held : table.column? position = some column) :
    column.foreignKey = none := by
  cases shorthand with
  | timestamps zoned =>
      obtain ⟨_, _, stamped⟩ := partners
      obtain rfl := Option.some.inj (held.symm.trans stamped.held)
      -- No timestamp can be created along with a key, so this one has none.
      by_contra hasKey
      have method :=
        keyed.collapsible held
          (isMarker_eq_false_of_timestamp stamped.kind) hasKey
      rw [stamped.kind] at method
      cases zoned <;> cases method
  | morphs family =>
      obtain ⟨pair, _, _, morphed, places⟩ := partners
      obtain ⟨_, _, _, _, _, idKeyless, typeKeyless, _⟩ :=
        isPairOf_iff.mp morphed.isPair
      rcases places with ⟨rfl, _⟩ | ⟨rfl, _⟩
      · obtain rfl := Option.some.inj (held.symm.trans morphed.idHeld)
        exact idKeyless
      · obtain rfl := Option.some.inj (held.symm.trans morphed.typeHeld)
        exact typeKeyless
  | _ => exact partners.elim

namespace Rendered

variable {table : Table} {position : Nat} {column : Column}
variable {chosen : Option Shorthand} {rendering : Rendering}
variable {positions : List Nat}

/-- Visits keep the keys where they belong. -/
theorem keyed
    (rendered : Rendered table position column chosen rendering)
    (held : table.column? position = some column)
    (keyed : table.Keyed (position :: positions))
    (visited : position ∉ positions) :
    rendering.table.Keyed positions := by
  cases rendered with
  | timestamps zoned sibling => exact keyed.tail.suppress sibling
  | collapsed marker holder key isColumn isOwner =>
      obtain ⟨_, _, _, sameHeld, method, _⟩ :=
        ownerOf?_eq_some_iff.mp isOwner
      obtain rfl := Option.some.inj (held.symm.trans sameHeld)
      have apart := ne_of_ownerOf? held isColumn isOwner
      rw [← column?_suppress_of_ne apart] at held
      exact (keyed.tail.suppress marker).attach held method visited key
  | morphs family pair =>
      exact (keyed.tail.suppress pair.idColumn).suppress pair.typeColumn
  | identity => exact ⟨keyed.collapsible, keyed.tail.keyless⟩
  | _ => exact keyed.tail

/-- A visit loses no dependency. -/
theorem dependencies_subset
    (rendered : Rendered table position column chosen rendering)
    (held : table.column? position = some column)
    (active : column.ignored = false)
    (keyed : table.Keyed (position :: positions)) :
    table.dependencies ⊆ rendering.table.dependencies := by
  cases rendered with
  | timestamps zoned sibling isSibling =>
      obtain ⟨found, stamped⟩ :=
        Stamped.of_timestampSibling? held active isSibling
      have partners : table.Partners (.timestamps zoned) sibling position :=
        ⟨found, column, stamped.symm⟩
      exact dependencies_subset_suppress stamped.foundHeld
        (partners.foreignKey_eq_none keyed stamped.foundHeld)
  | collapsed marker holder key isColumn isOwner holderHeld owning =>
      have keyless :=
        keyed.keyless position List.mem_cons_self held isColumn
      exact (dependencies_subset_collapse held active keyless holderHeld
        (ne_of_ownerOf? held isColumn isOwner) owning).2
  | morphs family pair idColumn found idHeld =>
      obtain ⟨_, _, typeColumn, _, _, _, _, sameId, typeHeld, isPair⟩ :=
        morphPair?_eq_some_iff.mp found
      obtain rfl := Option.some.inj (idHeld.symm.trans sameId)
      obtain ⟨_, _, _, _, _, idKeyless, typeKeyless, _⟩ :=
        isPairOf_iff.mp isPair
      obtain ⟨changed, changedHeld, changedKeyless⟩ :
          ∃ changed,
            (table.suppress pair.idColumn).column? pair.typeColumn =
                some changed ∧
              changed.foreignKey = none := by
        rw [Table.suppress, column?_update, typeHeld]
        split
        · exact ⟨_, rfl, typeKeyless⟩
        · exact ⟨_, rfl, typeKeyless⟩
      exact List.Subset.trans
        (dependencies_subset_suppress idHeld idKeyless)
        (dependencies_subset_suppress changedHeld changedKeyless)
  | _ => exact List.Subset.refl _

/-- Every constraint of a visited column is a dependency from then on. -/
theorem targets_subset
    (rendered : Rendered table position column chosen rendering)
    (held : table.column? position = some column)
    (active : column.ignored = false)
    (keyed : table.Keyed (position :: positions)) :
    rendering.lines.flatMap Line.targets ⊆
      rendering.table.dependencies := by
  intro target member
  cases rendered with
  | collapsed marker holder key isColumn isOwner holderHeld owning =>
      have keyless :=
        keyed.keyless position List.mem_cons_self held isColumn
      obtain rfl : target = key.targetTable := by simpa using member
      exact (dependencies_subset_collapse held active keyless holderHeld
        (ne_of_ownerOf? held isColumn isOwner) owning).1
  | constraint =>
      cases owning : column.owningKey? with
      | none => simp [owning] at member
      | some key =>
          obtain rfl : target = key.targetTable := by
            simpa [owning] using member
          exact targetTable_mem_dependencies held active owning
  | plain =>
      cases creation : column.creation? with
      | none => simp [creation] at member
      | some written =>
          simp [creation, Column.targets_creation? creation] at member
  | rememberToken => simp [Line.call, Line.targets, Call.target?] at member
  | _ => simp at member

end Rendered

/-- A pass loses no dependency, and each constraint that it writes is one in
the end. -/
theorem Pass.dependencies_and_targets_subset
    {positions : List Nat}
    {table final : Table}
    {lines : List Line}
    (pass : Pass positions table final lines)
    (nodup : positions.Nodup)
    (keyed : table.Keyed positions) :
    table.dependencies ⊆ final.dependencies ∧
      lines.flatMap Line.targets ⊆ final.dependencies := by
  induction pass with
  | done => exact ⟨List.Subset.refl _, List.nil_subset _⟩
  | skip _ _ inductionHypothesis =>
      exact inductionHypothesis (List.nodup_cons.mp nodup).2 keyed.tail
  | visit held active rendered _ inductionHypothesis =>
      obtain ⟨visited, nodupRest⟩ := List.nodup_cons.mp nodup
      obtain ⟨kept, written⟩ :=
        inductionHypothesis nodupRest
          (rendered.keyed held keyed visited)
      rw [List.flatMap_append]
      exact ⟨List.Subset.trans
          (rendered.dependencies_subset held active keyed) kept,
        List.append_subset.mpr
          ⟨List.Subset.trans
            (rendered.targets_subset held active keyed) kept, written⟩⟩

end Table

namespace RuleSet

/-- The utility rules change no column. -/
theorem columns_resolveUtilities
    (context : RuleContext)
    (utilities : List UtilityRule)
    (table : Table) :
    (resolveUtilities context utilities table).table.columns =
      table.columns := by
  induction utilities generalizing table with
  | nil => rfl
  | cons utility rest inductionHypothesis =>
      simp only [resolveUtilities]
      split
      · exact inductionHypothesis table
      · exact inductionHypothesis _

/-- Every constraint in the lines of a resolved table is a dependency of the
table, provided that only markers had foreign keys. -/
theorem mem_dependencies_of_mem_targets
    (context : RuleContext)
    {table : Table}
    (keysOnMarkers :
      ∀ column ∈ table.columns,
        column.isMarker = false → column.foreignKey = none)
    {line : Line}
    (member : line ∈ (standard.resolve context table).lines)
    {target : String}
    (constrains : target ∈ line.targets) :
    target ∈ (standard.resolve context table).table.dependencies := by
  have keyed : table.Keyed table.positions :=
    Table.Keyed.of_keysOnMarkers keysOnMarkers table.positions
  have written :=
    ((Table.pass_positions context
      table).dependencies_and_targets_subset List.nodup_range keyed).2
  have unchanged :
      (standard.resolve context table).table.dependencies =
        (standard.resolveColumns context table.positions
          table).table.dependencies := by
    simp only [Table.dependencies, Table.active, resolve,
      columns_resolveUtilities]
  rw [unchanged]
  rcases mem_columnLines_or member with
      visit | ⟨method, isKey, arguments, rfl⟩
  · rw [columnLines_resolve] at visit
    exact written (List.mem_flatMap.mpr ⟨line, visit, constrains⟩)
  · rw [targets_of_mem_keyMethods isKey] at constrains
    cases constrains

end RuleSet

end Tablewright
