import Mathlib.Data.List.Flatten
import Tablewright.Proofs.Rule.Carriers
import Tablewright.Proofs.Rule.Constraint
import Tablewright.Proofs.Rule.Creation

namespace Tablewright

/-!
# Every key is enforced once

The share of a column states the key that the column carries in the end, and
nothing else.  Carried keys are those of the markers, moved to other seats.
So the lines of a resolution state the key of each active marker once, and
afterwards the key has just one carrier.
-/

open Code

namespace Table

variable {table : Table} {position : Nat} {column : Column}
variable {chosen : Option Shorthand} {rendering : Rendering}

/-! ## Constraints of a share -/

/-- Only columns are recognised by shorthands other than the one for foreign
keys, and only columns that have no owner. -/
theorem Rendered.unowned_of_ne_foreignKey
    {shorthand : Shorthand}
    (rendered :
      Rendered table position column (some shorthand) rendering)
    (held : table.column? position = some column)
    (other : shorthand ≠ .foreignKey) :
    column.isMarker = false ∧ table.ownerOf? position = none := by
  have recognised := rendered.test_eq_true held
  have isColumn : column.isMarker = false := by
    have candidate :=
      Shorthand.candidate?_of_fits
        (Shorthand.fits_of_test held recognised)
    cases kind : column.kind with
    | relation =>
        simp only [Shorthand.candidate?, kind, Option.some.injEq]
          at candidate
        exact (other candidate.symm).elim
    | _ => simp [Column.isMarker, Column.Kind.isRelation, kind]
  refine ⟨isColumn, ?_⟩
  cases owner : table.ownerOf? position with
  | none => rfl
  | some marker =>
      have claimed : Shorthand.foreignKey.test table position = true := by
        simp [Shorthand.test, held, isColumn, owner]
      exact (other (Shorthand.eq_of_test recognised claimed)).elim

/-- A column that has neither a key nor an owner carries no key. -/
theorem carriedKey?_of_unowned
    (held : table.column? position = some column)
    (active : column.ignored = false)
    (isColumn : column.isMarker = false)
    (keyless : column.foreignKey = none)
    (unowned : table.ownerOf? position = none) :
    table.carriedKey? position = none := by
  rw [carriedKey?_of_column held active isColumn,
    ownerKey?_eq_none unowned, Option.or_none]
  simp [Column.owningKey?, keyless]

/-- The key of an owner has the column for its only local one and refers to
one column. -/
theorem key_of_ownerOf?
    (held : table.column? position = some column)
    {marker : Nat}
    (isOwner : table.ownerOf? position = some marker)
    {holder : Column}
    {key : ForeignKey}
    (holderHeld : table.column? marker = some holder)
    (owning : holder.owningKey? = some key) :
    key.localColumns = [column.name] ∧
      key.references.length = 1 ∧
      (foreignMethod? column.kind).isSome = true := by
  obtain ⟨_, _, sameHolder, _, _, sameOwning, named⟩ :=
    exists_of_ownerOf? held isOwner
  obtain rfl := Option.some.inj (holderHeld.symm.trans sameHolder)
  obtain rfl := Option.some.inj (owning.symm.trans sameOwning)
  obtain ⟨method, _, _, _, _, sameHolder, sameOwning, _, single⟩ :=
    (ownerOf?_eq_some_iff_claimed held).mp isOwner
  obtain rfl := Option.some.inj (holderHeld.symm.trans sameHolder)
  obtain rfl := Option.some.inj (owning.symm.trans sameOwning)
  exact ⟨named, single, method⟩

/-- A visit states the key that the visited column carries in the end. -/
theorem Rendered.constraints_lines
    (rendered : Rendered table position column chosen rendering)
    (held : table.column? position = some column)
    (active : column.ignored = false)
    (keyless : column.isMarker = false → column.foreignKey = none) :
    rendering.lines.flatMap Line.constraints =
      ((table.carriedKey? position).map ForeignKey.stated).toList := by
  -- Most shorthands add a line without a target to a column without a key.
  have silent :
      ∀ {shorthand : Shorthand} {line : Line},
        shorthand ≠ .foreignKey →
        line.targets = [] →
        chosen = some shorthand →
        [line].flatMap Line.constraints =
          ((table.carriedKey? position).map ForeignKey.stated).toList := by
    rintro shorthand line other noTarget rfl
    obtain ⟨isColumn, unowned⟩ :=
      rendered.unowned_of_ne_foreignKey held other
    rw [carriedKey?_of_unowned held active isColumn (keyless isColumn)
      unowned, List.flatMap_singleton, Line.constraints_eq_nil noTarget]
    rfl
  cases rendered with
  | identity => exact silent (by decide) (targets_identityStatement _) rfl
  | timestamps zoned =>
      exact silent (by simp) (targets_timestampsLine zoned column) rfl
  | softDeletes zoned =>
      exact silent (by simp) (targets_softDeletesLine zoned column) rfl
  | rememberToken => exact silent (by decide) rfl rfl
  | morphs family pair idColumn =>
      exact silent (by simp) (targets_morphsLine family idColumn _) rfl
  | deferred owned marks found =>
      rw [carriedKey?_of_marker held active marks, found]
      rfl
  | collapsed marker holder key isColumn isOwner holderHeld owning =>
      obtain ⟨named, single, _⟩ :=
        key_of_ownerOf? held isOwner holderHeld owning
      have takes : table.ownerKey? position = some key :=
        ownerKey?_eq_some_iff.mpr
          ⟨marker, holder, isOwner, holderHeld, owning⟩
      have ownKeyless : column.owningKey? = none := by
        simp [Column.owningKey?, keyless isColumn]
      rw [carriedKey?_of_column held active isColumn, takes, ownKeyless,
        List.flatMap_singleton, constraints_foreignStatement named single]
      rfl
  | constraint marks unclaimed =>
      have ownsNothing : (table.ownedColumn? position).isSome = false := by
        have notDeferred := unclaimed .foreignKey
        simpa only [Shorthand.test, held, marks, ↓reduceIte]
          using notDeferred
      rw [carriedKey?_of_marker held active marks, ownsNothing]
      cases column.owningKey? with
      | none => rfl
      | some key => simp
  | plain isColumn unclaimed =>
      have unowned : table.ownerOf? position = none := by
        have notCollapsed := unclaimed .foreignKey
        simpa [Shorthand.test, held, isColumn] using notCollapsed
      rw [carriedKey?_of_unowned held active isColumn (keyless isColumn)
        unowned]
      cases creation : column.creation? with
      | none => rfl
      | some written =>
          have noTarget := Column.targets_creation? creation
          simp [Line.constraints_eq_nil noTarget]

/-- The share of a column states the key that the column carries in the
end. -/
theorem constraints_share
    (keysOnMarkers :
      ∀ column ∈ table.columns,
        column.isMarker = false → column.foreignKey = none)
    (position : Nat) :
    (table.share position).flatMap Line.constraints =
      ((table.carriedKey? position).map ForeignKey.stated).toList := by
  cases held : table.column? position with
  | none => simp [share, carriedKey?, held]
  | some column =>
      cases active : column.ignored with
      | true => simp [share, carriedKey?, held, active]
      | false =>
          have keyless :=
            keysOnMarkers column (List.mem_of_getElem? held)
          obtain ⟨chosen, rendered⟩ := rendered_standard ⟨"", ""⟩ held
          have stated :=
            rendered.constraints_lines held active keyless
          rw [rendered.share_eq held active]
          cases chosen with
          | none => exact stated
          | some shorthand =>
              by_cases leaves : shorthand.leaves column = true
              · -- What leaves its line to a partner carries no key.
                have other : shorthand ≠ .foreignKey := by
                  rintro rfl
                  cases leaves
                obtain ⟨isColumn, unowned⟩ :=
                  rendered.unowned_of_ne_foreignKey held other
                rw [carriedKey?_of_unowned held active isColumn
                  (keyless isColumn) unowned]
                simp [leaves]
              · simpa [leaves] using stated

/-! ## Constraints of a table -/

/-- The enforced keys of a table, by position and as a list. -/
theorem filterMap_activeKey?_positions
    (table : Table) :
    table.positions.filterMap table.activeKey? =
      table.active.filterMap Column.owningKey? := by
  have byColumn :=
    table.filterMap_positions fun column =>
      if column.ignored then none else column.owningKey?
  rw [active, List.filterMap_filter]
  refine Eq.trans byColumn (List.filterMap_congr ?_)
  intro column _
  cases column.ignored <;> rfl

/-- Where only markers have keys, the enforced keys are those of the active
markers. -/
theorem filterMap_owningKey?_active
    (keysOnMarkers :
      ∀ column ∈ table.columns,
        column.isMarker = false → column.foreignKey = none) :
    table.active.filterMap Column.owningKey? =
      (table.columns.filter
        (fun column => column.isMarker && !column.ignored)).filterMap
          Column.owningKey? := by
  rw [active, List.filterMap_filter, List.filterMap_filter]
  refine List.filterMap_congr fun column member => ?_
  cases isMarker : column.isMarker with
  | true => simp
  | false =>
      simp [Column.owningKey?, keysOnMarkers column member isMarker]

/-- Exchanging markers with the columns that they own keeps the positions. -/
theorem positions_map_seat_perm
    (distinct : table.DistinctNames) :
    (table.positions.map table.seat).Perm table.positions := by
  have inRange :
      ∀ position ∈ table.positions,
        table.seat position ∈ table.positions := by
    intro position member
    have mem_of_held :
        ∀ {place : Nat} {found : Column},
          table.column? place = some found →
          place ∈ table.positions := fun held =>
      List.mem_range.mpr (List.getElem?_eq_some_iff.mp held).1
    rcases seat_cases distinct position with
        ⟨owned, owns⟩ | ⟨marker, owned⟩ | ⟨stays, _⟩
    · obtain ⟨_, held, _⟩ := (ownedColumn?_iff distinct).mp owns
      rw [seat_of_marker owns]
      exact mem_of_held held
    · obtain ⟨_, held, _, _, isOwner⟩ :=
        (ownedColumn?_iff distinct).mp owned
      obtain ⟨_, _, holderHeld, _⟩ := exists_of_ownerOf? held isOwner
      rw [seat_of_column distinct owned]
      exact mem_of_held holderHeld
    · rwa [stays]
  have involutive := seat_involutive distinct
  have nodup : (table.positions.map table.seat).Nodup :=
    List.nodup_range.map involutive.injective
  refine (List.perm_ext_iff_of_nodup nodup List.nodup_range).mpr ?_
  intro position
  rw [List.mem_map]
  constructor
  · rintro ⟨earlier, member, rfl⟩
    exact inRange earlier member
  · intro member
    exact ⟨table.seat position, inRange position member,
      involutive position⟩

/-- The shares of all columns state the keys of the markers. -/
theorem constraints_shares_perm
    (distinct : table.DistinctNames)
    (keysOnMarkers :
      ∀ column ∈ table.columns,
        column.isMarker = false → column.foreignKey = none) :
    ((table.positions.flatMap table.share).flatMap
        Line.constraints).Perm
      ((table.active.filterMap Column.owningKey?).map
        ForeignKey.stated) := by
  have byCarrier :
      (table.positions.flatMap table.share).flatMap Line.constraints =
        (table.positions.filterMap table.carriedKey?).map
          ForeignKey.stated := by
    rw [List.flatMap_assoc, List.map_filterMap,
      List.filterMap_eq_flatMap_toList]
    exact List.flatMap_congr fun position _ =>
      constraints_share keysOnMarkers position
  have seated :=
    (positions_map_seat_perm distinct).symm.filterMap table.carriedKey?
  rw [List.filterMap_map] at seated
  have moved : table.carriedKey? ∘ table.seat = table.activeKey? :=
    funext (carriedKey?_seat distinct keysOnMarkers)
  rw [moved, filterMap_activeKey?_positions] at seated
  rw [byCarrier]
  exact seated.map ForeignKey.stated

/-- A line of a share that states a constraint is either the explicit
constraint of a key or creates a column along with one. -/
theorem constraint_form_of_mem_share
    (position : Nat)
    {line : Line}
    (member : line ∈ table.share position)
    (states : line.constraints ≠ []) :
    ∃ key : ForeignKey,
      line.constraints = [key.stated] ∧
        (line = .statement key.constraint ∨
          ∃ column ∈ table.columns,
            column.isMarker = false ∧
              key.localColumns = [column.name] ∧
              (foreignMethod? column.kind).isSome = true ∧
              line = .statement (foreignStatement column key)) := by
  have silent : line.targets ≠ [] := fun noTarget =>
    states (Line.constraints_eq_nil noTarget)
  cases held : table.column? position with
  | none => simp [share, held] at member
  | some column =>
      cases active : column.ignored with
      | true => simp [share, held, active] at member
      | false =>
          obtain ⟨chosen, rendered⟩ := rendered_standard ⟨"", ""⟩ held
          rw [rendered.share_eq held active] at member
          split at member
          · cases member
          generalize
            (RuleSet.standard.ruleFor ⟨"", ""⟩ table position).render
              ⟨"", ""⟩ table position = rendering at rendered member
          cases rendered with
          | deferred => cases member
          | collapsed marker holder key isColumn isOwner holderHeld
              owning =>
              obtain ⟨named, single, method⟩ :=
                key_of_ownerOf? held isOwner holderHeld owning
              obtain rfl := List.mem_singleton.mp member
              exact ⟨key, constraints_foreignStatement named single,
                Or.inr ⟨column, List.mem_of_getElem? held, isColumn,
                  named, method, rfl⟩⟩
          | constraint =>
              obtain ⟨key, _, rfl⟩ :=
                Option.map_eq_some_iff.mp (Option.mem_toList.mp member)
              exact ⟨key, key.constraints_constraint, Or.inl rfl⟩
          | plain =>
              obtain ⟨written, creation, rfl⟩ :=
                Option.map_eq_some_iff.mp (Option.mem_toList.mp member)
              exact (silent (Column.targets_creation? creation)).elim
          | rememberToken =>
              obtain rfl := List.mem_singleton.mp member
              exact (silent rfl).elim
          | _ =>
              obtain rfl := List.mem_singleton.mp member
              simp at silent

end Table

namespace RuleSet

/-! ## Constraints of a resolution -/

/-- The constraints of a resolution are those of its column pass. -/
theorem flatMap_constraints_lines
    (context : RuleContext)
    (table : Table) :
    (standard.resolve context table).lines.flatMap Line.constraints =
      (standard.resolve context table).columnLines.flatMap
        Line.constraints := by
  have silent :
      ((resolveUtilities context standard.utilityRules
        (standard.resolveColumns context table.positions
          table).table).contributions.flatMap
            Contribution.lines).flatMap Line.constraints = [] := by
    rw [List.flatMap_eq_nil_iff]
    intro line member
    obtain ⟨contribution, contributes, inLines⟩ :=
      List.mem_flatMap.mp member
    obtain ⟨method, isKey, arguments, rfl⟩ :=
      exists_call_of_mem_resolveUtilities context Utility.inOrder _
        contribution contributes line inLines
    exact Line.constraints_eq_nil
      (targets_of_mem_keyMethods isKey arguments)
  rw [columnLines_resolve, Resolution.lines, resolve,
    List.flatMap_append, List.flatMap_append, silent, List.append_nil]

/-- The lines of a resolution state the keys of the active markers. -/
theorem constraints_lines_perm
    (context : RuleContext)
    {table : Table}
    (distinct : table.DistinctNames)
    (keysOnMarkers :
      ∀ column ∈ table.columns,
        column.isMarker = false → column.foreignKey = none) :
    ((standard.resolve context table).lines.flatMap
        Line.constraints).Perm
      (((table.columns.filter
        (fun column => column.isMarker && !column.ignored)).filterMap
          Column.owningKey?).map ForeignKey.stated) := by
  have shares := Table.columnLines_perm_shares context distinct
  rw [flatMap_constraints_lines,
    ← Table.filterMap_owningKey?_active keysOnMarkers]
  exact (shares.flatMap_right Line.constraints).trans
    (Table.constraints_shares_perm distinct keysOnMarkers)

/-- After a resolution, columns have the keys that they were to carry. -/
theorem activeKey?_resolve
    (context : RuleContext)
    {table : Table}
    (distinct : table.DistinctNames)
    (keysOnMarkers :
      ∀ column ∈ table.columns,
        column.isMarker = false → column.foreignKey = none)
    (position : Nat) :
    (standard.resolve context table).table.activeKey? position =
      table.carriedKey? position := by
  have pass := Table.pass_positions context table
  have unchanged :
      (standard.resolve context table).table.activeKey? position =
        (standard.resolveColumns context table.positions
          table).table.activeKey? position := by
    simp only [Table.activeKey?, Table.column?, resolve,
      columns_resolveUtilities]
  rw [unchanged, Table.activeKey?_eq_carriedKey?
    (distinct.later pass.later), pass.carriedKey?_eq List.nodup_range
      distinct (Table.Keyed.of_keysOnMarkers keysOnMarkers _)]
  intro other active
  refine pass.ownerOf?_eq_none distinct ?_ active
  by_cases inRange : other ∈ table.positions
  · exact Or.inl inRange
  · refine Or.inr ?_
    have absent : table.column? other = none := by
      simpa [Table.positions, Table.column?] using inRange
    simp [Table.ownerOf?, absent]

/--
Resolving a table with distinct column names, in which only markers have
keys, enforces every key of an active marker once.  The lines state these
keys, each as often as there are markers that have it, and no other
constraint.  A constraint is a line of its own, or it is part of the line
that creates the only local column of the key.  Afterwards every such key has
moved to just one active carrier, its marker or that column, and the table
depends on the same tables as before.
-/
theorem resolve_enforces_each_key_once
    (context : RuleContext)
    {table : Table}
    (distinct :
      ((table.columns.filter
        (fun column => !column.isMarker)).map Column.name).Nodup)
    (keysOnMarkers :
      ∀ column ∈ table.columns,
        column.isMarker = false → column.foreignKey = none) :
    ((standard.resolve context table).lines.flatMap
        Line.constraints).Perm
      (((table.columns.filter
        (fun column => column.isMarker && !column.ignored)).filterMap
          Column.owningKey?).map ForeignKey.stated) ∧
      (∀ line ∈ (standard.resolve context table).lines,
        line.constraints ≠ [] →
        ∃ key : ForeignKey,
          line.constraints = [key.stated] ∧
            (line = .statement key.constraint ∨
              ∃ column ∈ table.columns,
                column.isMarker = false ∧
                  key.localColumns = [column.name] ∧
                  (foreignMethod? column.kind).isSome = true ∧
                  line =
                    .statement (Table.foreignStatement column key))) ∧
      (∃ carrier : Equiv.Perm Nat,
        (∀ position,
          (standard.resolve context table).table.activeKey?
              (carrier position) =
            table.activeKey? position) ∧
          ∀ {marker : Nat} {holder : Column} {key : ForeignKey},
            table.column? marker = some holder →
            holder.isMarker = true →
            holder.owningKey? = some key →
            carrier marker = marker ∨
              ∃ column,
                table.column? (carrier marker) = some column ∧
                  column.isMarker = false ∧
                  key.localColumns = [column.name]) ∧
      ∀ target,
        target ∈ (standard.resolve context table).table.dependencies ↔
          target ∈ table.dependencies := by
  have apart : table.DistinctNames :=
    Table.distinctNames_of_nodup distinct
  have shares := Table.columnLines_perm_shares context apart
  have carried :=
    activeKey?_resolve context apart keysOnMarkers
  refine ⟨?_, ?_, ?_⟩
  · exact constraints_lines_perm context apart keysOnMarkers
  · intro line member states
    rcases mem_columnLines_or member with
        visit | ⟨method, isKey, arguments, rfl⟩
    · obtain ⟨position, _, inShare⟩ :=
        List.mem_flatMap.mp (shares.mem_iff.mp visit)
      exact Table.constraint_form_of_mem_share position inShare states
    · exact (states (Line.constraints_eq_nil
        (targets_of_mem_keyMethods isKey arguments))).elim
  · let carrier := (Table.seat_involutive apart).toPerm
    have carries :
        ∀ position,
          (standard.resolve context table).table.activeKey?
              (carrier position) =
            table.activeKey? position := fun position =>
      (carried _).trans
        (Table.carriedKey?_seat apart keysOnMarkers position)
    refine ⟨⟨carrier, carries, ?_⟩, ?_⟩
    · intro marker holder key held marks owning
      exact Table.seat_of_holder apart held marks owning
    · intro target
      rw [Table.mem_dependencies_iff, Table.mem_dependencies_iff]
      constructor
      · rintro ⟨position, key, hasKey, rfl⟩
        refine ⟨carrier.symm position, key, ?_, rfl⟩
        rw [← carries, Equiv.apply_symm_apply, hasKey]
      · rintro ⟨position, key, hasKey, rfl⟩
        exact ⟨carrier position, key, (carries position).trans hasKey,
          rfl⟩

/-- A key to the depots of a region. -/
def depotKey : ForeignKey :=
  { field := "depot"
    targetTable := "depots"
    localColumns := ["region", "depot_id"]
    references := ["region", "id"] }

/-- A key of one column that another key has as well. -/
def returnKey : ForeignKey :=
  { field := "returnTo"
    targetTable := "addresses"
    localColumns := ["depot_id"]
    references := ["id"] }

def orderKey : ForeignKey :=
  { field := "order"
    targetTable := "orders"
    localColumns := ["order_id"]
    references := ["id"] }

def courierKey : ForeignKey :=
  { field := "courier"
    targetTable := "couriers"
    localColumns := ["courier_id"]
    references := ["id"]
    onDelete := some .cascade }

/-- Shipments with two keys that are created along with a column, one marker
in front of its column and one behind it, and two keys that share a column
and are stated by themselves. -/
def shipmentsTable : Table :=
  { columns :=
      [ Column.plain "order_id" .bigInteger,
        Column.marker "order" (some orderKey),
        Column.plain "region" .string,
        Column.marker "depot" (some depotKey),
        Column.plain "depot_id" .bigInteger,
        Column.marker "returnTo" (some returnKey),
        Column.marker "courier" (some courierKey),
        Column.plain "courier_id" .uuid ] }

/-- All four keys of the shipments are enforced once. -/
theorem resolve_enforces_each_key_once_shipments :
    ((shipmentsTable.columns.filter
        (fun column => !column.isMarker)).map Column.name).Nodup ∧
      (∀ column ∈ shipmentsTable.columns,
        column.isMarker = false → column.foreignKey = none) ∧
      ((standard.resolve ⟨"Shipment", "shipments"⟩
          shipmentsTable).lines.flatMap Line.constraints).Perm
        ([orderKey, depotKey, returnKey, courierKey].map
          ForeignKey.stated) ∧
      ∀ target,
        target ∈ (standard.resolve ⟨"Shipment", "shipments"⟩
            shipmentsTable).table.dependencies ↔
          target ∈ shipmentsTable.dependencies := by
  have distinct :
      ((shipmentsTable.columns.filter
        (fun column => !column.isMarker)).map Column.name).Nodup := by
    decide
  have keysOnMarkers :
      ∀ column ∈ shipmentsTable.columns,
        column.isMarker = false → column.foreignKey = none := by
    decide
  obtain ⟨once, _, _, depends⟩ :=
    resolve_enforces_each_key_once ⟨"Shipment", "shipments"⟩ distinct
      keysOnMarkers
  exact ⟨distinct, keysOnMarkers, once, depends⟩

end RuleSet

end Tablewright
