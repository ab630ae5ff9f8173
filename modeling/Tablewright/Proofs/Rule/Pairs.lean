import Tablewright.Proofs.Rule.Pass

namespace Tablewright

/-!
# Pairs of columns

Two shorthands create a pair of columns at once.  Either column of a pair
recognises the other one, as long as both are active.  Rendering some column
never makes a new pair, so a pair that is left has been there from the start.
-/

namespace Table

/-- Two active timestamps of one kind and precision with matching names. -/
structure Stamped
    (table : Table)
    (zoned : Bool)
    (position sibling : Nat)
    (column found : Column) : Prop where
  held : table.column? position = some column
  foundHeld : table.column? sibling = some found
  active : column.ignored = false
  foundActive : found.ignored = false
  kind : column.kind = timestampKind zoned
  foundKind : found.kind = timestampKind zoned
  arguments_eq : found.arguments = column.arguments
  named : otherTimestamp? column.name = some found.name

/-- Two active columns that make a discriminator pair of a family. -/
structure Morphed
    (table : Table)
    (family : MorphFamily)
    (pair : MorphPair)
    (idColumn typeColumn : Column) : Prop where
  idHeld : table.column? pair.idColumn = some idColumn
  typeHeld : table.column? pair.typeColumn = some typeColumn
  idActive : idColumn.ignored = false
  typeActive : typeColumn.ignored = false
  idIsColumn : idColumn.isMarker = false
  typeIsColumn : typeColumn.isMarker = false
  based : pair.base ≠ ""
  idNamed : idColumn.name = pair.base ++ "_id"
  typeNamed : typeColumn.name = pair.base ++ "_type"
  isPair : table.isPairOf family idColumn typeColumn = true

/-- A discriminator pair stands at two positions, in either order. -/
def MorphPair.At
    (pair : MorphPair)
    (position other : Nat) : Prop :=
  (position = pair.idColumn ∧ other = pair.typeColumn) ∨
    (position = pair.typeColumn ∧ other = pair.idColumn)

/-- Two positions hold the pair of a shorthand. -/
def Partners
    (table : Table)
    (shorthand : Shorthand)
    (position other : Nat) : Prop :=
  match shorthand with
  | .timestamps zoned =>
      ∃ column found, table.Stamped zoned position other column found
  | .morphs family =>
      ∃ pair idColumn typeColumn,
        table.Morphed family pair idColumn typeColumn ∧
          pair.At position other
  | _ => False

namespace Stamped

variable {table : Table} {zoned : Bool} {position sibling : Nat}
variable {column found : Column}

/-- Being a pair of timestamps does not depend on the order. -/
theorem symm
    (stamped : table.Stamped zoned position sibling column found) :
    table.Stamped zoned sibling position found column where
  held := stamped.foundHeld
  foundHeld := stamped.held
  active := stamped.foundActive
  foundActive := stamped.active
  kind := stamped.foundKind
  foundKind := stamped.kind
  arguments_eq := stamped.arguments_eq.symm
  named := by
    rcases otherTimestamp?_eq_some_iff.mp stamped.named with
        ⟨created, updated⟩ | ⟨updated, created⟩
    · rw [created, updated]
      rfl
    · rw [created, updated]
      rfl

/-- The timestamps of a pair stand at different positions. -/
theorem ne
    (stamped : table.Stamped zoned position sibling column found) :
    position ≠ sibling := by
  rintro rfl
  obtain rfl := Option.some.inj (stamped.held.symm.trans stamped.foundHeld)
  rcases otherTimestamp?_eq_some_iff.mp stamped.named with
      ⟨created, updated⟩ | ⟨updated, created⟩
  · exact absurd (created.symm.trans updated) (by decide)
  · exact absurd (created.symm.trans updated) (by decide)

/-- An active timestamp makes a pair with the sibling that it finds. -/
theorem of_timestampSibling?
    (held : table.column? position = some column)
    (active : column.ignored = false)
    (isSibling :
      table.timestampSibling? zoned position = some sibling) :
    ∃ found, table.Stamped zoned position sibling column found := by
  obtain ⟨_, other, found, sameHeld, kind, named, isActive, foundHeld,
      sameKind, sameArguments⟩ :=
    timestampSibling?_eq_some_iff.mp isSibling
  obtain rfl := Option.some.inj (held.symm.trans sameHeld)
  obtain ⟨_, sameFound, _, foundActive, rfl⟩ :=
    column?_of_findActive? isActive
  obtain rfl := Option.some.inj (foundHeld.symm.trans sameFound)
  exact ⟨found, held, foundHeld, active, foundActive, kind,
    sameKind.trans kind, sameArguments, named⟩

/-- Among distinct names, the timestamps of a pair find each other. -/
theorem timestampSibling?_eq_some
    (stamped : table.Stamped zoned position sibling column found)
    (distinct : table.DistinctNames) :
    table.timestampSibling? zoned position = some sibling := by
  have isActive :=
    distinct.findActive?_eq_some stamped.foundHeld
      (isMarker_eq_false_of_timestamp stamped.foundKind)
      stamped.foundActive
  exact timestampSibling?_eq_some_iff.mpr
    ⟨column, found.name, found, stamped.held, stamped.kind,
      stamped.named, isActive, stamped.foundHeld,
      stamped.foundKind.trans stamped.kind.symm, stamped.arguments_eq⟩

/-- A pair of timestamps has been one in every earlier state. -/
theorem before
    {after : Table}
    (stamped : after.Stamped zoned position sibling column found)
    (later : Later table after) :
    ∃ column found,
      table.Stamped zoned position sibling column found := by
  obtain ⟨earlier, earlierHeld, changes⟩ :=
    later.column?_before stamped.held
  obtain ⟨foundEarlier, foundEarlierHeld, foundChanges⟩ :=
    later.column?_before stamped.foundHeld
  refine ⟨earlier, foundEarlier, earlierHeld, foundEarlierHeld,
    changes.ignored_eq_false stamped.active,
    foundChanges.ignored_eq_false stamped.foundActive, ?_, ?_, ?_, ?_⟩
  · rw [← changes.kind_eq, stamped.kind]
  · rw [← foundChanges.kind_eq, stamped.foundKind]
  · rw [← foundChanges.arguments_eq, ← changes.arguments_eq,
      stamped.arguments_eq]
  · rw [← foundChanges.name_eq, ← changes.name_eq, stamped.named]

end Stamped

namespace Morphed

variable {table : Table} {family : MorphFamily} {pair : MorphPair}
variable {idColumn typeColumn : Column}

/-- The columns of a discriminator pair stand at different positions. -/
theorem ne
    (morphed : table.Morphed family pair idColumn typeColumn) :
    pair.idColumn ≠ pair.typeColumn := by
  intro same
  have held := morphed.idHeld
  rw [same, morphed.typeHeld] at held
  have sameName := congrArg Column.name (Option.some.inj held)
  rw [morphed.idNamed, morphed.typeNamed] at sameName
  exact id_ending_ne_type_ending _ _ sameName.symm

/-- An active column makes a discriminator pair with the one it finds. -/
theorem of_morphPair?
    {position : Nat}
    {column : Column}
    (held : table.column? position = some column)
    (active : column.ignored = false)
    (found : table.morphPair? family position = some pair) :
    ∃ idColumn typeColumn other,
      table.Morphed family pair idColumn typeColumn ∧
        pair.At position other := by
  obtain ⟨_, idColumn, typeColumn, sameHeld, isColumn, named, based,
      idHeld, typeHeld, isPair⟩ :=
    morphPair?_eq_some_iff.mp found
  obtain rfl := Option.some.inj (held.symm.trans sameHeld)
  rcases namedPair?_eq_some_iff.mp named with
      ⟨idNamed, rfl, isActive⟩ | ⟨typeNamed, rfl, isActive⟩
  · obtain rfl := Option.some.inj (held.symm.trans idHeld)
    obtain ⟨_, sameType, typeIsColumn, typeActive, typeNamed⟩ :=
      column?_of_findActive? isActive
    obtain rfl := Option.some.inj (typeHeld.symm.trans sameType)
    exact ⟨_, _, _, ⟨idHeld, typeHeld, active, typeActive, isColumn,
      typeIsColumn, based, idNamed, typeNamed, isPair⟩,
      Or.inl ⟨rfl, rfl⟩⟩
  · obtain rfl := Option.some.inj (held.symm.trans typeHeld)
    obtain ⟨_, sameId, idIsColumn, idActive, idNamed⟩ :=
      column?_of_findActive? isActive
    obtain rfl := Option.some.inj (idHeld.symm.trans sameId)
    exact ⟨_, _, _, ⟨idHeld, typeHeld, idActive, active, idIsColumn,
      isColumn, based, idNamed, typeNamed, isPair⟩,
      Or.inr ⟨rfl, rfl⟩⟩

/-- Among distinct names, either column of a discriminator pair finds the
pair. -/
theorem morphPair?_eq_some
    (morphed : table.Morphed family pair idColumn typeColumn)
    (distinct : table.DistinctNames)
    {position other : Nat}
    (places : pair.At position other) :
    table.morphPair? family position = some pair := by
  have idFound :=
    distinct.findActive?_eq_some morphed.idHeld morphed.idIsColumn
      morphed.idActive
  have typeFound :=
    distinct.findActive?_eq_some morphed.typeHeld morphed.typeIsColumn
      morphed.typeActive
  rw [morphed.idNamed] at idFound
  rw [morphed.typeNamed] at typeFound
  rcases places with ⟨rfl, _⟩ | ⟨rfl, _⟩
  · exact morphPair?_eq_some_iff.mpr
      ⟨idColumn, idColumn, typeColumn, morphed.idHeld,
        morphed.idIsColumn,
        namedPair?_eq_some_iff.mpr
          (Or.inl ⟨morphed.idNamed, rfl, typeFound⟩),
        morphed.based, morphed.idHeld, morphed.typeHeld,
        morphed.isPair⟩
  · exact morphPair?_eq_some_iff.mpr
      ⟨typeColumn, idColumn, typeColumn, morphed.typeHeld,
        morphed.typeIsColumn,
        namedPair?_eq_some_iff.mpr
          (Or.inr ⟨morphed.typeNamed, rfl, idFound⟩),
        morphed.based, morphed.idHeld, morphed.typeHeld,
        morphed.isPair⟩

/-- A discriminator pair has been one in an earlier state, provided that
its first column was claimed by no marker that claims it no more. -/
theorem before
    {after : Table}
    (morphed : after.Morphed family pair idColumn typeColumn)
    (later : Later table after)
    (stillClaimed :
      ∀ marker ∈ table.markersClaiming idColumn.name,
        marker ∈ after.markersClaiming idColumn.name) :
    ∃ idColumn typeColumn,
      table.Morphed family pair idColumn typeColumn := by
  obtain ⟨idEarlier, idEarlierHeld, idChanges⟩ :=
    later.column?_before morphed.idHeld
  obtain ⟨typeEarlier, typeEarlierHeld, typeChanges⟩ :=
    later.column?_before morphed.typeHeld
  obtain ⟨accepted, typeKind, nullable, idPrimary, typePrimary, idKey,
      typeKey, unclaimed⟩ :=
    isPairOf_iff.mp morphed.isPair
  refine ⟨idEarlier, typeEarlier, idEarlierHeld, typeEarlierHeld,
    idChanges.ignored_eq_false morphed.idActive,
    typeChanges.ignored_eq_false morphed.typeActive, ?_, ?_,
    morphed.based, ?_, ?_, isPairOf_iff.mpr ⟨?_, ?_, ?_, ?_, ?_,
      idChanges.keepsKey idKey, typeChanges.keepsKey typeKey, ?_⟩⟩
  · rw [← idChanges.isMarker_eq, morphed.idIsColumn]
  · rw [← typeChanges.isMarker_eq, morphed.typeIsColumn]
  · rw [← idChanges.name_eq, morphed.idNamed]
  · rw [← typeChanges.name_eq, morphed.typeNamed]
  · cases family <;>
      simpa [MorphFamily.accepts, idChanges.kind_eq,
        idChanges.autoIncrement_eq] using accepted
  · rw [← typeChanges.kind_eq, typeKind]
  · rw [← idChanges.nullable_eq, ← typeChanges.nullable_eq, nullable]
  · rw [← idChanges.primary_eq, idPrimary]
  · rw [← typeChanges.primary_eq, typePrimary]
  · rw [← idChanges.name_eq, List.eq_nil_iff_forall_not_mem]
    intro marker claims
    have claimsLater := stillClaimed marker claims
    rw [unclaimed] at claimsLater
    cases claimsLater

end Morphed

namespace Partners

variable {table : Table} {shorthand : Shorthand}
variable {position other : Nat}

/-- Being partners does not depend on the order. -/
theorem symm
    (partners : table.Partners shorthand position other) :
    table.Partners shorthand other position := by
  cases shorthand with
  | timestamps zoned =>
      obtain ⟨column, found, stamped⟩ := partners
      exact ⟨found, column, stamped.symm⟩
  | morphs family =>
      obtain ⟨pair, idColumn, typeColumn, morphed, places⟩ := partners
      exact ⟨pair, idColumn, typeColumn, morphed,
        (Or.symm places).imp And.symm And.symm⟩
  | _ => exact partners.elim

/-- Partners stand at different positions. -/
theorem ne
    (partners : table.Partners shorthand position other) :
    position ≠ other := by
  cases shorthand with
  | timestamps zoned =>
      obtain ⟨column, found, stamped⟩ := partners
      exact stamped.ne
  | morphs family =>
      obtain ⟨pair, idColumn, typeColumn, morphed, places⟩ := partners
      rcases places with ⟨rfl, rfl⟩ | ⟨rfl, rfl⟩
      · exact morphed.ne
      · exact morphed.ne.symm
  | _ => exact partners.elim

/-- Partners are active columns of the table. -/
theorem exists_active
    (partners : table.Partners shorthand position other) :
    ∃ column,
      table.column? position = some column ∧
        column.ignored = false := by
  cases shorthand with
  | timestamps zoned =>
      obtain ⟨column, found, stamped⟩ := partners
      exact ⟨column, stamped.held, stamped.active⟩
  | morphs family =>
      obtain ⟨pair, idColumn, typeColumn, morphed, places⟩ := partners
      rcases places with ⟨rfl, _⟩ | ⟨rfl, _⟩
      · exact ⟨idColumn, morphed.idHeld, morphed.idActive⟩
      · exact ⟨typeColumn, morphed.typeHeld, morphed.typeActive⟩
  | _ => exact partners.elim

/-- A partner is not passed over. -/
theorem isIgnored_eq_false
    (partners : table.Partners shorthand position other) :
    table.isIgnored position = false := by
  obtain ⟨column, held, active⟩ := partners.exists_active
  rw [isIgnored_of_column? held, active]

/-- A shorthand recognises the columns that it pairs. -/
theorem test_eq_true
    (partners : table.Partners shorthand position other)
    (distinct : table.DistinctNames) :
    shorthand.test table position = true := by
  cases shorthand with
  | timestamps zoned =>
      obtain ⟨column, found, stamped⟩ := partners
      simp [Shorthand.test, stamped.timestampSibling?_eq_some distinct]
  | morphs family =>
      obtain ⟨pair, idColumn, typeColumn, morphed, places⟩ := partners
      have found := morphed.morphPair?_eq_some distinct places
      simp [Shorthand.test, found]
  | _ => exact partners.elim

end Partners

namespace Rendered

variable {table : Table} {position : Nat} {column : Column}
variable {chosen : Option Shorthand} {rendering : Rendering}

/-- Rendering a column suppresses its partner. -/
theorem isIgnored_partner
    (rendered : Rendered table position column chosen rendering)
    (held : table.column? position = some column)
    (distinct : table.DistinctNames)
    {shorthand : Shorthand}
    {other : Nat}
    (partners : table.Partners shorthand position other) :
    rendering.table.isIgnored other = true := by
  obtain rfl :=
    rendered.eq_some_of_test held (partners.test_eq_true distinct)
  cases rendered with
  | timestamps zoned sibling found =>
      obtain ⟨_, isFound, stamped⟩ := partners
      rw [stamped.timestampSibling?_eq_some distinct] at found
      obtain rfl := Option.some.inj found
      rw [isIgnored_of_column?
        (column?_suppress_self stamped.foundHeld)]
  | morphs family pair idColumn found idHeld =>
      obtain ⟨samePair, _, typeColumn, morphed, places⟩ := partners
      rw [morphed.morphPair?_eq_some distinct places] at found
      obtain rfl := (Option.some.inj found).symm
      rcases places with ⟨_, rfl⟩ | ⟨_, rfl⟩
      · have typeHeld :
            (table.suppress pair.idColumn).column? pair.typeColumn =
              some typeColumn := by
          rw [column?_suppress_of_ne morphed.ne, morphed.typeHeld]
        rw [isIgnored_of_column? (column?_suppress_self typeHeld)]
      · have idSuppressed := column?_suppress_self morphed.idHeld
        rw [← column?_suppress_of_ne morphed.ne.symm] at idSuppressed
        rw [isIgnored_of_column? idSuppressed]
  | _ => exact partners.elim

/-- When a column takes over the key of its owner, it is left with a key. -/
theorem foreignKey_ne_none_of_attach
    {owner : Nat}
    (held : table.column? position = some column)
    (isColumn : column.isMarker = false)
    (distinct : table.DistinctNames)
    (isOwner : table.ownerOf? position = some owner)
    {key : ForeignKey}
    {other : Nat}
    {claimed : Column}
    (claimedHeld :
      ((table.suppress owner).attach position key).column? other =
        some claimed)
    (claimedIsColumn : claimed.isMarker = false)
    (claims : owner ∈ table.markersClaiming claimed.name) :
    claimed.foreignKey ≠ none := by
  obtain ⟨_, _, holderHeld, _, _, owning, member⟩ :=
    mem_markersClaiming.mp claims
  obtain ⟨_, _, sameHolder, _, _, sameOwning, single⟩ :=
    exists_of_ownerOf? held isOwner
  obtain rfl := Option.some.inj (holderHeld.symm.trans sameHolder)
  obtain rfl := Option.some.inj (owning.symm.trans sameOwning)
  rw [single, List.mem_singleton] at member
  have later :
      Later table ((table.suppress owner).attach position key) :=
    (Later.suppress table owner).trans (Later.attach _ position key)
  have stillHeld :
      (table.suppress owner).column? position = some column := by
    rw [column?_suppress_of_ne (ne_of_ownerOf? held isColumn isOwner),
      held]
  have positionHeld :
      ((table.suppress owner).attach position key).column? position =
        some { column with foreignKey := some key } :=
    column?_update_self stillHeld _
  have same : other = position :=
    distinct.later later claimedHeld positionHeld claimedIsColumn
      isColumn member
  rw [same, positionHeld] at claimedHeld
  obtain rfl := Option.some.inj claimedHeld
  simp

/-- Rendering a column releases a marker only if the marker is created along
with that column. -/
theorem still_claims
    (rendered : Rendered table position column chosen rendering)
    (held : table.column? position = some column)
    (distinct : table.DistinctNames)
    {other : Nat}
    {claimed : Column}
    (claimedHeld : rendering.table.column? other = some claimed)
    (isColumn : claimed.isMarker = false)
    (keyless : claimed.foreignKey = none) :
    ∀ marker ∈ table.markersClaiming claimed.name,
      marker ∈ rendering.table.markersClaiming claimed.name := by
  intro marker claims
  obtain ⟨holder, key, holderHeld, marks, active, owning, member⟩ :=
    mem_markersClaiming.mp claims
  suffices kept : rendering.table.column? marker = some holder from
    mem_markersClaiming.mpr
      ⟨holder, key, kept, marks, active, owning, member⟩
  have apart :
      ∀ {place : Nat} {plain : Column},
        table.column? place = some plain →
        plain.isMarker = false →
        place ≠ marker := by
    rintro place plain placeHeld placeIsColumn rfl
    obtain rfl := Option.some.inj (holderHeld.symm.trans placeHeld)
    rw [marks] at placeIsColumn
    cases placeIsColumn
  cases rendered with
  | timestamps zoned sibling found =>
      obtain ⟨_, _, siblingColumn, _, kind, _, _, siblingHeld,
          sameKind, _⟩ :=
        timestampSibling?_eq_some_iff.mp found
      have siblingIsColumn :=
        isMarker_eq_false_of_timestamp (sameKind.trans kind)
      rw [column?_suppress_of_ne (apart siblingHeld siblingIsColumn),
        holderHeld]
  | collapsed owner ownerColumn ownerKey positionIsColumn isOwner =>
      have notPosition := apart held positionIsColumn
      by_cases isMarker : owner = marker
      · rw [← isMarker] at claims
        exact absurd keyless
          (foreignKey_ne_none_of_attach held positionIsColumn distinct
            isOwner claimedHeld isColumn claims)
      · rw [attach, column?_update_of_ne notPosition,
          column?_suppress_of_ne isMarker, holderHeld]
  | morphs family pair idColumn found idHeld =>
      obtain ⟨_, _, typeColumn, _, _, _, _, sameId, typeHeld, isPair⟩ :=
        morphPair?_eq_some_iff.mp found
      obtain rfl := Option.some.inj (idHeld.symm.trans sameId)
      obtain ⟨accepted, typeKind, _⟩ := isPairOf_iff.mp isPair
      have idIsColumn : idColumn.isMarker = false :=
        isMarker_eq_false_of_accepts accepted
      have typeIsColumn : typeColumn.isMarker = false := by
        rw [Column.isMarker, typeKind]
        rfl
      rw [column?_suppress_of_ne (apart typeHeld typeIsColumn),
        column?_suppress_of_ne (apart idHeld idIsColumn), holderHeld]
  | _ => exact holderHeld

/-- Rendering a column makes no new partners. -/
theorem partners_before
    (rendered : Rendered table position column chosen rendering)
    (held : table.column? position = some column)
    (distinct : table.DistinctNames)
    {shorthand : Shorthand}
    {first second : Nat}
    (partners : rendering.table.Partners shorthand first second) :
    table.Partners shorthand first second := by
  cases shorthand with
  | timestamps zoned =>
      obtain ⟨_, _, stamped⟩ := partners
      exact stamped.before rendered.later
  | morphs family =>
      obtain ⟨pair, idColumn, typeColumn, morphed, places⟩ := partners
      obtain ⟨_, _, _, _, _, keyless, _⟩ :=
        isPairOf_iff.mp morphed.isPair
      obtain ⟨idEarlier, typeEarlier, before⟩ :=
        morphed.before rendered.later
          (rendered.still_claims held distinct morphed.idHeld
            morphed.idIsColumn keyless)
      exact ⟨pair, idEarlier, typeEarlier, before, places⟩
  | _ => exact partners.elim

/-- The partners of a column that is left are left as well. -/
theorem partner_mem
    (rendered : Rendered table position column chosen rendering)
    (held : table.column? position = some column)
    (distinct : table.DistinctNames)
    {positions : List Nat}
    (closed :
      ∀ shorthand, ∀ first ∈ position :: positions, ∀ second,
        table.Partners shorthand first second →
        second ∈ position :: positions) :
    ∀ shorthand, ∀ first ∈ positions, ∀ second,
      rendering.table.Partners shorthand first second →
      second ∈ positions := by
  intro shorthand first left second partners
  have partnersBefore :=
    rendered.partners_before held distinct partners
  have member :=
    closed shorthand first (List.mem_cons_of_mem _ left) second
      partnersBefore
  rcases List.mem_cons.mp member with rfl | member
  · -- The visit has suppressed every partner of the visited column, but
    -- partners are active.
    have suppressed :=
      rendered.isIgnored_partner held distinct partnersBefore.symm
    rw [partners.isIgnored_eq_false] at suppressed
    cases suppressed
  · exact member

end Rendered

end Table

end Tablewright
