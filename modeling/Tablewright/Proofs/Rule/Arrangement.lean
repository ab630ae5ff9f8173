import Mathlib.Data.List.Perm.Basic
import Mathlib.Logic.Equiv.Basic
import Tablewright.Proofs.Rule.Creation
import Tablewright.Proofs.Rule.Lines

namespace Tablewright

/-!
# The order of the columns

Two tables with the same columns in different orders differ by a renaming of
positions.  Everything that a rule looks at is renamed along: the column of a
name, the claims on it, its owner, its partner.  So a column has the same
share in either table, and a pass adds the same lines up to their order.
-/

open Code

namespace Table

/-- Two tables hold the same columns, at positions that are renamed. -/
structure Rearranged
    (before after : Table)
    (place : Equiv.Perm Nat) : Prop where
  column?_eq :
    ∀ position, after.column? (place position) = before.column? position

/-- The columns of a list are found at renamed positions in a permutation of
the list. -/
theorem exists_place_of_perm
    {first second : List Column}
    (permuted : first.Perm second) :
    ∃ place : Equiv.Perm Nat,
      ∀ position : Nat, second[place position]? = first[position]? := by
  induction permuted with
  | nil =>
      exact ⟨Equiv.refl Nat, fun _ => rfl⟩
  | cons column _ inductionHypothesis =>
      obtain ⟨place, places⟩ := inductionHypothesis
      let shifted : Equiv.Perm Nat :=
        { toFun := Nat.rec 0 fun behind _ => place behind + 1
          invFun := Nat.rec 0 fun behind _ => place.symm behind + 1
          left_inv := fun position => by cases position <;> simp
          right_inv := fun position => by cases position <;> simp }
      refine ⟨shifted, fun position => ?_⟩
      cases position with
      | zero => rfl
      | succ behind => exact places behind
  | swap column other rest =>
      refine ⟨Equiv.swap 0 1, fun position => ?_⟩
      rcases position with _ | _ | behind
      · simp
      · simp
      · rw [Equiv.swap_apply_of_ne_of_ne (by omega) (by omega)]
        rfl
  | trans _ _ firstHypothesis secondHypothesis =>
      obtain ⟨firstPlace, firstPlaces⟩ := firstHypothesis
      obtain ⟨secondPlace, secondPlaces⟩ := secondHypothesis
      refine ⟨firstPlace.trans secondPlace, fun position => ?_⟩
      rw [Equiv.trans_apply, secondPlaces, firstPlaces]

namespace Rearranged

variable {before after : Table} {place : Equiv.Perm Nat}

theorem symm
    (rearranged : Rearranged before after place) :
    Rearranged after before place.symm where
  column?_eq := fun position => by
    rw [← rearranged.column?_eq, Equiv.apply_symm_apply]

theorem distinctNames
    (rearranged : Rearranged before after place)
    (distinct : before.DistinctNames) :
    after.DistinctNames := by
  intro first second left right leftHeld rightHeld leftColumn rightColumn
    sameName
  rw [← rearranged.symm.column?_eq] at leftHeld rightHeld
  have same :=
    distinct leftHeld rightHeld leftColumn rightColumn sameName
  exact place.symm.injective same

/-! ## Positions -/

theorem mem_positions_iff
    (rearranged : Rearranged before after place)
    (position : Nat) :
    place position ∈ after.positions ↔ position ∈ before.positions := by
  have sameHeld := rearranged.column?_eq position
  have inRange :
      ∀ (table : Table) (position : Nat),
        position ∈ table.positions ↔
          (table.column? position).isSome = true := by
    intro table position
    simp [positions, column?]
  rw [inRange, inRange, sameHeld]

theorem positions_perm
    (rearranged : Rearranged before after place) :
    (before.positions.map place).Perm after.positions := by
  have nodup : (before.positions.map place).Nodup :=
    List.nodup_range.map place.injective
  refine (List.perm_ext_iff_of_nodup nodup List.nodup_range).mpr ?_
  intro position
  have member := rearranged.mem_positions_iff (place.symm position)
  rw [Equiv.apply_symm_apply] at member
  rw [positions, List.mem_map, ← positions, ← positions, member]
  constructor
  · rintro ⟨earlier, inRange, rfl⟩
    rwa [Equiv.symm_apply_apply]
  · intro inRange
    exact ⟨place.symm position, inRange, place.apply_symm_apply position⟩

theorem positionsWhere_perm
    (rearranged : Rearranged before after place)
    (property : Column → Bool) :
    ((before.positionsWhere property).map place).Perm
      (after.positionsWhere property) := by
  have kept :=
    rearranged.positions_perm.filter
      (fun position =>
        ((after.column? position).map property).getD false)
  rw [List.filter_map] at kept
  simpa only [positionsWhere, Function.comp_def, rearranged.column?_eq]
    using kept

theorem markersClaiming_perm
    (rearranged : Rearranged before after place)
    (name : String) :
    ((before.markersClaiming name).map place).Perm
      (after.markersClaiming name) :=
  rearranged.positionsWhere_perm (claims name)

theorem primaryColumns_length
    (rearranged : Rearranged before after place) :
    after.primaryColumns.length = before.primaryColumns.length := by
  have sameLength :=
    (rearranged.positionsWhere_perm isKeyColumn).length_eq
  rw [List.length_map] at sameLength
  exact sameLength.symm

/-! ## What a rule looks at -/

theorem ownerOf?_eq_some
    (rearranged : Rearranged before after place)
    {position marker : Nat}
    (isOwner : before.ownerOf? position = some marker) :
    after.ownerOf? (place position) = some (place marker) := by
  obtain ⟨column, holder, key, held, method, counts, claimed, holderHeld,
      single⟩ :=
    ownerOf?_eq_some_iff.mp isOwner
  have claimedThere := rearranged.markersClaiming_perm column.name
  rw [claimed, List.map_singleton, List.singleton_perm] at claimedThere
  rw [← rearranged.column?_eq] at held holderHeld
  exact ownerOf?_eq_some_iff.mpr
    ⟨column, holder, key, held, method, counts, claimedThere.symm,
      holderHeld, single⟩

theorem ownerOf?_eq
    (rearranged : Rearranged before after place)
    (position : Nat) :
    after.ownerOf? (place position) =
      (before.ownerOf? position).map place := by
  cases owner : before.ownerOf? position with
  | some marker =>
      rw [rearranged.ownerOf?_eq_some owner, Option.map_some]
  | none =>
      cases ownerThere : after.ownerOf? (place position) with
      | none => rfl
      | some marker =>
          have isOwner := rearranged.symm.ownerOf?_eq_some ownerThere
          rw [Equiv.symm_apply_apply, owner] at isOwner
          cases isOwner

theorem ownerKey?_eq
    (rearranged : Rearranged before after place)
    (position : Nat) :
    after.ownerKey? (place position) = before.ownerKey? position := by
  cases owner : before.ownerOf? position with
  | none =>
      have ownerThere := rearranged.ownerOf?_eq position
      rw [owner, Option.map_none] at ownerThere
      rw [ownerKey?_eq_none owner, ownerKey?_eq_none ownerThere]
  | some marker =>
      simp [ownerKey?, rearranged.ownerOf?_eq, owner,
        rearranged.column?_eq]

theorem ownedColumn?_eq_some
    (rearranged : Rearranged before after place)
    (distinct : before.DistinctNames)
    {position marker : Nat}
    (owned : before.ownedColumn? marker = some position) :
    after.ownedColumn? (place marker) = some (place position) := by
  obtain ⟨column, held, isColumn, active, isOwner⟩ :=
    (ownedColumn?_iff distinct).mp owned
  rw [← rearranged.column?_eq] at held
  exact (ownedColumn?_iff (rearranged.distinctNames distinct)).mpr
    ⟨column, held, isColumn, active, rearranged.ownerOf?_eq_some isOwner⟩

theorem isSome_ownedColumn?_eq
    (rearranged : Rearranged before after place)
    (distinct : before.DistinctNames)
    (marker : Nat) :
    (after.ownedColumn? (place marker)).isSome =
      (before.ownedColumn? marker).isSome := by
  cases owned : before.ownedColumn? marker with
  | some position =>
      rw [rearranged.ownedColumn?_eq_some distinct owned]
      rfl
  | none =>
      cases ownedThere : after.ownedColumn? (place marker) with
      | none => rfl
      | some position =>
          have isOwned :=
            rearranged.symm.ownedColumn?_eq_some
              (rearranged.distinctNames distinct) ownedThere
          rw [Equiv.symm_apply_apply, owned] at isOwned
          cases isOwned

theorem stamped
    (rearranged : Rearranged before after place)
    {zoned : Bool}
    {position sibling : Nat}
    {column found : Column}
    (pair : before.Stamped zoned position sibling column found) :
    after.Stamped zoned (place position) (place sibling) column found :=
  { pair with
    held := by rw [rearranged.column?_eq, pair.held]
    foundHeld := by rw [rearranged.column?_eq, pair.foundHeld] }

theorem isPairOf_eq
    (rearranged : Rearranged before after place)
    (family : MorphFamily)
    (idColumn typeColumn : Column) :
    after.isPairOf family idColumn typeColumn =
      before.isPairOf family idColumn typeColumn := by
  have sameClaims :
      after.markersClaiming idColumn.name = [] ↔
        before.markersClaiming idColumn.name = [] := by
    have permuted := rearranged.markersClaiming_perm idColumn.name
    rw [← List.length_eq_zero_iff, ← permuted.length_eq,
      List.length_map, List.length_eq_zero_iff]
  rw [Bool.eq_iff_iff, isPairOf_iff, isPairOf_iff, sameClaims]

theorem morphed
    (rearranged : Rearranged before after place)
    {family : MorphFamily}
    {pair : MorphPair}
    {idColumn typeColumn : Column}
    (morphs : before.Morphed family pair idColumn typeColumn) :
    after.Morphed family
      ⟨place pair.idColumn, place pair.typeColumn, pair.base⟩
      idColumn typeColumn :=
  { morphs with
    idHeld := by rw [rearranged.column?_eq, morphs.idHeld]
    typeHeld := by rw [rearranged.column?_eq, morphs.typeHeld]
    isPair := by rw [rearranged.isPairOf_eq, morphs.isPair] }

theorem morphText?_eq_some
    (rearranged : Rearranged before after place)
    (distinct : before.DistinctNames)
    {family : MorphFamily}
    {position : Nat}
    {column : Column}
    (held : before.column? position = some column)
    (active : column.ignored = false)
    {text : MorphText}
    (known : before.morphText? family position = some text) :
    after.morphText? family (place position) = some text := by
  obtain ⟨pair, idColumn, typeColumn, other, morphs, places, rfl⟩ :=
    Morphed.of_morphText? held active known
  have placesThere :
      MorphPair.At
        ⟨place pair.idColumn, place pair.typeColumn, pair.base⟩
        (place position) (place other) :=
    places.imp
      (And.imp (congrArg place) (congrArg place))
      (And.imp (congrArg place) (congrArg place))
  exact (rearranged.morphed morphs).morphText?_eq
    (rearranged.distinctNames distinct) placesThere

/-- A column looks the same from its new position. -/
theorem alike
    (rearranged : Rearranged before after place)
    (distinct : before.DistinctNames)
    {position : Nat}
    {column : Column}
    (held : before.column? position = some column)
    (active : column.ignored = false) :
    Alike before after position (place position) where
  column?_eq := rearranged.column?_eq position
  isIdentity_eq := by
    simp only [isIdentity, rearranged.column?_eq,
      rearranged.primaryColumns_length]
  stamped_eq := fun zoned => by
    have distinctThere : after.DistinctNames :=
      rearranged.distinctNames distinct
    have heldThere := held
    rw [← rearranged.column?_eq] at heldThere
    rw [Bool.eq_iff_iff,
      isSome_timestampSibling?_iff distinctThere heldThere active,
      isSome_timestampSibling?_iff distinct held active]
    constructor
    · rintro ⟨sibling, found, pair⟩
      have back := rearranged.symm.stamped pair
      rw [Equiv.symm_apply_apply] at back
      exact ⟨place.symm sibling, found, back⟩
    · rintro ⟨sibling, found, pair⟩
      exact ⟨place sibling, found, rearranged.stamped pair⟩
  ownerKey?_eq := rearranged.ownerKey?_eq position
  owned_eq := rearranged.isSome_ownedColumn?_eq distinct position
  morphText?_eq := fun family => by
    have heldThere := held
    rw [← rearranged.column?_eq] at heldThere
    cases known : before.morphText? family position with
    | some text =>
        exact rearranged.morphText?_eq_some distinct held active known
    | none =>
        cases knownThere : after.morphText? family (place position) with
        | none => rfl
        | some text =>
            have back :=
              rearranged.symm.morphText?_eq_some
                (rearranged.distinctNames distinct) heldThere active
                knownThere
            rw [Equiv.symm_apply_apply, known] at back
            cases back

/-! ## Shares -/

theorem share_eq
    (rearranged : Rearranged before after place)
    (distinct : before.DistinctNames)
    (position : Nat) :
    after.share (place position) = before.share position := by
  have sameHeld := rearranged.column?_eq position
  by_cases ignored : before.isIgnored position = true
  · have ignoredThere : after.isIgnored (place position) = true := by
      rw [isIgnored, sameHeld, ← isIgnored, ignored]
    rw [share_of_isIgnored ignored, share_of_isIgnored ignoredThere]
  · cases held : before.column? position with
    | none =>
        rw [held] at sameHeld
        simp [share, held, sameHeld]
    | some column =>
        have active : column.ignored = false := by
          simpa [isIgnored_of_column? held] using ignored
        exact (rearranged.alike distinct held active).share_eq

/-- The columns of the two tables have the same shares. -/
theorem shares_perm
    (rearranged : Rearranged before after place)
    (distinct : before.DistinctNames) :
    (after.positions.flatMap after.share).Perm
      (before.positions.flatMap before.share) := by
  have permuted :=
    (rearranged.positions_perm.flatMap_right after.share).symm
  rw [List.flatMap_map] at permuted
  simpa only [rearranged.share_eq distinct] using permuted

end Rearranged

end Table

namespace RuleSet

/--
The column pass does not depend on the order of the columns.  When a table
whose columns have distinct names is resolved with its columns in any other
order, the visits of columns add the same lines, each as many times.
-/
theorem columnLines_perm_of_columns_perm
    (context : RuleContext)
    {table : Table}
    {columns : List Column}
    (distinct :
      ((table.columns.filter
        (fun column => !column.isMarker)).map Column.name).Nodup)
    (permuted : table.columns.Perm columns) :
    (standard.resolve context
        { table with columns := columns }).columnLines.Perm
      (standard.resolve context table).columnLines := by
  obtain ⟨place, places⟩ := Table.exists_place_of_perm permuted
  have rearranged :
      table.Rearranged { table with columns := columns } place :=
    ⟨places⟩
  have apart : table.DistinctNames :=
    Table.distinctNames_of_nodup distinct
  have sharesThere :=
    Table.columnLines_perm_shares context
      (rearranged.distinctNames apart)
  have shares := Table.columnLines_perm_shares context apart
  exact (sharesThere.trans (rearranged.shares_perm apart)).trans
    shares.symm

/-- The posts with the last column first.  Every pair is met from its other
column, and the marker of the author after the column that it claims. -/
theorem columnLines_perm_of_columns_perm_posts :
    ((postsTable.columns.filter
        (fun column => !column.isMarker)).map Column.name).Nodup ∧
      postsTable.columns.Perm postsTable.columns.reverse ∧
      (standard.resolve ⟨"Post", "posts"⟩
          { postsTable with
            columns := postsTable.columns.reverse }).columnLines.Perm
        (standard.resolve ⟨"Post", "posts"⟩ postsTable).columnLines := by
  have distinct :
      ((postsTable.columns.filter
        (fun column => !column.isMarker)).map Column.name).Nodup := by
    decide
  have permuted : postsTable.columns.Perm postsTable.columns.reverse :=
    (List.reverse_perm postsTable.columns).symm
  exact ⟨distinct, permuted,
    columnLines_perm_of_columns_perm ⟨"Post", "posts"⟩ distinct permuted⟩

end RuleSet

end Tablewright
