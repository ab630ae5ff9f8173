import Mathlib.Logic.Equiv.Basic
import Tablewright.Proofs.Rule.Dependencies
import Tablewright.Proofs.Rule.Lines

namespace Tablewright

/-!
# Where foreign keys end up

A marker that a column is created along with hands its key over to that
column, and every other marker keeps its key.  Which column carries which key
in the end is decided before the first visit: no visit of a pass changes it.
Seen from the keys, a pass only exchanges markers with the columns that they
own.
-/

namespace Table

/-- The enforced key of the column at a position, unless that column is
passed over. -/
def activeKey? (table : Table) (position : Nat) : Option ForeignKey := do
  let column ← table.column? position
  if column.ignored then none else column.owningKey?

/-- The key that the column at a position has in the end. -/
def carriedKey? (table : Table) (position : Nat) : Option ForeignKey := do
  let column ← table.column? position
  if column.ignored then none
  else if column.isMarker then
    if (table.ownedColumn? position).isSome then none
    else column.owningKey?
  else column.owningKey?.or (table.ownerKey? position)

/-! ## Carried keys -/

section Carried

variable {table : Table} {position : Nat} {column : Column}

theorem activeKey?_of_active
    (held : table.column? position = some column)
    (active : column.ignored = false) :
    table.activeKey? position = column.owningKey? := by
  simp [activeKey?, held, active]

/-- A table depends on the targets of its enforced keys. -/
theorem mem_dependencies_iff
    {target : String} :
    target ∈ table.dependencies ↔
      ∃ position key,
        table.activeKey? position = some key ∧
          key.targetTable = target := by
  rw [mem_dependencies]
  constructor
  · rintro ⟨position, column, key, held, active, owning, same⟩
    exact ⟨position, key,
      (activeKey?_of_active held active).trans owning, same⟩
  · rintro ⟨position, key, hasKey, same⟩
    obtain ⟨column, held, owning⟩ := Option.bind_eq_some_iff.mp hasKey
    cases active : column.ignored with
    | true => simp [active] at owning
    | false =>
        simp only [active, Bool.false_eq_true, ↓reduceIte] at owning
        exact ⟨position, column, key, held, active, owning, same⟩

theorem carriedKey?_of_isIgnored
    (ignored : table.isIgnored position = true) :
    table.carriedKey? position = none := by
  cases held : table.column? position with
  | none => simp [carriedKey?, held]
  | some column =>
      rw [isIgnored_of_column? held] at ignored
      simp [carriedKey?, held, ignored]

/-- A marker keeps its key unless a column is created along with it. -/
theorem carriedKey?_of_marker
    (held : table.column? position = some column)
    (active : column.ignored = false)
    (marks : column.isMarker = true) :
    table.carriedKey? position =
      if (table.ownedColumn? position).isSome then none
      else column.owningKey? := by
  simp [carriedKey?, held, active, marks]

/-- A column carries its own key, or else that of its owner. -/
theorem carriedKey?_of_column
    (held : table.column? position = some column)
    (active : column.ignored = false)
    (isColumn : column.isMarker = false) :
    table.carriedKey? position =
      column.owningKey?.or (table.ownerKey? position) := by
  simp [carriedKey?, held, active, isColumn]

/-- A marker that a column is created along with is left without a key. -/
theorem carriedKey?_of_ownedColumn?
    (distinct : table.DistinctNames)
    {marker : Nat}
    (owned : table.ownedColumn? marker = some position) :
    table.carriedKey? marker = none := by
  obtain ⟨column, held, _, _, isOwner⟩ :=
    (ownedColumn?_iff distinct).mp owned
  obtain ⟨holder, _, holderHeld, marks, active, _⟩ :=
    exists_of_ownerOf? held isOwner
  simp [carriedKey?_of_marker holderHeld active marks, owned]

/-- No column of a pair carries a key. -/
theorem Partners.carriedKey?_eq_none
    {shorthand : Shorthand}
    {other : Nat}
    (partners : table.Partners shorthand position other)
    (distinct : table.DistinctNames)
    {positions : List Nat}
    (keyed : table.Keyed positions) :
    table.carriedKey? position = none := by
  obtain ⟨column, held, active⟩ := partners.exists_active
  have keyless := partners.foreignKey_eq_none keyed held
  have unowned := partners.ownerOf?_eq_none distinct
  rw [carriedKey?_of_column held active (partners.isMarker_eq_false held)]
  simp [Column.owningKey?, keyless, ownerKey?_eq_none unowned]

theorem Alike.carriedKey?_eq
    {first second : Table}
    {place : Nat}
    (alike : Alike first second position place) :
    second.carriedKey? place = first.carriedKey? position := by
  simp only [carriedKey?, alike.column?_eq, alike.owned_eq,
    alike.ownerKey?_eq]

end Carried

namespace Rendered

variable {table : Table} {position : Nat} {column : Column}
variable {chosen : Option Shorthand} {rendering : Rendering}
variable {positions : List Nat}

/-! ## Owners after a visit -/

/-- A visited column has no owner afterwards, and no column gets a new
one. -/
theorem ownerOf?_eq_none
    (rendered : Rendered table position column chosen rendering)
    (held : table.column? position = some column)
    (active : column.ignored = false)
    (distinct : table.DistinctNames)
    {other : Nat}
    (unowned : other = position ∨ table.ownerOf? other = none) :
    rendering.table.ownerOf? other = none := by
  cases foundHeld : rendering.table.column? other with
  | none => simp [ownerOf?, foundHeld]
  | some found =>
      obtain ⟨earlier, earlierHeld, changes⟩ :=
        rendered.later.column?_before foundHeld
      by_cases kept : other ≠ position ∨ table.ownerOf? position = none
      · rw [rendered.ownerOf?_eq held active distinct earlierHeld kept]
        rcases unowned with rfl | unowned
        · exact kept.resolve_left (absurd rfl)
        · exact unowned
      · obtain ⟨here, isOwned⟩ := not_or.mp kept
        obtain rfl := not_not.mp here
        obtain rfl := Option.some.inj (held.symm.trans earlierHeld)
        obtain ⟨owner, isOwner⟩ := Option.ne_none_iff_exists'.mp isOwned
        cases isMarker : column.isMarker with
        | true =>
            rw [ownerOf?_of_marker held isMarker] at isOwner
            cases isOwner
        | false =>
            -- A new owner would have to be the old one, which has been
            -- suppressed.
            cases newOwner : rendering.table.ownerOf? other with
            | none => rfl
            | some marker =>
                obtain ⟨_, _, claimed, _⟩ :=
                  (ownerOf?_eq_some_iff_claimed held).mp isOwner
                obtain ⟨_, _, claimedAfter, _⟩ :=
                  (ownerOf?_eq_some_iff_claimed foundHeld).mp newOwner
                have subset :=
                  rendered.markersClaiming_subset held found.name
                rw [claimedAfter, changes.name_eq, claimed] at subset
                obtain rfl : marker = owner := by simpa using subset
                obtain ⟨holder, _, holderHeld, _, holderActive, _⟩ :=
                  exists_of_ownerOf? foundHeld newOwner
                have suppressed :=
                  rendered.isIgnored_of_ownerOf? held isMarker isOwner
                rw [isIgnored_of_column? holderHeld, holderActive]
                  at suppressed
                cases suppressed

/-! ## Carried keys after a visit -/

/-- A visited column that takes over the key of its owner carries that key
before and after. -/
theorem carriedKey?_collapsed
    (held : table.column? position = some column)
    (active : column.ignored = false)
    (keyless : column.foreignKey = none)
    {marker : Nat}
    {holder : Column}
    {key : ForeignKey}
    (isColumn : column.isMarker = false)
    (isOwner : table.ownerOf? position = some marker)
    (holderHeld : table.column? marker = some holder)
    (owning : holder.owningKey? = some key) :
    ((table.suppress marker).attach position key).carriedKey? position =
      table.carriedKey? position := by
  have before : table.carriedKey? position = some key := by
    have takes : table.ownerKey? position = some key :=
      ownerKey?_eq_some_iff.mpr
        ⟨marker, holder, isOwner, holderHeld, owning⟩
    rw [carriedKey?_of_column held active isColumn, takes]
    simp [Column.owningKey?, keyless]
  have heldAfter :
      ((table.suppress marker).attach position key).column? position =
        some { column with foreignKey := some key } := by
    rw [← column?_suppress_of_ne (ne_of_ownerOf? held isColumn isOwner)]
      at held
    exact column?_update_self held _
  have owningAfter :
      ({ column with foreignKey := some key } : Column).owningKey? =
        some key := by
    obtain ⟨_, isEnforced⟩ := Column.owningKey?_eq_some_iff.mp owning
    exact Column.owningKey?_eq_some_iff.mpr ⟨rfl, isEnforced⟩
  rw [before, carriedKey?_of_column heldAfter active isColumn, owningAfter,
    Option.some_or]

/-- What a visit suppresses carries no key. -/
theorem carriedKey?_of_ignored
    (rendered : Rendered table position column chosen rendering)
    (held : table.column? position = some column)
    (active : column.ignored = false)
    (distinct : table.DistinctNames)
    (keyed : table.Keyed (position :: positions))
    {other : Nat}
    (ignored : rendering.table.isIgnored other = true) :
    table.carriedKey? other = none := by
  by_cases wasIgnored : table.isIgnored other = true
  · exact carriedKey?_of_isIgnored wasIgnored
  have wasActive : table.isIgnored other = false := by
    simpa using wasIgnored
  by_cases elsewhere : other ≠ position
  · rcases rendered.ignored_cases held active wasActive ignored
        (Or.inr elsewhere) with
        ⟨shorthand, partners⟩ | ⟨isColumn, isOwner⟩
    · exact partners.symm.carriedKey?_eq_none distinct keyed
    · exact carriedKey?_of_ownedColumn? distinct
        ((ownedColumn?_iff distinct).mpr
          ⟨column, held, isColumn, active, isOwner⟩)
  · obtain rfl := not_not.mp elsewhere
    -- A visit suppresses the visited column only along with its partner.
    cases rendered with
    | timestamps zoned sibling isSibling =>
        obtain ⟨found, stamped⟩ :=
          Stamped.of_timestampSibling? held active isSibling
        have partners : table.Partners (.timestamps zoned) other sibling :=
          ⟨column, found, stamped⟩
        exact partners.carriedKey?_eq_none distinct keyed
    | morphs family pair idColumn found =>
        obtain ⟨_, typeColumn, partner, morphed, places⟩ :=
          Morphed.of_morphPair? held active found
        have partners : table.Partners (.morphs family) other partner :=
          ⟨pair, _, typeColumn, morphed, places⟩
        exact partners.carriedKey?_eq_none distinct keyed
    | collapsed marker holder key isColumn isOwner =>
        rw [isIgnored_attach, isIgnored_suppress_of_ne
          (ne_of_ownerOf? held isColumn isOwner), wasActive] at ignored
        cases ignored
    | _ =>
        change table.isIgnored other = true at ignored
        rw [wasActive] at ignored
        cases ignored

/-- No visit changes which column carries which key. -/
theorem carriedKey?_eq
    (rendered : Rendered table position column chosen rendering)
    (held : table.column? position = some column)
    (active : column.ignored = false)
    (distinct : table.DistinctNames)
    (keyed : table.Keyed (position :: positions))
    (other : Nat) :
    rendering.table.carriedKey? other = table.carriedKey? other := by
  cases ignored : rendering.table.isIgnored other with
  | true =>
      rw [carriedKey?_of_isIgnored ignored,
        rendered.carriedKey?_of_ignored held active distinct keyed ignored]
  | false =>
      by_cases elsewhere : other ≠ position
      · cases leftHeld : table.column? other with
        | none =>
            have absent := rendered.column?_eq ignored (Or.inl elsewhere)
            simp [carriedKey?, absent, leftHeld]
        | some left =>
            have leftActive : left.ignored = false := by
              rw [← isIgnored_of_column? leftHeld,
                rendered.later.isIgnored_eq_false ignored]
            exact (rendered.alike held active distinct leftHeld
              leftActive elsewhere ignored).carriedKey?_eq
      · obtain rfl := not_not.mp elsewhere
        cases owner : table.ownerOf? other with
        | none =>
            have unowned :=
              rendered.ownerOf?_eq_none held active distinct
                (Or.inr owner)
            simp only [carriedKey?,
              rendered.column?_eq ignored (Or.inr owner),
              rendered.ownedColumn?_eq held active distinct ignored,
              ownerKey?_eq_none owner, ownerKey?_eq_none unowned]
        | some marker =>
            cases isMarker : column.isMarker with
            | true =>
                rw [ownerOf?_of_marker held isMarker] at owner
                cases owner
            | false =>
                have keyless :=
                  keyed.keyless other List.mem_cons_self held isMarker
                have recognised :
                    Shorthand.foreignKey.test table other = true := by
                  simp [Shorthand.test, held, isMarker, owner]
                obtain rfl := rendered.eq_some_of_test held recognised
                cases rendered with
                | deferred => rfl
                | collapsed _ _ _ isColumn isOwner holderHeld owning =>
                    exact carriedKey?_collapsed held active keyless
                      isColumn isOwner holderHeld owning

end Rendered

namespace Pass

variable {positions : List Nat} {table final : Table}
variable {lines : List Code.Line}

/-- A pass leaves no visited column with an owner, and gives no column a new
one. -/
theorem ownerOf?_eq_none
    (pass : Pass positions table final lines)
    (distinct : table.DistinctNames)
    {other : Nat}
    (unowned : other ∈ positions ∨ table.ownerOf? other = none)
    (active : final.isIgnored other = false) :
    final.ownerOf? other = none := by
  induction pass with
  | done => exact unowned.resolve_left List.not_mem_nil
  | skip ignored rest inductionHypothesis =>
      refine inductionHypothesis distinct ?_ active
      refine unowned.imp_left fun member => ?_
      refine List.mem_of_ne_of_mem ?_ member
      rintro rfl
      rw [rest.later.isIgnored_eq_false active] at ignored
      cases ignored
  | visit held isActive rendered _ inductionHypothesis =>
      refine inductionHypothesis (distinct.later rendered.later) ?_ active
      rcases unowned with member | unowned
      · rcases List.mem_cons.mp member with here | left
        · exact Or.inr
            (rendered.ownerOf?_eq_none held isActive distinct
              (Or.inl here))
        · exact Or.inl left
      · exact Or.inr
          (rendered.ownerOf?_eq_none held isActive distinct
            (Or.inr unowned))

/-- No pass changes which column carries which key. -/
theorem carriedKey?_eq
    (pass : Pass positions table final lines)
    (nodup : positions.Nodup)
    (distinct : table.DistinctNames)
    (keyed : table.Keyed positions)
    (other : Nat) :
    final.carriedKey? other = table.carriedKey? other := by
  induction pass with
  | done => rfl
  | skip _ _ inductionHypothesis =>
      exact inductionHypothesis (List.nodup_cons.mp nodup).2 distinct
        keyed.tail
  | visit held active rendered _ inductionHypothesis =>
      obtain ⟨visited, nodupRest⟩ := List.nodup_cons.mp nodup
      rw [inductionHypothesis nodupRest (distinct.later rendered.later)
          (rendered.keyed held keyed visited),
        rendered.carriedKey?_eq held active distinct keyed]

end Pass

/-- Where no column has an owner any more, the carried keys are the ones that
the columns have. -/
theorem activeKey?_eq_carriedKey?
    {table : Table}
    (distinct : table.DistinctNames)
    (unowned :
      ∀ position,
        table.isIgnored position = false →
        table.ownerOf? position = none)
    (position : Nat) :
    table.activeKey? position = table.carriedKey? position := by
  cases held : table.column? position with
  | none => simp [activeKey?, carriedKey?, held]
  | some column =>
      cases active : column.ignored with
      | true => simp [activeKey?, carriedKey?, held, active]
      | false =>
          rw [activeKey?_of_active held active]
          cases isMarker : column.isMarker with
          | true =>
              have notOwner : table.ownedColumn? position = none := by
                cases owned : table.ownedColumn? position with
                | none => rfl
                | some other =>
                    obtain ⟨found, foundHeld, _, foundActive, isOwner⟩ :=
                      (ownedColumn?_iff distinct).mp owned
                    rw [unowned other
                      (by rw [isIgnored_of_column? foundHeld,
                        foundActive])] at isOwner
                    cases isOwner
              simp [carriedKey?_of_marker held active isMarker, notOwner]
          | false =>
              have ownerless :=
                unowned position
                  (by rw [isIgnored_of_column? held, active])
              simp [carriedKey?_of_column held active isMarker,
                ownerKey?_eq_none ownerless]

/-! ## Exchanging markers with columns -/

/-- The other one of a marker and the column that it owns. -/
def seat (table : Table) (position : Nat) : Nat :=
  match table.ownedColumn? position with
  | some owned => owned
  | none =>
      if table.isIgnored position then position
      else (table.ownerOf? position).getD position

section Seats

variable {table : Table} (distinct : table.DistinctNames)
variable {position marker : Nat}

theorem seat_of_marker
    (owned : table.ownedColumn? marker = some position) :
    table.seat marker = position := by
  simp [seat, owned]

include distinct

theorem seat_of_column
    (owned : table.ownedColumn? marker = some position) :
    table.seat position = marker := by
  obtain ⟨column, held, isColumn, active, isOwner⟩ :=
    (ownedColumn?_iff distinct).mp owned
  have ownsNothing : table.ownedColumn? position = none := by
    cases owns : table.ownedColumn? position with
    | none => rfl
    | some other =>
        obtain ⟨_, otherHeld, _, _, otherOwner⟩ :=
          (ownedColumn?_iff distinct).mp owns
        obtain ⟨_, _, sameHeld, marks, _⟩ :=
          exists_of_ownerOf? otherHeld otherOwner
        obtain rfl := Option.some.inj (held.symm.trans sameHeld)
        rw [isColumn] at marks
        cases marks
  simp [seat, ownsNothing, isIgnored_of_column? held, active, isOwner]

/-- Positions without an owner that own nothing keep their seat. -/
theorem seat_cases
    (position : Nat) :
    (∃ owned, table.ownedColumn? position = some owned) ∨
      (∃ marker, table.ownedColumn? marker = some position) ∨
      (table.seat position = position ∧
        table.ownedColumn? position = none ∧
        (table.isIgnored position = false →
          table.ownerKey? position = none)) := by
  cases owned : table.ownedColumn? position with
  | some other => exact Or.inl ⟨other, rfl⟩
  | none =>
      refine Or.inr ?_
      cases ignored : table.isIgnored position with
      | true =>
          refine Or.inr ⟨by simp [seat, owned, ignored], rfl, ?_⟩
          intro active
          cases active
      | false =>
          cases owner : table.ownerOf? position with
          | none =>
              exact Or.inr ⟨by simp [seat, owned, ignored, owner], rfl,
                fun _ => ownerKey?_eq_none owner⟩
          | some marker =>
              obtain ⟨column, _, _, held, _⟩ :=
                ownerOf?_eq_some_iff.mp owner
              have isColumn : column.isMarker = false := by
                cases isMarker : column.isMarker with
                | false => rfl
                | true =>
                    rw [ownerOf?_of_marker held isMarker] at owner
                    cases owner
              rw [isIgnored_of_column? held] at ignored
              exact Or.inl ⟨marker, (ownedColumn?_iff distinct).mpr
                ⟨column, held, isColumn, ignored, owner⟩⟩

/-- Exchanging twice changes nothing. -/
theorem seat_involutive :
    Function.Involutive table.seat := by
  intro position
  rcases seat_cases distinct position with
      ⟨owned, owns⟩ | ⟨marker, owned⟩ | ⟨stays, _⟩
  · rw [seat_of_marker owns, seat_of_column distinct owns]
  · rw [seat_of_column distinct owned, seat_of_marker owned]
  · rw [stays, stays]

/-- Where a key is carried in the end is the seat of the marker that has
it. -/
theorem carriedKey?_seat
    (keysOnMarkers :
      ∀ column ∈ table.columns,
        column.isMarker = false → column.foreignKey = none)
    (position : Nat) :
    table.carriedKey? (table.seat position) =
      table.activeKey? position := by
  rcases seat_cases distinct position with
      ⟨owned, owns⟩ | ⟨marker, owned⟩ | ⟨stays, ownsNothing, unowned⟩
  · obtain ⟨column, held, isColumn, active, isOwner⟩ :=
      (ownedColumn?_iff distinct).mp owns
    obtain ⟨holder, key, holderHeld, _, holderActive, owning, _⟩ :=
      exists_of_ownerOf? held isOwner
    have keyless :=
      keysOnMarkers column (List.mem_of_getElem? held) isColumn
    have takes : table.ownerKey? owned = some key :=
      ownerKey?_eq_some_iff.mpr
        ⟨position, holder, isOwner, holderHeld, owning⟩
    rw [seat_of_marker owns, carriedKey?_of_column held active isColumn,
      takes, activeKey?_of_active holderHeld holderActive, owning]
    simp [Column.owningKey?, keyless]
  · obtain ⟨column, held, isColumn, active, _⟩ :=
      (ownedColumn?_iff distinct).mp owned
    have keyless :=
      keysOnMarkers column (List.mem_of_getElem? held) isColumn
    rw [seat_of_column distinct owned,
      carriedKey?_of_ownedColumn? distinct owned,
      activeKey?_of_active held active]
    simp [Column.owningKey?, keyless]
  · rw [stays]
    cases held : table.column? position with
    | none => simp [activeKey?, carriedKey?, held]
    | some column =>
        cases active : column.ignored with
        | true => simp [activeKey?, carriedKey?, held, active]
        | false =>
            rw [isIgnored_of_column? held] at unowned
            rw [activeKey?_of_active held active]
            cases isMarker : column.isMarker with
            | true =>
                simp [carriedKey?_of_marker held active isMarker,
                  ownsNothing]
            | false =>
                simp [carriedKey?_of_column held active isMarker,
                  unowned active]

/-- The seat of a marker with a key is its own, or that of the only local
column of the key. -/
theorem seat_of_holder
    {holder : Column}
    {key : ForeignKey}
    (held : table.column? marker = some holder)
    (marks : holder.isMarker = true)
    (owning : holder.owningKey? = some key) :
    table.seat marker = marker ∨
      ∃ column,
        table.column? (table.seat marker) = some column ∧
          column.isMarker = false ∧
          key.localColumns = [column.name] := by
  cases owned : table.ownedColumn? marker with
  | none =>
      left
      simp [seat, owned, ownerOf?_of_marker held marks]
  | some place =>
      right
      obtain ⟨column, columnHeld, isColumn, _, isOwner⟩ :=
        (ownedColumn?_iff distinct).mp owned
      obtain ⟨_, _, sameHolder, _, _, sameOwning, named⟩ :=
        exists_of_ownerOf? columnHeld isOwner
      obtain rfl := Option.some.inj (held.symm.trans sameHolder)
      obtain rfl := Option.some.inj (owning.symm.trans sameOwning)
      rw [seat_of_marker owned]
      exact ⟨column, columnHeld, isColumn, named⟩

end Seats

end Table

end Tablewright
