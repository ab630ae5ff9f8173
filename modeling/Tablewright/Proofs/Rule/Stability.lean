import Tablewright.Proofs.Rule.Share

namespace Tablewright

/-!
# What a visit leaves alone

A visit suppresses the partner of the visited column, or the marker whose key
the visited column takes over, and nothing else.  Every other column that is
left looks the same to all rules before and after.  So the shares of the
columns that are left stay what they were, and the lines of a pass are the
shares that its columns have at the start.
-/

open Code

namespace Table

/-! ## Suppression -/

/-- Suppression leaves alone what is active behind it. -/
theorem column?_suppress_of_active
    {table : Table}
    {position other : Nat}
    (active : (table.suppress position).isIgnored other = false) :
    (table.suppress position).column? other = table.column? other := by
  by_cases same : position = other
  · subst same
    cases held : table.column? position with
    | none =>
        simp [suppress, column?_update, held]
    | some column =>
        rw [isIgnored_of_column? (column?_suppress_self held)] at active
        cases active
  · exact column?_suppress_of_ne same

theorem isIgnored_suppress_of_ne
    {table : Table}
    {position other : Nat}
    (different : position ≠ other) :
    (table.suppress position).isIgnored other = table.isIgnored other := by
  rw [isIgnored, column?_suppress_of_ne different, isIgnored]

/-- A foreign key decides nothing about suppression. -/
theorem isIgnored_attach
    (table : Table)
    (position : Nat)
    (key : ForeignKey)
    (other : Nat) :
    (table.attach position key).isIgnored other =
      table.isIgnored other := by
  simp only [isIgnored, attach, column?_update]
  split
  · cases table.column? other <;> rfl
  · rfl

/-- What is active later was active before. -/
theorem Later.isIgnored_eq_false
    {before after : Table}
    (later : Later before after)
    {position : Nat}
    (active : after.isIgnored position = false) :
    before.isIgnored position = false := by
  cases held : before.column? position with
  | none =>
      simp [isIgnored, held]
  | some column =>
      obtain ⟨changed, changedHeld, changes⟩ := later.column?_after held
      rw [isIgnored_of_column? changedHeld] at active
      rw [isIgnored_of_column? held, changes.ignored_eq_false active]

/-! ## Owners -/

section Owners

variable {table : Table}

/-- A column is owned by its only claimant. -/
theorem ownerOf?_eq_some_iff_claimed
    {position marker : Nat}
    {column : Column}
    (held : table.column? position = some column) :
    table.ownerOf? position = some marker ↔
      (foreignMethod? column.kind).isSome = true ∧
        column.autoIncrement = false ∧
        table.markersClaiming column.name = [marker] ∧
        ∃ holder key,
          table.column? marker = some holder ∧
            holder.owningKey? = some key ∧
            key.localColumns.length = 1 ∧
            key.references.length = 1 := by
  rw [ownerOf?_eq_some_iff]
  constructor
  · rintro ⟨_, holder, key, sameHeld, method, counts, claimed, single⟩
    obtain rfl := Option.some.inj (held.symm.trans sameHeld)
    exact ⟨method, counts, claimed, holder, key, single⟩
  · rintro ⟨method, counts, claimed, holder, key, single⟩
    exact ⟨column, holder, key, held, method, counts, claimed, single⟩

/-- A marker has no owner. -/
theorem ownerOf?_of_marker
    {position : Nat}
    {column : Column}
    (held : table.column? position = some column)
    (marks : column.isMarker = true) :
    table.ownerOf? position = none := by
  cases owned : table.ownerOf? position with
  | none => rfl
  | some marker =>
      obtain ⟨method, _⟩ :=
        (ownerOf?_eq_some_iff_claimed held).mp owned
      cases kind : column.kind <;>
        simp [Column.isMarker, Column.Kind.isRelation, foreignMethod?,
          kind] at marks method

end Owners

/-! ## Partners -/

namespace Partners

variable {table : Table} {shorthand : Shorthand}
variable {position other : Nat}

/-- Only columns are paired. -/
theorem isMarker_eq_false
    (partners : table.Partners shorthand position other)
    {column : Column}
    (held : table.column? position = some column) :
    column.isMarker = false := by
  cases shorthand with
  | timestamps zoned =>
      obtain ⟨_, _, stamped⟩ := partners
      obtain rfl := Option.some.inj (held.symm.trans stamped.held)
      exact isMarker_eq_false_of_timestamp stamped.kind
  | morphs family =>
      obtain ⟨pair, _, _, morphed, places⟩ := partners
      rcases places with ⟨rfl, _⟩ | ⟨rfl, _⟩
      · obtain rfl := Option.some.inj (held.symm.trans morphed.idHeld)
        exact morphed.idIsColumn
      · obtain rfl := Option.some.inj (held.symm.trans morphed.typeHeld)
        exact morphed.typeIsColumn
  | _ => exact partners.elim

/-- A column has one partner at most. -/
theorem unique
    (partners : table.Partners shorthand position other)
    {another : Shorthand}
    {rival : Nat}
    (rivals : table.Partners another position rival)
    (distinct : table.DistinctNames) :
    other = rival := by
  obtain rfl : shorthand = another :=
    Shorthand.eq_of_test (partners.test_eq_true distinct)
      (rivals.test_eq_true distinct)
  cases shorthand with
  | timestamps zoned =>
      obtain ⟨_, _, stamped⟩ := partners
      obtain ⟨_, _, rivalStamped⟩ := rivals
      have found := stamped.timestampSibling?_eq_some distinct
      rw [rivalStamped.timestampSibling?_eq_some distinct] at found
      exact (Option.some.inj found).symm
  | morphs family =>
      obtain ⟨pair, _, _, morphed, places⟩ := partners
      obtain ⟨rivalPair, _, _, rivalMorphed, rivalPlaces⟩ := rivals
      have found := morphed.morphPair?_eq_some distinct places
      rw [rivalMorphed.morphPair?_eq_some distinct rivalPlaces] at found
      obtain rfl := Option.some.inj found
      rcases places with ⟨isId, isType⟩ | ⟨isType, isId⟩
      · rcases rivalPlaces with ⟨_, sameType⟩ | ⟨alsoType, _⟩
        · rw [isType, sameType]
        · exact (morphed.ne (isId.symm.trans alsoType)).elim
      · rcases rivalPlaces with ⟨alsoId, _⟩ | ⟨_, sameId⟩
        · exact (morphed.ne (alsoId.symm.trans isType)).elim
        · rw [isId, sameId]
  | _ => exact partners.elim

end Partners

/-- Only columns that have no owner are paired. -/
theorem Partners.ownerOf?_eq_none
    {table : Table}
    {shorthand : Shorthand}
    {position other : Nat}
    (partners : table.Partners shorthand position other)
    (distinct : table.DistinctNames) :
    table.ownerOf? position = none := by
  obtain ⟨column, held, _⟩ := partners.exists_active
  have isColumn := partners.isMarker_eq_false held
  cases owned : table.ownerOf? position with
  | none => rfl
  | some marker =>
      have recognised : Shorthand.foreignKey.test table position = true := by
        simp [Shorthand.test, held, isColumn, owned]
      have same :=
        Shorthand.eq_of_test recognised (partners.test_eq_true distinct)
      subst same
      exact partners.elim

/-- Among distinct names, a marker is created along with the active column
that it owns. -/
theorem ownedColumn?_iff
    {table : Table}
    (distinct : table.DistinctNames)
    {position marker : Nat} :
    table.ownedColumn? marker = some position ↔
      ∃ column,
        table.column? position = some column ∧
          column.isMarker = false ∧
          column.ignored = false ∧
          table.ownerOf? position = some marker := by
  rw [ownedColumn?_eq_some_iff]
  constructor
  · rintro ⟨_, _, _, _, _, _, found, isOwner⟩
    obtain ⟨column, held, isColumn, active, _⟩ :=
      column?_of_findActive? found
    exact ⟨column, held, isColumn, active, isOwner⟩
  · rintro ⟨column, held, isColumn, active, isOwner⟩
    obtain ⟨holder, key, holderHeld, _, _, owning, single⟩ :=
      exists_of_ownerOf? held isOwner
    exact ⟨holder, key, column.name, holderHeld, owning, single,
      distinct.findActive?_eq_some held isColumn active, isOwner⟩

namespace Rendered

variable {table : Table} {position : Nat} {column : Column}
variable {chosen : Option Shorthand} {rendering : Rendering}

/-! ## Columns that are left -/

/-- A visit leaves alone what it leaves active, except that a visited column
takes over the key of its owner. -/
theorem column?_eq
    (rendered : Rendered table position column chosen rendering)
    {other : Nat}
    (active : rendering.table.isIgnored other = false)
    (kept : other ≠ position ∨ table.ownerOf? position = none) :
    rendering.table.column? other = table.column? other := by
  cases rendered with
  | timestamps zoned sibling =>
      exact column?_suppress_of_active active
  | collapsed marker holder key isColumn isOwner =>
      have elsewhere : position ≠ other := by
        rcases kept with elsewhere | unowned
        · exact elsewhere.symm
        · rw [isOwner] at unowned
          cases unowned
      rw [isIgnored_attach] at active
      rw [attach, column?_update_of_ne elsewhere]
      exact column?_suppress_of_active active
  | morphs family pair =>
      have outer := column?_suppress_of_active active
      rw [isIgnored, outer, ← isIgnored] at active
      rw [outer]
      exact column?_suppress_of_active active
  | _ => rfl

/-- A visit suppresses the partner of the visited column, or the marker whose
key the column takes over. -/
theorem ignored_cases
    (rendered : Rendered table position column chosen rendering)
    (held : table.column? position = some column)
    (active : column.ignored = false)
    {other : Nat}
    (wasActive : table.isIgnored other = false)
    (ignored : rendering.table.isIgnored other = true)
    (apart : column.isMarker = true ∨ other ≠ position) :
    (∃ shorthand, table.Partners shorthand position other) ∨
      (column.isMarker = false ∧
        table.ownerOf? position = some other) := by
  cases rendered with
  | timestamps zoned sibling isSibling =>
      by_cases same : sibling = other
      · subst same
        obtain ⟨found, stamped⟩ :=
          Stamped.of_timestampSibling? held active isSibling
        exact Or.inl ⟨.timestamps zoned, column, found, stamped⟩
      · rw [isIgnored_suppress_of_ne same, wasActive] at ignored
        cases ignored
  | collapsed marker holder key isColumn isOwner =>
      rw [isIgnored_attach] at ignored
      by_cases same : marker = other
      · subst same
        exact Or.inr ⟨isColumn, isOwner⟩
      · rw [isIgnored_suppress_of_ne same, wasActive] at ignored
        cases ignored
  | morphs family pair idColumn found =>
      obtain ⟨idColumn, typeColumn, partner, morphed, places⟩ :=
        Morphed.of_morphPair? held active found
      have partners :
          table.Partners (.morphs family) position partner :=
        ⟨pair, idColumn, typeColumn, morphed, places⟩
      have elsewhere : other ≠ position := by
        rcases apart with marks | elsewhere
        · rw [partners.isMarker_eq_false held] at marks
          cases marks
        · exact elsewhere
      by_cases same : partner = other
      · subst same
        exact Or.inl ⟨.morphs family, partners⟩
      · rcases places with ⟨rfl, rfl⟩ | ⟨rfl, rfl⟩
        · rw [isIgnored_suppress_of_ne same,
            isIgnored_suppress_of_ne elsewhere.symm, wasActive] at ignored
          cases ignored
        · rw [isIgnored_suppress_of_ne elsewhere.symm,
            isIgnored_suppress_of_ne same, wasActive] at ignored
          cases ignored
  | _ =>
      change table.isIgnored other = true at ignored
      rw [wasActive] at ignored
      cases ignored

/-! ## Claims that are left -/

/-- A visit leaves alone the markers that go on claiming a column. -/
theorem column?_claiming_eq
    (rendered : Rendered table position column chosen rendering)
    (held : table.column? position = some column)
    {name : String}
    {marker : Nat}
    (claims : marker ∈ rendering.table.markersClaiming name) :
    rendering.table.column? marker = table.column? marker := by
  obtain ⟨holder, _, holderHeld, marks, active, _⟩ :=
    mem_markersClaiming.mp claims
  refine rendered.column?_eq ?_ ?_
  · rw [isIgnored_of_column? holderHeld, active]
  · by_cases here : marker = position
    · subst here
      obtain ⟨earlier, earlierHeld, changes⟩ :=
        rendered.later.column?_before holderHeld
      obtain rfl := Option.some.inj (held.symm.trans earlierHeld)
      rw [changes.isMarker_eq] at marks
      exact Or.inr (ownerOf?_of_marker held marks)
    · exact Or.inl here

/-- A visit makes no new claims. -/
theorem markersClaiming_subset
    (rendered : Rendered table position column chosen rendering)
    (held : table.column? position = some column)
    (name : String) :
    rendering.table.markersClaiming name ⊆ table.markersClaiming name := by
  intro marker claims
  have same := rendered.column?_claiming_eq held claims
  obtain ⟨holder, key, holderHeld, claimed⟩ :=
    mem_markersClaiming.mp claims
  rw [same] at holderHeld
  exact mem_markersClaiming.mpr ⟨holder, key, holderHeld, claimed⟩

/-- A visit keeps the claims on a name unless the visited column has that
name and takes over a key. -/
theorem mem_markersClaiming_of_kept
    (rendered : Rendered table position column chosen rendering)
    (held : table.column? position = some column)
    (active : column.ignored = false)
    {name : String}
    (kept :
      column.isMarker = false →
        column.name = name → table.ownerOf? position = none)
    {marker : Nat}
    (claims : marker ∈ table.markersClaiming name) :
    marker ∈ rendering.table.markersClaiming name := by
  obtain ⟨holder, key, holderHeld, marks, holderActive, owning, member⟩ :=
    mem_markersClaiming.mp claims
  have wasActive : table.isIgnored marker = false := by
    rw [isIgnored_of_column? holderHeld, holderActive]
  have apart : column.isMarker = true ∨ marker ≠ position := by
    by_cases here : marker = position
    · subst here
      obtain rfl := Option.some.inj (held.symm.trans holderHeld)
      exact Or.inl marks
    · exact Or.inr here
  cases ignored : rendering.table.isIgnored marker with
  | false =>
      have holderKept :
          marker ≠ position ∨ table.ownerOf? position = none := by
        rcases apart with visitedMarks | elsewhere
        · exact Or.inr (ownerOf?_of_marker held visitedMarks)
        · exact Or.inl elsewhere
      rw [← rendered.column?_eq ignored holderKept] at holderHeld
      exact mem_markersClaiming.mpr
        ⟨holder, key, holderHeld, marks, holderActive, owning, member⟩
  | true =>
      rcases rendered.ignored_cases held active wasActive ignored
          apart with ⟨_, partners⟩ | ⟨visitedIsColumn, isOwner⟩
      · rw [partners.symm.isMarker_eq_false holderHeld] at marks
        cases marks
      · obtain ⟨_, _, sameHolder, _, _, sameOwning, single⟩ :=
          exists_of_ownerOf? held isOwner
        obtain rfl := Option.some.inj (holderHeld.symm.trans sameHolder)
        obtain rfl := Option.some.inj (owning.symm.trans sameOwning)
        rw [single, List.mem_singleton] at member
        rw [kept visitedIsColumn member.symm] at isOwner
        cases isOwner

/-- A visit releases a claim only on the visited column, and only if that
column takes over a key. -/
theorem markersClaiming_eq
    (rendered : Rendered table position column chosen rendering)
    (held : table.column? position = some column)
    (active : column.ignored = false)
    (distinct : table.DistinctNames)
    {other : Nat}
    {claimed : Column}
    (claimedHeld : table.column? other = some claimed)
    (isColumn : claimed.isMarker = false)
    (kept : other ≠ position ∨ table.ownerOf? position = none) :
    rendering.table.markersClaiming claimed.name =
      table.markersClaiming claimed.name := by
  have stillClaims :
      ∀ marker ∈ table.markersClaiming claimed.name,
        marker ∈ rendering.table.markersClaiming claimed.name := by
    intro marker claims
    refine rendered.mem_markersClaiming_of_kept held active ?_ claims
    intro visitedIsColumn named
    have same :=
      distinct claimedHeld held isColumn visitedIsColumn named.symm
    exact kept.resolve_left (absurd same)
  have sameMembers :
      ∀ marker,
        marker ∈ rendering.table.markersClaiming claimed.name ↔
          marker ∈ table.markersClaiming claimed.name := fun marker =>
    ⟨fun claims => rendered.markersClaiming_subset held _ claims,
      stillClaims marker⟩
  simp only [markersClaiming, positionsWhere,
    rendered.later.positions_eq] at sameMembers ⊢
  refine List.filter_congr ?_
  intro marker inRange
  have same := sameMembers marker
  simp only [List.mem_filter, inRange, true_and] at same
  exact Bool.eq_iff_iff.mpr same

/-! ## Pairs that are left -/

section Left

variable
    (rendered : Rendered table position column chosen rendering)
    (held : table.column? position = some column)
    (active : column.ignored = false)
    (distinct : table.DistinctNames)
    {other : Nat}
    (elsewhere : other ≠ position)
    (stillActive : rendering.table.isIgnored other = false)

include rendered held active distinct elsewhere stillActive

/-- The partner of a column that is left active is left alone. -/
theorem column?_partner_eq
    {shorthand : Shorthand}
    {partner : Nat}
    (partners : table.Partners shorthand other partner) :
    rendering.table.column? partner = table.column? partner := by
  have notVisited : partner ≠ position := by
    rintro rfl
    rw [rendered.isIgnored_partner held distinct partners.symm]
      at stillActive
    cases stillActive
  refine rendered.column?_eq ?_ (Or.inl notVisited)
  cases ignored : rendering.table.isIgnored partner with
  | false => rfl
  | true =>
      have wasActive := partners.symm.isIgnored_eq_false
      rcases rendered.ignored_cases held active wasActive ignored
          (Or.inr notVisited) with ⟨_, rivals⟩ | ⟨_, isOwner⟩
      · exact (elsewhere
          (partners.symm.unique rivals.symm distinct)).elim
      · obtain ⟨holder, _, holderHeld, marks, _⟩ :=
          exists_of_ownerOf? held isOwner
        rw [partners.symm.isMarker_eq_false holderHeld] at marks
        cases marks

/-- Timestamps that are left are still a pair. -/
theorem stamped_after
    {zoned : Bool}
    {sibling : Nat}
    {stamp found : Column}
    (stamped : table.Stamped zoned other sibling stamp found) :
    rendering.table.Stamped zoned other sibling stamp found where
  held := by
    rw [rendered.column?_eq stillActive (Or.inl elsewhere), stamped.held]
  foundHeld := by
    have partners : table.Partners (.timestamps zoned) other sibling :=
      ⟨stamp, found, stamped⟩
    rw [rendered.column?_partner_eq held active distinct elsewhere
      stillActive partners, stamped.foundHeld]
  active := stamped.active
  foundActive := stamped.foundActive
  kind := stamped.kind
  foundKind := stamped.foundKind
  arguments_eq := stamped.arguments_eq
  named := stamped.named

/-- Discriminator columns that are left are still a pair. -/
theorem morphed_after
    {family : MorphFamily}
    {pair : MorphPair}
    {idColumn typeColumn : Column}
    {partner : Nat}
    (morphed : table.Morphed family pair idColumn typeColumn)
    (places : pair.At other partner) :
    rendering.table.Morphed family pair idColumn typeColumn := by
  have here := rendered.column?_eq stillActive (Or.inl elsewhere)
  have partners : table.Partners (.morphs family) other partner :=
    ⟨pair, idColumn, typeColumn, morphed, places⟩
  have there :=
    rendered.column?_partner_eq held active distinct elsewhere
      stillActive partners
  have sameColumns :
      rendering.table.column? pair.idColumn =
          table.column? pair.idColumn ∧
        rendering.table.column? pair.typeColumn =
          table.column? pair.typeColumn := by
    rcases places with ⟨rfl, rfl⟩ | ⟨rfl, rfl⟩
    · exact ⟨here, there⟩
    · exact ⟨there, here⟩
  obtain ⟨accepted, typeKind, nullable, idPrimary, typePrimary, idKey,
      typeKey, unclaimed⟩ :=
    isPairOf_iff.mp morphed.isPair
  have stillUnclaimed :
      rendering.table.markersClaiming idColumn.name = [] := by
    refine List.subset_nil.mp ?_
    rw [← unclaimed]
    exact rendered.markersClaiming_subset held idColumn.name
  exact
    { idHeld := sameColumns.1.trans morphed.idHeld
      typeHeld := sameColumns.2.trans morphed.typeHeld
      idActive := morphed.idActive
      typeActive := morphed.typeActive
      idIsColumn := morphed.idIsColumn
      typeIsColumn := morphed.typeIsColumn
      based := morphed.based
      idNamed := morphed.idNamed
      typeNamed := morphed.typeNamed
      isPair := isPairOf_iff.mpr
        ⟨accepted, typeKind, nullable, idPrimary, typePrimary, idKey,
          typeKey, stillUnclaimed⟩ }

end Left

end Rendered

end Table

end Tablewright
