import Tablewright.Proofs.Rule.Stability

namespace Tablewright

/-!
# The lines of a pass

A column that is left looks the same before and after a visit, so its share
stays.  A visit adds the share of the visited column, or that of its partner,
which it suppresses.  By induction the lines of a pass are the shares that
the visited columns have in the table that the pass starts from.
-/

open Code

namespace Table

/-! ## Looking up what a rule asks for -/

section Lookup

variable {table : Table}

/-- A timestamp finds a sibling if it is one of an active pair. -/
theorem isSome_timestampSibling?_iff
    (distinct : table.DistinctNames)
    {position : Nat}
    {column : Column}
    (held : table.column? position = some column)
    (active : column.ignored = false)
    {zoned : Bool} :
    (table.timestampSibling? zoned position).isSome = true ↔
      ∃ sibling found,
        table.Stamped zoned position sibling column found := by
  constructor
  · intro isSome
    obtain ⟨sibling, found⟩ := Option.isSome_iff_exists.mp isSome
    exact ⟨sibling, Stamped.of_timestampSibling? held active found⟩
  · rintro ⟨sibling, found, stamped⟩
    simp [stamped.timestampSibling?_eq_some distinct]

/-- Either column of a discriminator pair knows the text of the pair. -/
theorem Morphed.morphText?_eq
    {family : MorphFamily}
    {pair : MorphPair}
    {idColumn typeColumn : Column}
    (morphed : table.Morphed family pair idColumn typeColumn)
    (distinct : table.DistinctNames)
    {position other : Nat}
    (places : pair.At position other) :
    table.morphText? family position =
      some ⟨pair.base, idColumn.nullable⟩ := by
  have found := morphed.morphPair?_eq_some distinct places
  simp [morphText?, found, morphed.idHeld]

/-- The text of a pair is known to the columns of the pair only. -/
theorem Morphed.of_morphText?
    {family : MorphFamily}
    {position : Nat}
    {column : Column}
    {text : MorphText}
    (held : table.column? position = some column)
    (active : column.ignored = false)
    (known : table.morphText? family position = some text) :
    ∃ pair idColumn typeColumn other,
      table.Morphed family pair idColumn typeColumn ∧
        pair.At position other ∧
        text = ⟨pair.base, idColumn.nullable⟩ := by
  obtain ⟨pair, idColumn, found, idHeld, rfl⟩ :=
    morphText?_eq_some_iff.mp known
  obtain ⟨sameId, typeColumn, other, morphed, places⟩ :=
    Morphed.of_morphPair? held active found
  obtain rfl := Option.some.inj (idHeld.symm.trans morphed.idHeld)
  exact ⟨pair, idColumn, typeColumn, other, morphed, places, rfl⟩

end Lookup

namespace Rendered

variable {table : Table} {position : Nat} {column : Column}
variable {chosen : Option Shorthand} {rendering : Rendering}

/-- A visited column suppresses its owner. -/
theorem isIgnored_of_ownerOf?
    (rendered : Rendered table position column chosen rendering)
    (held : table.column? position = some column)
    (isColumn : column.isMarker = false)
    {marker : Nat}
    (isOwner : table.ownerOf? position = some marker) :
    rendering.table.isIgnored marker = true := by
  have recognised : Shorthand.foreignKey.test table position = true := by
    simp [Shorthand.test, held, isColumn, isOwner]
  obtain rfl := rendered.eq_some_of_test held recognised
  cases rendered with
  | deferred _ marks =>
      rw [isColumn] at marks
      cases marks
  | collapsed owner holder key _ sameOwner holderHeld =>
      obtain rfl := Option.some.inj (isOwner.symm.trans sameOwner)
      rw [isIgnored_attach,
        isIgnored_of_column? (column?_suppress_self holderHeld)]

/-- A column keeps its owner, unless it is visited and has one. -/
theorem ownerOf?_eq
    (rendered : Rendered table position column chosen rendering)
    (held : table.column? position = some column)
    (active : column.ignored = false)
    (distinct : table.DistinctNames)
    {other : Nat}
    {claimed : Column}
    (claimedHeld : table.column? other = some claimed)
    (kept : other ≠ position ∨ table.ownerOf? position = none) :
    rendering.table.ownerOf? other = table.ownerOf? other := by
  obtain ⟨changed, changedHeld, changes⟩ :=
    rendered.later.column?_after claimedHeld
  by_cases marks : claimed.isMarker = true
  · rw [ownerOf?_of_marker claimedHeld marks,
      ownerOf?_of_marker changedHeld (by rw [changes.isMarker_eq, marks])]
  · have sameClaims :=
      rendered.markersClaiming_eq held active distinct claimedHeld
        (by simpa using marks) kept
    refine Option.ext fun marker => ?_
    rw [ownerOf?_eq_some_iff_claimed changedHeld,
      ownerOf?_eq_some_iff_claimed claimedHeld, changes.kind_eq,
      changes.autoIncrement_eq, changes.name_eq, sameClaims]
    refine and_congr_right fun _ => and_congr_right fun _ =>
      and_congr_right fun only => ?_
    have member : marker ∈ table.markersClaiming claimed.name := by
      simp [only]
    rw [← sameClaims] at member
    rw [rendered.column?_claiming_eq held member]

/-- A column that is left goes on being created along with the same key. -/
theorem ownerKey?_eq
    (rendered : Rendered table position column chosen rendering)
    (held : table.column? position = some column)
    (active : column.ignored = false)
    (distinct : table.DistinctNames)
    {other : Nat}
    {left : Column}
    (leftHeld : table.column? other = some left)
    (elsewhere : other ≠ position) :
    rendering.table.ownerKey? other = table.ownerKey? other := by
  have sameOwner :=
    rendered.ownerOf?_eq held active distinct leftHeld
      (Or.inl elsewhere)
  cases owned : rendering.table.ownerOf? other with
  | none =>
      rw [owned] at sameOwner
      rw [ownerKey?_eq_none owned, ownerKey?_eq_none sameOwner.symm]
  | some marker =>
      obtain ⟨_, _, _, _, _, _, claimed, _⟩ :=
        ownerOf?_eq_some_iff.mp owned
      have sameHolder :=
        rendered.column?_claiming_eq held
          (claimed ▸ List.mem_singleton_self marker)
      rw [owned] at sameOwner
      simp [ownerKey?, owned, ← sameOwner, sameHolder]

/-- A marker that is left goes on being created along with the same
column. -/
theorem ownedColumn?_eq
    (rendered : Rendered table position column chosen rendering)
    (held : table.column? position = some column)
    (active : column.ignored = false)
    (distinct : table.DistinctNames)
    {other : Nat}
    (stillActive : rendering.table.isIgnored other = false) :
    rendering.table.ownedColumn? other = table.ownedColumn? other := by
  have distinctAfter : rendering.table.DistinctNames :=
    distinct.later rendered.later
  -- An owner of the visited column would have been suppressed.
  have notOwner :
      column.isMarker = false →
      table.ownerOf? position ≠ some other := by
    intro isColumn isOwner
    rw [rendered.isIgnored_of_ownerOf? held isColumn isOwner]
      at stillActive
    cases stillActive
  refine Option.ext fun owned => ?_
  rw [ownedColumn?_iff distinctAfter, ownedColumn?_iff distinct]
  constructor
  · rintro ⟨found, foundHeld, isColumn, foundActive, isOwner⟩
    obtain ⟨earlier, earlierHeld, changes⟩ :=
      rendered.later.column?_before foundHeld
    rw [changes.isMarker_eq] at isColumn
    refine ⟨earlier, earlierHeld, isColumn,
      changes.ignored_eq_false foundActive, ?_⟩
    rw [← isOwner]
    refine (rendered.ownerOf?_eq held active distinct earlierHeld
      ?_).symm
    by_cases notVisited : owned ≠ position
    · exact Or.inl notVisited
    obtain rfl := not_not.mp notVisited
    obtain rfl := Option.some.inj (held.symm.trans earlierHeld)
    -- The only claim that is left on the visited column is an old one.
    cases owner : table.ownerOf? owned with
    | none => exact Or.inr rfl
    | some marker =>
        obtain ⟨_, _, claimed, _⟩ :=
          (ownerOf?_eq_some_iff_claimed held).mp owner
        obtain ⟨_, _, claimedAfter, _⟩ :=
          (ownerOf?_eq_some_iff_claimed foundHeld).mp isOwner
        have subset :=
          rendered.markersClaiming_subset held found.name
        rw [claimedAfter, changes.name_eq, claimed] at subset
        obtain rfl : other = marker := by simpa using subset
        exact (notOwner isColumn owner).elim
  · rintro ⟨found, foundHeld, isColumn, foundActive, isOwner⟩
    have notVisited : owned ≠ position := by
      rintro rfl
      obtain rfl := Option.some.inj (held.symm.trans foundHeld)
      exact notOwner isColumn isOwner
    have foundStillActive :
        rendering.table.isIgnored owned = false := by
      cases ignored : rendering.table.isIgnored owned with
      | false => rfl
      | true =>
          have wasActive : table.isIgnored owned = false := by
            rw [isIgnored_of_column? foundHeld, foundActive]
          rcases rendered.ignored_cases held active wasActive ignored
              (Or.inr notVisited) with ⟨_, partners⟩ | ⟨_, visitedOwner⟩
          · rw [partners.symm.ownerOf?_eq_none distinct] at isOwner
            cases isOwner
          · obtain ⟨_, _, sameHeld, marks, _⟩ :=
              exists_of_ownerOf? held visitedOwner
            obtain rfl := Option.some.inj (foundHeld.symm.trans sameHeld)
            rw [isColumn] at marks
            cases marks
    refine ⟨found, ?_, isColumn, foundActive, ?_⟩
    · rw [rendered.column?_eq foundStillActive (Or.inl notVisited),
        foundHeld]
    · rw [rendered.ownerOf?_eq held active distinct foundHeld
        (Or.inl notVisited), isOwner]

section Left

variable
    (rendered : Rendered table position column chosen rendering)
    (held : table.column? position = some column)
    (active : column.ignored = false)
    (distinct : table.DistinctNames)
    {other : Nat}
    {left : Column}
    (leftHeld : table.column? other = some left)
    (leftActive : left.ignored = false)
    (elsewhere : other ≠ position)
    (stillActive : rendering.table.isIgnored other = false)

include rendered held active distinct leftHeld leftActive elsewhere
  stillActive

/-! ## What a rule sees of a column that is left -/

/-- A timestamp that is left finds a sibling if it found one before. -/
theorem stamped_eq
    (zoned : Bool) :
    (rendering.table.timestampSibling? zoned other).isSome =
      (table.timestampSibling? zoned other).isSome := by
  have stillHeld : rendering.table.column? other = some left := by
    rw [rendered.column?_eq stillActive (Or.inl elsewhere), leftHeld]
  rw [Bool.eq_iff_iff,
    isSome_timestampSibling?_iff (distinct.later rendered.later)
      stillHeld leftActive,
    isSome_timestampSibling?_iff distinct leftHeld leftActive]
  constructor
  · rintro ⟨sibling, found, stamped⟩
    obtain ⟨earlier, foundEarlier, before⟩ :=
      stamped.before rendered.later
    obtain rfl := Option.some.inj (leftHeld.symm.trans before.held)
    exact ⟨sibling, foundEarlier, before⟩
  · rintro ⟨sibling, found, stamped⟩
    exact ⟨sibling, found,
      rendered.stamped_after held active distinct elsewhere stillActive
        stamped⟩

/-- A column that is left knows the text of its pair if it knew it
before. -/
theorem morphText?_eq
    (family : MorphFamily) :
    rendering.table.morphText? family other =
      table.morphText? family other := by
  have stillHeld : rendering.table.column? other = some left := by
    rw [rendered.column?_eq stillActive (Or.inl elsewhere), leftHeld]
  cases known : table.morphText? family other with
  | some text =>
      obtain ⟨pair, idColumn, typeColumn, partner, morphed, places, rfl⟩ :=
        Morphed.of_morphText? leftHeld leftActive known
      exact (rendered.morphed_after held active distinct elsewhere
        stillActive morphed places).morphText?_eq
          (distinct.later rendered.later) places
  | none =>
      cases knownAfter : rendering.table.morphText? family other with
      | none => rfl
      | some text =>
          obtain ⟨pair, idColumn, typeColumn, partner, morphed, places,
              _⟩ :=
            Morphed.of_morphText? stillHeld leftActive knownAfter
          have partners :
              rendering.table.Partners (.morphs family) other partner :=
            ⟨pair, idColumn, typeColumn, morphed, places⟩
          obtain ⟨pairBefore, _, _, morphedBefore, placesBefore⟩ :=
            rendered.partners_before held distinct partners
          rw [morphedBefore.morphText?_eq distinct placesBefore] at known
          cases known

/-- A column that is left looks the same to all rules. -/
theorem alike :
    Alike table rendering.table other other where
  column?_eq := rendered.column?_eq stillActive (Or.inl elsewhere)
  isIdentity_eq := by
    rw [isIdentity, rendered.column?_eq stillActive (Or.inl elsewhere),
      rendered.later.primaryColumns_eq, isIdentity]
  stamped_eq :=
    rendered.stamped_eq held active distinct leftHeld leftActive
      elsewhere stillActive
  ownerKey?_eq :=
    rendered.ownerKey?_eq held active distinct leftHeld elsewhere
  owned_eq := by
    rw [rendered.ownedColumn?_eq held active distinct stillActive]
  morphText?_eq :=
    rendered.morphText?_eq held active distinct leftHeld leftActive
      elsewhere stillActive

end Left

end Rendered

/-! ## Shares of partners -/

namespace Partners

variable {table : Table} {shorthand : Shorthand}
variable {position other : Nat} {column found : Column}

/-- Just one column of a pair leaves the line of the pair to the other. -/
theorem leaves_eq
    (partners : table.Partners shorthand position other)
    (held : table.column? position = some column)
    (foundHeld : table.column? other = some found) :
    shorthand.leaves found = !shorthand.leaves column := by
  cases shorthand with
  | timestamps zoned =>
      obtain ⟨_, _, stamped⟩ := partners
      obtain rfl := Option.some.inj (held.symm.trans stamped.held)
      obtain rfl := Option.some.inj (foundHeld.symm.trans stamped.foundHeld)
      rcases otherTimestamp?_eq_some_iff.mp stamped.named with
          ⟨created, updated⟩ | ⟨updated, created⟩
      · simp [Shorthand.leaves, created, updated]
      · simp [Shorthand.leaves, created, updated]
  | morphs family =>
      obtain ⟨pair, idColumn, typeColumn, morphed, places⟩ := partners
      have idLeads : (Shorthand.morphs family).leaves idColumn = false := by
        have ending :=
          Text.withoutEnding?_eq_some_iff.mpr morphed.idNamed
        simp [Shorthand.leaves, ending]
      have typeLeaves :
          (Shorthand.morphs family).leaves typeColumn = true := by
        have ending :
            Text.withoutEnding? "_id" typeColumn.name = none := by
          refine Text.withoutEnding?_eq_none_iff.mpr fun base => ?_
          rw [morphed.typeNamed]
          exact (id_ending_ne_type_ending base pair.base).symm
        simp [Shorthand.leaves, ending]
      rcases places with ⟨rfl, rfl⟩ | ⟨rfl, rfl⟩
      · obtain rfl := Option.some.inj (held.symm.trans morphed.idHeld)
        obtain rfl :=
          Option.some.inj (foundHeld.symm.trans morphed.typeHeld)
        rw [typeLeaves, idLeads]
        rfl
      · obtain rfl := Option.some.inj (held.symm.trans morphed.typeHeld)
        obtain rfl := Option.some.inj (foundHeld.symm.trans morphed.idHeld)
        rw [typeLeaves, idLeads]
        rfl
  | _ => exact partners.elim

/-- Either column of a pair is rendered as the line of the pair. -/
theorem lines_eq
    (partners : table.Partners shorthand position other)
    (distinct : table.DistinctNames)
    (held : table.column? position = some column)
    (foundHeld : table.column? other = some found)
    {rendering renderingThere : Rendering}
    (rendered :
      Rendered table position column (some shorthand) rendering)
    (renderedThere :
      Rendered table other found (some shorthand) renderingThere) :
    renderingThere.lines = rendering.lines := by
  cases shorthand with
  | timestamps zoned =>
      obtain ⟨_, _, stamped⟩ := partners
      obtain rfl := Option.some.inj (held.symm.trans stamped.held)
      obtain rfl := Option.some.inj (foundHeld.symm.trans stamped.foundHeld)
      cases rendered
      cases renderedThere
      simp only [timestampsLine, stamped.arguments_eq]
  | morphs family =>
      obtain ⟨pair, _, _, morphed, places⟩ := partners
      have sameText :
          table.morphText? family other =
            table.morphText? family position := by
        rw [morphed.morphText?_eq distinct places,
          morphed.morphText?_eq distinct
            ((Or.symm places).imp And.symm And.symm)]
      cases rendered with
      | morphs _ pairHere idHere foundHere idHereHeld =>
          cases renderedThere with
          | morphs _ pairThere idThere foundThere idThereHeld =>
              rw [morphText?_eq_some_iff.mpr
                  ⟨pairHere, idHere, foundHere, idHereHeld, rfl⟩,
                morphText?_eq_some_iff.mpr
                  ⟨pairThere, idThere, foundThere, idThereHeld, rfl⟩,
                Option.some.injEq, MorphText.mk.injEq] at sameText
              simp only [morphsLine, sameText]
  | _ => exact partners.elim

/-- The line of a pair is the share of one of its columns. -/
theorem shares
    (partners : table.Partners shorthand position other)
    (distinct : table.DistinctNames)
    (held : table.column? position = some column)
    {chosen : Option Shorthand}
    {rendering : Rendering}
    (rendered : Rendered table position column chosen rendering) :
    (table.share position = rendering.lines ∧ table.share other = []) ∨
      (table.share position = [] ∧
        table.share other = rendering.lines) := by
  obtain ⟨_, sameHeld, active⟩ := partners.exists_active
  obtain rfl := Option.some.inj (held.symm.trans sameHeld)
  obtain ⟨found, foundHeld, foundActive⟩ := partners.symm.exists_active
  obtain rfl :=
    rendered.eq_some_of_test held (partners.test_eq_true distinct)
  have renderedThere :=
    rendered_of_test foundHeld (partners.symm.test_eq_true distinct)
  have shareHere := rendered.share_eq held active
  have shareThere := renderedThere.share_eq foundHeld foundActive
  rw [partners.lines_eq distinct held foundHeld rendered renderedThere]
    at shareThere
  simp only [Option.any_some, partners.leaves_eq held foundHeld]
    at shareHere shareThere
  by_cases leaves : shorthand.leaves column = true
  · simp only [leaves, ↓reduceIte, Bool.not_true, Bool.false_eq_true]
      at shareHere shareThere
    exact Or.inr ⟨shareHere, shareThere⟩
  · simp only [leaves, ↓reduceIte, Bool.not_false, Bool.false_eq_true]
      at shareHere shareThere
    exact Or.inl ⟨shareHere, shareThere⟩

end Partners

/-! ## Shares in the course of a pass -/

/-- A marker that is created along with a column has no share. -/
theorem share_of_ownerOf?
    {table : Table}
    (distinct : table.DistinctNames)
    {position marker : Nat}
    {column : Column}
    (held : table.column? position = some column)
    (isColumn : column.isMarker = false)
    (active : column.ignored = false)
    (isOwner : table.ownerOf? position = some marker) :
    table.share marker = [] := by
  obtain ⟨holder, _, holderHeld, marks, holderActive, _⟩ :=
    exists_of_ownerOf? held isOwner
  have owned :=
    (ownedColumn?_iff distinct).mpr
      ⟨column, held, isColumn, active, isOwner⟩
  have recognised : Shorthand.foreignKey.test table marker = true := by
    simp [Shorthand.test, holderHeld, marks, owned]
  obtain ⟨rendering, rendered⟩ :
      ∃ rendering,
        Rendered table marker holder (some .foreignKey) rendering :=
    ⟨_, rendered_of_test holderHeld recognised⟩
  rw [rendered.share_eq holderHeld holderActive]
  cases rendered with
  | deferred => rfl
  | collapsed _ _ _ holderIsColumn =>
      rw [marks] at holderIsColumn
      cases holderIsColumn

namespace Rendered

variable {table : Table} {position : Nat} {column : Column}
variable {chosen : Option Shorthand} {rendering : Rendering}

/-- A visit changes the share of the visited column and that of its partner
only. -/
theorem share_eq_of_ne
    (rendered : Rendered table position column chosen rendering)
    (held : table.column? position = some column)
    (active : column.ignored = false)
    (distinct : table.DistinctNames)
    {other : Nat}
    (elsewhere : other ≠ position)
    (unpaired :
      ∀ shorthand, ¬ table.Partners shorthand position other) :
    rendering.table.share other = table.share other := by
  cases ignored : rendering.table.isIgnored other with
  | true =>
      rw [share_of_isIgnored ignored]
      cases wasIgnored : table.isIgnored other with
      | true => rw [share_of_isIgnored wasIgnored]
      | false =>
          rcases rendered.ignored_cases held active wasIgnored ignored
              (Or.inr elsewhere) with
              ⟨shorthand, partners⟩ | ⟨isColumn, isOwner⟩
          · exact (unpaired shorthand partners).elim
          · rw [share_of_ownerOf? distinct held isColumn active isOwner]
  | false =>
      cases leftHeld : table.column? other with
      | none =>
          have absent := rendered.column?_eq ignored (Or.inl elsewhere)
          simp [share, absent, leftHeld]
      | some left =>
          have leftActive : left.ignored = false := by
            rw [← isIgnored_of_column? leftHeld,
              rendered.later.isIgnored_eq_false ignored]
          exact (rendered.alike held active distinct leftHeld leftActive
            elsewhere ignored).share_eq

/-- A column without a partner is rendered as its share. -/
theorem share_eq_lines
    (rendered : Rendered table position column chosen rendering)
    (held : table.column? position = some column)
    (active : column.ignored = false)
    (unpaired :
      ∀ shorthand, ∀ other,
        ¬ table.Partners shorthand position other) :
    table.share position = rendering.lines := by
  rw [rendered.share_eq held active]
  cases rendered with
  | timestamps zoned sibling isSibling =>
      obtain ⟨found, stamped⟩ :=
        Stamped.of_timestampSibling? held active isSibling
      exact (unpaired (.timestamps zoned) sibling
        ⟨column, found, stamped⟩).elim
  | morphs family pair idColumn found =>
      obtain ⟨_, typeColumn, other, morphed, places⟩ :=
        Morphed.of_morphPair? held active found
      exact (unpaired (.morphs family) other
        ⟨pair, _, typeColumn, morphed, places⟩).elim
  | _ => rfl

/-- A visit adds the share of the visited column, or that of its partner,
which it suppresses. -/
theorem shares_perm
    (rendered : Rendered table position column chosen rendering)
    (held : table.column? position = some column)
    (active : column.ignored = false)
    (distinct : table.DistinctNames)
    {positions : List Nat}
    (nodup : (position :: positions).Nodup)
    (closed :
      ∀ shorthand, ∀ other,
        table.Partners shorthand position other →
        other ∈ position :: positions) :
    (rendering.lines ++ positions.flatMap rendering.table.share).Perm
      ((position :: positions).flatMap table.share) := by
  obtain ⟨visited, nodupRest⟩ := List.nodup_cons.mp nodup
  have elsewhere : ∀ {place}, place ∈ positions → place ≠ position := by
    rintro place left rfl
    exact visited left
  rw [List.flatMap_cons]
  by_cases paired :
      ∃ shorthand other, table.Partners shorthand position other
  · obtain ⟨shorthand, other, partners⟩ := paired
    have left : other ∈ positions :=
      (List.mem_cons.mp (closed shorthand other partners)).resolve_left
        partners.ne.symm
    have apart := List.perm_cons_erase left
    have othersKept :
        (positions.erase other).flatMap rendering.table.share =
          (positions.erase other).flatMap table.share := by
      refine List.flatMap_congr fun place member => ?_
      refine rendered.share_eq_of_ne held active distinct
        (elsewhere (List.mem_of_mem_erase member)) ?_
      intro another rivals
      obtain rfl := partners.unique rivals distinct
      exact nodupRest.not_mem_erase member
    have suppressed : rendering.table.share other = [] :=
      share_of_isIgnored
        (rendered.isIgnored_partner held distinct partners)
    have after := apart.flatMap_right rendering.table.share
    have before := apart.flatMap_right table.share
    rw [List.flatMap_cons, suppressed, List.nil_append, othersKept]
      at after
    rw [List.flatMap_cons] at before
    rcases partners.shares distinct held rendered with
        ⟨here, there⟩ | ⟨here, there⟩
    · rw [there, List.nil_append] at before
      rw [here]
      exact (after.trans before.symm).append_left _
    · rw [there] at before
      rw [here, List.nil_append]
      exact (after.append_left _).trans before.symm
  · have unpaired :
        ∀ shorthand, ∀ other,
          ¬ table.Partners shorthand position other := by
      intro shorthand other partners
      exact paired ⟨shorthand, other, partners⟩
    rw [rendered.share_eq_lines held active unpaired]
    refine List.Perm.of_eq (congrArg (rendering.lines ++ ·) ?_)
    refine List.flatMap_congr fun other left => ?_
    exact rendered.share_eq_of_ne held active distinct (elsewhere left)
      (fun shorthand => unpaired shorthand other)

end Rendered

/-- A pass adds the shares of the columns that it visits, provided that
partners are visited both or not at all. -/
theorem Pass.shares_perm
    {positions : List Nat}
    {table final : Table}
    {lines : List Line}
    (pass : Pass positions table final lines)
    (nodup : positions.Nodup)
    (distinct : table.DistinctNames)
    (closed :
      ∀ shorthand, ∀ first ∈ positions, ∀ second,
        table.Partners shorthand first second →
        second ∈ positions) :
    lines.Perm (positions.flatMap table.share) := by
  induction pass with
  | done => exact List.Perm.refl _
  | skip ignored rest inductionHypothesis =>
      obtain ⟨_, nodupRest⟩ := List.nodup_cons.mp nodup
      rw [List.flatMap_cons, share_of_isIgnored ignored, List.nil_append]
      refine inductionHypothesis nodupRest distinct ?_
      intro shorthand first left second partners
      have member :=
        closed shorthand first (List.mem_cons_of_mem _ left) second
          partners
      rcases List.mem_cons.mp member with rfl | member
      · rw [partners.symm.isIgnored_eq_false] at ignored
        cases ignored
      · exact member
  | visit held active rendered rest inductionHypothesis =>
      have now :=
        rendered.shares_perm held active distinct nodup
          (fun shorthand => closed shorthand _ List.mem_cons_self)
      have later :=
        inductionHypothesis (List.nodup_cons.mp nodup).2
          (distinct.later rendered.later)
          (rendered.partner_mem held distinct closed)
      exact (later.append_left _).trans now

/-- The column pass adds the shares of all columns. -/
theorem columnLines_perm_shares
    (context : RuleContext)
    {table : Table}
    (distinct : table.DistinctNames) :
    (RuleSet.standard.resolve context table).columnLines.Perm
      (table.positions.flatMap table.share) := by
  rw [RuleSet.columnLines_resolve]
  refine (pass_positions context table).shares_perm
    List.nodup_range distinct ?_
  intro shorthand first _ second partners
  obtain ⟨column, held, _⟩ := partners.symm.exists_active
  exact List.mem_range.mpr (List.getElem?_eq_some_iff.mp held).1

end Table

end Tablewright
