import Tablewright.Proofs.Rule.Enforcement
import Tablewright.Proofs.Rule.Named

namespace Tablewright

/-!
# Names that are left out

All columns of a silenced name are passed over.  No rule for columns creates
such a name, neither by itself nor as part of a pair, and no rule for the
table as a whole puts it into a key or an index.  The one kind of line that
names it is the explicit constraint of a marker, whose local columns are not
looked up: a marker that claims a silenced name finds no column to be created
along with, and states its constraint by itself.
-/

open Code

namespace Table

/-- A table has columns of a name, and all of them are left out. -/
structure Silences (table : Table) (name : String) : Prop where
  exists_column :
    ∃ position column,
      table.column? position = some column ∧
        column.isMarker = false ∧ column.name = name
  silent :
    ∀ {position : Nat} {column : Column},
      table.column? position = some column →
      column.isMarker = false →
      column.name = name →
      column.silent = true ∧ column.ignored = true

namespace Silences

variable {table : Table} {name : String}

/-- What is left out stays left out. -/
theorem later
    {after : Table}
    (silences : table.Silences name)
    (later : Later table after) :
    after.Silences name := by
  constructor
  · obtain ⟨position, column, held, isColumn, named⟩ :=
      silences.exists_column
    obtain ⟨changed, changedHeld, changes⟩ := later.column?_after held
    exact ⟨position, changed, changedHeld,
      changes.isMarker_eq.trans isColumn, changes.name_eq.trans named⟩
  · intro position column held isColumn named
    obtain ⟨before, beforeHeld, changes⟩ := later.column?_before held
    obtain ⟨silent, ignored⟩ :=
      silences.silent beforeHeld (changes.isMarker_eq ▸ isColumn)
        (changes.name_eq ▸ named)
    exact ⟨changes.silent_eq.trans silent, changes.staysIgnored ignored⟩

/-- An active column has another name. -/
theorem name_ne
    (silences : table.Silences name)
    {position : Nat}
    {column : Column}
    (held : table.column? position = some column)
    (active : column.ignored = false)
    (isColumn : column.isMarker = false) :
    name ≠ column.name := by
  intro named
  obtain ⟨_, ignored⟩ := silences.silent held isColumn named.symm
  rw [active] at ignored
  cases ignored

/-- A column that is not silent has another name. -/
theorem ne_of_mem
    (silences : table.Silences name)
    {column : Column}
    (member : column ∈ table.columns)
    (shown : column.silent = false)
    (isColumn : column.isMarker = false) :
    name ≠ column.name := by
  intro named
  obtain ⟨position, held⟩ := List.mem_iff_getElem?.mp member
  obtain ⟨silent, _⟩ := silences.silent held isColumn named.symm
  rw [shown] at silent
  cases silent

theorem findActive?_eq_none
    (silences : table.Silences name) :
    table.findActive? name = none := by
  cases found : table.findActive? name with
  | none => rfl
  | some position =>
      obtain ⟨column, held, isColumn, active, named⟩ :=
        column?_of_findActive? found
      exact (silences.name_ne held active isColumn named.symm).elim

end Silences

/-- An active marker holds a foreign key with a given local column. -/
def Claimed
    (table : Table)
    (name : String)
    (marker : Nat)
    (key : ForeignKey) : Prop :=
  ∃ holder,
    table.column? marker = some holder ∧
      holder.isMarker = true ∧
      holder.ignored = false ∧
      holder.owningKey? = some key ∧
      name ∈ key.localColumns

namespace Rendered

variable {table : Table} {position : Nat} {column : Column}
variable {chosen : Option Shorthand} {rendering : Rendering}
variable {name : String}

/-- A visit makes and releases no claim on a silenced name. -/
theorem claimed_iff
    (rendered : Rendered table position column chosen rendering)
    (held : table.column? position = some column)
    (active : column.ignored = false)
    (silences : table.Silences name)
    {marker : Nat}
    {key : ForeignKey} :
    rendering.table.Claimed name marker key ↔
      table.Claimed name marker key := by
  have same :
      ∀ marker ∈ rendering.table.markersClaiming name,
        rendering.table.column? marker = table.column? marker :=
    fun marker claims => rendered.column?_claiming_eq held claims
  constructor
  · rintro ⟨holder, holderHeld, claimed⟩
    have claims : marker ∈ rendering.table.markersClaiming name :=
      mem_markersClaiming.mpr ⟨holder, key, holderHeld, claimed⟩
    exact ⟨holder, (same marker claims) ▸ holderHeld, claimed⟩
  · rintro ⟨holder, holderHeld, claimed⟩
    have claims : marker ∈ rendering.table.markersClaiming name := by
      refine rendered.mem_markersClaiming_of_kept held active ?_
        (mem_markersClaiming.mpr ⟨holder, key, holderHeld, claimed⟩)
      intro isColumn named
      exact (silences.name_ne held active isColumn named.symm).elim
    exact ⟨holder, (same marker claims).symm ▸ holderHeld, claimed⟩

/-- A visited column is rendered to a line with a silenced name only as a
marker that claims the name. -/
theorem claimed_of_named
    (rendered : Rendered table position column chosen rendering)
    (held : table.column? position = some column)
    (active : column.ignored = false)
    (silences : table.Silences name)
    {line : Line}
    (member : line ∈ rendering.lines)
    (named : name ∈ line.named) :
    ∃ key,
      table.Claimed name position key ∧
        line = .statement key.constraint := by
  cases rendered with
  | identity recognised =>
      obtain ⟨_, sameHeld, _, _, isInteger, _⟩ :=
        isIdentity_iff.mp recognised
      obtain rfl := Option.some.inj (held.symm.trans sameHeld)
      obtain rfl := List.mem_singleton.mp member
      rw [named_identityStatement, List.mem_singleton] at named
      exact (silences.name_ne held active
        (isMarker_eq_false_of_isInteger isInteger) named).elim
  | timestamps zoned sibling isSibling =>
      obtain ⟨found, stamped⟩ :=
        Stamped.of_timestampSibling? held active isSibling
      have own := silences.name_ne held active
        (isMarker_eq_false_of_timestamp stamped.kind)
      have others := silences.name_ne stamped.foundHeld
        stamped.foundActive
        (isMarker_eq_false_of_timestamp stamped.foundKind)
      obtain rfl := List.mem_singleton.mp member
      rw [named_timestampsLine, List.mem_pair] at named
      rcases otherTimestamp?_eq_some_iff.mp stamped.named with
          ⟨created, updated⟩ | ⟨updated, created⟩
      · rw [created] at own
        rw [updated] at others
        exact (named.elim own others).elim
      · rw [updated] at own
        rw [created] at others
        exact (named.elim others own).elim
  | softDeletes zoned recognised =>
      obtain ⟨_, sameHeld, deleted, kind, _⟩ :=
        isSoftDelete_iff.mp recognised
      obtain rfl := Option.some.inj (held.symm.trans sameHeld)
      obtain rfl := List.mem_singleton.mp member
      rw [named_softDeletesLine, List.mem_singleton, ← deleted] at named
      exact (silences.name_ne held active
        (isMarker_eq_false_of_timestamp kind) named).elim
  | rememberToken recognised =>
      obtain ⟨_, sameHeld, token, kind, _⟩ :=
        isRememberToken_iff.mp recognised
      obtain rfl := Option.some.inj (held.symm.trans sameHeld)
      obtain rfl := List.mem_singleton.mp member
      have isColumn : column.isMarker = false := by
        rw [Column.isMarker, kind]
        rfl
      have tokenNamed : name ∈ ["remember_token"] := named
      rw [List.mem_singleton, ← token] at tokenNamed
      exact (silences.name_ne held active isColumn tokenNamed).elim
  | deferred => cases member
  | collapsed marker holder key isColumn isOwner holderHeld owning =>
      obtain ⟨onlyLocal, single, _⟩ :=
        key_of_ownerOf? held isOwner holderHeld owning
      obtain rfl := List.mem_singleton.mp member
      rw [mem_named_foreignStatement_iff onlyLocal single] at named
      exact (silences.name_ne held active isColumn named).elim
  | morphs family pair idColumn found idHeld =>
      obtain ⟨_, _, _, morphed, _⟩ :=
        Morphed.of_morphPair? held active found
      obtain rfl := Option.some.inj (idHeld.symm.trans morphed.idHeld)
      obtain rfl := List.mem_singleton.mp member
      rw [named_morphsLine, List.mem_pair, ← morphed.idNamed,
        ← morphed.typeNamed] at named
      rcases named with isId | isType
      · exact (silences.name_ne morphed.idHeld morphed.idActive
          morphed.idIsColumn isId).elim
      · exact (silences.name_ne morphed.typeHeld morphed.typeActive
          morphed.typeIsColumn isType).elim
  | constraint marks =>
      obtain ⟨key, owning, rfl⟩ :=
        Option.map_eq_some_iff.mp (Option.mem_toList.mp member)
      rw [ForeignKey.named_constraint] at named
      exact ⟨key, ⟨column, held, marks, active, owning, named⟩, rfl⟩
  | plain isColumn =>
      obtain ⟨written, creates, rfl⟩ :=
        Option.map_eq_some_iff.mp (Option.mem_toList.mp member)
      rw [Column.named_creation? creates, List.mem_singleton] at named
      exact (silences.name_ne held active isColumn named).elim

/-- A marker that claims a silenced name states its constraint. -/
theorem mem_lines_of_claimed
    (rendered : Rendered table position column chosen rendering)
    (held : table.column? position = some column)
    (silences : table.Silences name)
    {key : ForeignKey}
    (claimed : table.Claimed name position key) :
    Line.statement key.constraint ∈ rendering.lines := by
  obtain ⟨_, sameHeld, marks, active, owning, claims⟩ := claimed
  obtain rfl := Option.some.inj (held.symm.trans sameHeld)
  -- Only the shorthand for foreign keys recognises a marker.
  have other :
      ∀ shorthand : Shorthand,
        shorthand ≠ .foreignKey → chosen ≠ some shorthand := by
    rintro shorthand different rfl
    obtain ⟨isColumn, _⟩ :=
      rendered.unowned_of_ne_foreignKey held different
    rw [marks] at isColumn
    cases isColumn
  cases rendered with
  | constraint => simp [owning]
  | deferred owned _ found =>
      obtain ⟨_, _, only, holderHeld, keyOwning, single, isActive, _⟩ :=
        ownedColumn?_eq_some_iff.mp found
      obtain rfl := Option.some.inj (held.symm.trans holderHeld)
      obtain rfl := Option.some.inj (owning.symm.trans keyOwning)
      rw [single, List.mem_singleton] at claims
      rw [← claims, silences.findActive?_eq_none] at isActive
      cases isActive
  | collapsed _ _ _ isColumn =>
      rw [isColumn] at marks
      cases marks
  | plain isColumn =>
      rw [isColumn] at marks
      cases marks
  | identity => exact (other .identity (by decide) rfl).elim
  | timestamps zoned =>
      exact (other (.timestamps zoned) (by simp) rfl).elim
  | softDeletes zoned =>
      exact (other (.softDeletes zoned) (by simp) rfl).elim
  | rememberToken => exact (other .rememberToken (by decide) rfl).elim
  | morphs family => exact (other (.morphs family) (by simp) rfl).elim

end Rendered

namespace Pass

variable {positions : List Nat} {table final : Table} {lines : List Line}
variable {name : String}

/-- A pass writes a silenced name only for markers that have claimed it from
the start. -/
theorem claimed_of_named
    (pass : Pass positions table final lines)
    (silences : table.Silences name)
    {line : Line}
    (member : line ∈ lines)
    (named : name ∈ line.named) :
    ∃ marker key,
      table.Claimed name marker key ∧
        line = .statement key.constraint := by
  induction pass with
  | done => cases member
  | skip _ _ inductionHypothesis =>
      exact inductionHypothesis silences member
  | visit held active rendered _ inductionHypothesis =>
      rcases List.mem_append.mp member with now | later
      · obtain ⟨key, claimed, same⟩ :=
          rendered.claimed_of_named held active silences now named
        exact ⟨_, key, claimed, same⟩
      · obtain ⟨marker, key, claimed, same⟩ :=
          inductionHypothesis (silences.later rendered.later) later
        exact ⟨marker, key,
          (rendered.claimed_iff held active silences).mp claimed, same⟩

/-- A pass states the constraint of every marker that claims a silenced
name. -/
theorem mem_lines_of_claimed
    (pass : Pass positions table final lines)
    (silences : table.Silences name)
    {marker : Nat}
    (inPositions : marker ∈ positions)
    {key : ForeignKey}
    (claimed : table.Claimed name marker key) :
    Line.statement key.constraint ∈ lines := by
  induction pass with
  | done => cases inPositions
  | skip ignored _ inductionHypothesis =>
      rcases List.mem_cons.mp inPositions with rfl | later
      · obtain ⟨holder, held, _, active, _⟩ := claimed
        rw [isIgnored_of_column? held, active] at ignored
        cases ignored
      · exact inductionHypothesis silences later claimed
  | visit held active rendered _ inductionHypothesis =>
      rcases List.mem_cons.mp inPositions with rfl | later
      · exact List.mem_append_left _
          (rendered.mem_lines_of_claimed held silences claimed)
      · exact List.mem_append_right _
          (inductionHypothesis (silences.later rendered.later) later
            ((rendered.claimed_iff held active silences).mpr claimed))

end Pass

/-! ## Keys and indexes -/

namespace Silences

variable {table : Table} {name : String}

/-- A silenced name is not part of the primary key. -/
theorem not_mem_primaryNames
    (silences : table.Silences name) :
    name ∉ table.primaryNames := by
  rw [primaryNames_eq]
  intro member
  obtain ⟨column, isKey, named⟩ := List.mem_map.mp member
  obtain ⟨inTable, isKey⟩ := List.mem_filter.mp isKey
  simp only [isKeyColumn, Bool.and_eq_true, Bool.not_eq_true'] at isKey
  exact silences.ne_of_mem inTable isKey.2 isKey.1.2 named.symm

/-- A silenced name gets no unique index of its own. -/
theorem not_mem_uniqueNames
    (silences : table.Silences name) :
    name ∉ table.uniqueNames := by
  intro member
  obtain ⟨column, isUnique, named⟩ := List.mem_map.mp member
  obtain ⟨inTable, isUnique⟩ := List.mem_filter.mp isUnique
  simp only [Bool.and_eq_true, Bool.not_eq_true'] at isUnique
  exact silences.ne_of_mem inTable isUnique.1.2 isUnique.2 named.symm

/-- An index over a silenced name is left out. -/
theorem isSilenced
    (silences : table.Silences name)
    {index : TableIndex}
    (member : name ∈ index.columns) :
    table.isSilenced index = true := by
  obtain ⟨position, column, held, isColumn, named⟩ :=
    silences.exists_column
  obtain ⟨found, isFound⟩ : ∃ found, table.find? name = some found := by
    refine Option.isSome_iff_exists.mp (List.findIdx?_isSome.trans ?_)
    exact List.any_eq_true.mpr
      ⟨column, List.mem_of_getElem? held, by simp [isColumn, named]⟩
  obtain ⟨first, firstHeld, firstIsColumn, firstNamed⟩ :=
    column?_of_find? isFound
  have silent := (silences.silent firstHeld firstIsColumn firstNamed).1
  exact List.any_eq_true.mpr
    ⟨name, member, by simp [isFound, firstHeld, silent]⟩

/-- No rule for the table as a whole names what is silenced. -/
theorem not_mem_named_of_utility
    (silences : table.Silences name)
    {utility : Utility}
    {line : Line}
    (member : line ∈ utility.lines table) :
    name ∉ line.named := by
  cases utility with
  | compositePrimary =>
      simp only [Utility.lines, compositePrimaryLines] at member
      split at member
      · cases member
      · obtain rfl := List.mem_singleton.mp member
        rw [Line.named_call_of_mem_keyMethods (by decide),
          Argument.names_columns]
        exact silences.not_mem_primaryNames
  | singlePrimary =>
      simp only [Utility.lines, singlePrimaryLines] at member
      split at member
      · rename_i only isOnly
        split at member
        · cases member
        · split at member
          · rename_i column held
            obtain rfl := List.mem_singleton.mp member
            have names : table.primaryNames = [column.name] := by
              simp [primaryNames, isOnly, held]
            rw [Line.named_call_of_mem_keyMethods (by decide)]
            have apart := silences.not_mem_primaryNames
            rw [names] at apart
            exact apart
          · cases member
      · cases member
  | indexes =>
      simp only [Utility.lines, indexLines, List.mem_append,
        List.mem_map, List.mem_filterMap] at member
      rcases member with ⟨unique, isUnique, rfl⟩ | ⟨index, _, stated⟩
      · rw [Line.named_call_of_mem_keyMethods (by decide)]
        intro named
        obtain rfl := List.mem_singleton.mp named
        exact silences.not_mem_uniqueNames isUnique
      · unfold indexLine? at stated
        split at stated
        · cases stated
        · rename_i kept
          obtain ⟨method, chosen, rfl⟩ :=
            Option.map_eq_some_iff.mp stated
          rw [Line.named_call_of_mem_keyMethods
            (mem_keyMethods_of_indexMethod? chosen),
            Argument.names_columns]
          intro named
          rw [silences.isSilenced named, Bool.true_or] at kept
          exact kept rfl

end Silences

end Table

namespace RuleSet

/-- The utility rules add no line that names what is silenced. -/
theorem not_mem_named_of_mem_resolveUtilities
    (context : RuleContext)
    (utilities : List Utility)
    {table : Table}
    {name : String}
    (silences : table.Silences name) :
    ∀ contribution ∈
        (resolveUtilities context (utilities.map Utility.rule)
          table).contributions,
      ∀ line ∈ contribution.lines, name ∉ line.named := by
  induction utilities generalizing table with
  | nil => simp [resolveUtilities]
  | cons utility rest inductionHypothesis =>
      simp only [List.map_cons, resolveUtilities]
      split
      · exact inductionHypothesis silences
      · have noted : (table.consume utility.name).Silences name :=
          ⟨silences.exists_column, silences.silent⟩
        simp only [List.forall_mem_cons]
        refine ⟨?_, inductionHypothesis noted⟩
        intro line member
        exact noted.not_mem_named_of_utility member

/-- A resolution names what is silenced in the constraints of the markers
that claim it, and nowhere else. -/
theorem mem_lines_and_named_iff
    (context : RuleContext)
    {table : Table}
    {name : String}
    (silences : table.Silences name)
    {line : Line} :
    line ∈ (standard.resolve context table).lines ∧ name ∈ line.named ↔
      ∃ marker key,
        table.Claimed name marker key ∧
          line = .statement key.constraint := by
  have pass := Table.pass_positions context table
  simp only [Resolution.lines, resolve, List.flatMap_append,
    List.mem_append]
  constructor
  · rintro ⟨visit | utility, named⟩
    · exact pass.claimed_of_named silences visit named
    · obtain ⟨contribution, contributes, inLines⟩ :=
        List.mem_flatMap.mp utility
      exact (not_mem_named_of_mem_resolveUtilities context
        Utility.inOrder (silences.later pass.later) contribution
        contributes line inLines named).elim
  · rintro ⟨marker, key, claimed, rfl⟩
    have claimedNow := claimed
    obtain ⟨holder, held, _, _, _, claims⟩ := claimedNow
    refine ⟨Or.inl (pass.mem_lines_of_claimed silences ?_ claimed), ?_⟩
    · exact List.mem_range.mpr (List.getElem?_eq_some_iff.mp held).1
    · rw [ForeignKey.named_constraint]
      exact claims

end RuleSet

end Tablewright
