import Tablewright.Rule.Shorthand
import Tablewright.Proofs.Column.Table
import Tablewright.Proofs.Text.Pieces

namespace Tablewright

/-!
# Recognition of shorthands

What each shorthand requires of a column and of its table.  The requirements
exclude each other, so at most one shorthand recognises a column.
-/

namespace Table

/-- An integer is no marker. -/
theorem isMarker_eq_false_of_isInteger
    {column : Column}
    (integer : column.kind.isInteger = true) :
    column.isMarker = false := by
  cases kind : column.kind with
  | relation =>
      rw [kind] at integer
      cases integer
  | _ => simp [Column.isMarker, Column.Kind.isRelation, kind]

/-- A timestamp is no marker. -/
theorem isMarker_eq_false_of_timestamp
    {column : Column}
    {zoned : Bool}
    (kind : column.kind = timestampKind zoned) :
    column.isMarker = false := by
  rw [Column.isMarker, kind]
  cases zoned <;> rfl

/-- What identifies the owner of a discriminator pair is no marker. -/
theorem isMarker_eq_false_of_accepts
    {column : Column}
    {family : MorphFamily}
    (accepted : family.accepts column = true) :
    column.isMarker = false := by
  cases kind : column.kind with
  | relation =>
      cases family <;> simp [MorphFamily.accepts, kind] at accepted
  | _ => simp [Column.isMarker, Column.Kind.isRelation, kind]

variable {table : Table}

/-- The identity shorthand requires a counting integer that is the whole
primary key. -/
theorem isIdentity_iff
    {position : Nat} :
    table.isIdentity position = true ↔
      ∃ column,
        table.column? position = some column ∧
          column.primary = true ∧
          column.autoIncrement = true ∧
          column.kind.isInteger = true ∧
          table.primaryColumns.length = 1 := by
  unfold isIdentity
  cases table.column? position with
  | none => simp
  | some column => simp [and_assoc]

/-- The two timestamps of a pair are the times of creation and of the last
update. -/
theorem otherTimestamp?_eq_some_iff
    {name other : String} :
    otherTimestamp? name = some other ↔
      (name = "created_at" ∧ other = "updated_at") ∨
        (name = "updated_at" ∧ other = "created_at") := by
  unfold otherTimestamp?
  split
  · simp [eq_comm]
  · simp [eq_comm]
  · rename_i notCreated notUpdated
    constructor
    · intro absent
      cases absent
    · intro given
      rcases given with ⟨created, _⟩ | ⟨updated, _⟩
      · exact (notCreated created).elim
      · exact (notUpdated updated).elim

/-- A pair of timestamps has matching names, one kind and one precision, and
its other column is active. -/
theorem timestampSibling?_eq_some_iff
    {zoned : Bool}
    {position sibling : Nat} :
    table.timestampSibling? zoned position = some sibling ↔
      ∃ column other found,
        table.column? position = some column ∧
          column.kind = timestampKind zoned ∧
          otherTimestamp? column.name = some other ∧
          table.findActive? other = some sibling ∧
          table.column? sibling = some found ∧
          found.kind = column.kind ∧
          found.arguments = column.arguments := by
  simp only [timestampSibling?, Option.bind_eq_bind,
    Option.bind_eq_some_iff, ite_not, Option.ite_none_right_eq_some,
    Option.some.injEq]
  constructor
  · intro given
    rcases given with ⟨column, held, kind, other, named, found, isFound,
        active, activeHeld, matching, rfl⟩
    exact ⟨column, other, active, held, kind, named, isFound,
      activeHeld, matching⟩
  · intro given
    rcases given with ⟨column, other, found, held, kind, named, isFound,
        foundHeld, matching⟩
    exact ⟨column, held, kind, other, named, sibling, isFound, found,
      foundHeld, matching, rfl⟩

/-- A deletion note is a nullable timestamp called `deleted_at`. -/
theorem isSoftDelete_iff
    {zoned : Bool}
    {position : Nat} :
    table.isSoftDelete zoned position = true ↔
      ∃ column,
        table.column? position = some column ∧
          column.name = "deleted_at" ∧
          column.kind = timestampKind zoned ∧
          column.nullable = true := by
  unfold isSoftDelete
  cases table.column? position with
  | none => simp
  | some column => simp [and_assoc]

/-- A session token is a nullable text called `remember_token`. -/
theorem isRememberToken_iff
    {position : Nat} :
    table.isRememberToken position = true ↔
      ∃ column,
        table.column? position = some column ∧
          column.name = "remember_token" ∧
          column.kind = .string ∧
          column.nullable = true ∧
          (column.arguments = [] ∨ column.arguments = ["100"]) := by
  unfold isRememberToken
  cases table.column? position with
  | none => simp
  | some column => simp [and_assoc]

/-- The owner of a column is its only claimant, through a key of one column
on either side. -/
theorem ownerOf?_eq_some_iff
    {position marker : Nat} :
    table.ownerOf? position = some marker ↔
      ∃ column holder key,
        table.column? position = some column ∧
          (foreignMethod? column.kind).isSome = true ∧
          column.autoIncrement = false ∧
          table.markersClaiming column.name = [marker] ∧
          table.column? marker = some holder ∧
          holder.owningKey? = some key ∧
          key.localColumns.length = 1 ∧
          key.references.length = 1 := by
  simp only [ownerOf?, Option.bind_eq_bind, Option.bind_eq_some_iff,
    Option.isSome_iff_exists]
  constructor
  · intro given
    rcases given with ⟨column, held, method, hasMethod, owned⟩
    cases counts : column.autoIncrement with
    | true => simp [counts] at owned
    | false =>
        simp only [counts, Bool.false_eq_true, ↓reduceIte] at owned
        split at owned
        · rename_i only claimed
          simp only [Option.bind_eq_some_iff,
            Option.ite_none_right_eq_some, Option.some.injEq] at owned
          obtain ⟨holder, holderHeld, key, owning, single, rfl⟩ := owned
          exact ⟨column, holder, key, held, ⟨method, hasMethod⟩, counts,
            claimed, holderHeld, owning, single⟩
        · cases owned
  · intro given
    rcases given with ⟨column, holder, key, held, ⟨method, hasMethod⟩,
        counts, claimed, holderHeld, owning, single⟩
    refine ⟨column, held, method, hasMethod, ?_⟩
    simp [counts, claimed, holderHeld, owning, single]

/-- The owner of a column is an active marker whose key has that column for
its only local one. -/
theorem exists_of_ownerOf?
    {position marker : Nat}
    {column : Column}
    (held : table.column? position = some column)
    (owned : table.ownerOf? position = some marker) :
    ∃ holder key,
      table.column? marker = some holder ∧
        holder.isMarker = true ∧
        holder.ignored = false ∧
        holder.owningKey? = some key ∧
        key.localColumns = [column.name] := by
  obtain ⟨_, _, key, sameHeld, _, _, claimed, holderHeld, owning,
      single, _⟩ :=
    ownerOf?_eq_some_iff.mp owned
  obtain rfl := Option.some.inj (held.symm.trans sameHeld)
  have claims : marker ∈ table.markersClaiming column.name := by
    simp [claimed]
  obtain ⟨holder, _, sameHolder, marks, active, sameOwning, member⟩ :=
    mem_markersClaiming.mp claims
  obtain rfl := Option.some.inj (sameHolder.symm.trans holderHeld)
  obtain rfl := Option.some.inj (sameOwning.symm.trans owning)
  refine ⟨holder, _, sameHolder, marks, active, owning, ?_⟩
  obtain ⟨only, isOnly⟩ := List.length_eq_one_iff.mp single
  rw [isOnly, List.mem_singleton] at member
  rw [isOnly, member]

/-- A column is not its own owner. -/
theorem ne_of_ownerOf?
    {position marker : Nat}
    {column : Column}
    (held : table.column? position = some column)
    (isColumn : column.isMarker = false)
    (owned : table.ownerOf? position = some marker) :
    marker ≠ position := by
  rintro rfl
  obtain ⟨_, _, holderHeld, marks, _⟩ := exists_of_ownerOf? held owned
  obtain rfl := Option.some.inj (held.symm.trans holderHeld)
  rw [isColumn] at marks
  cases marks

/-- A marker is created along with its only local column if that column is
active and has no other claimant. -/
theorem ownedColumn?_eq_some_iff
    {marker position : Nat} :
    table.ownedColumn? marker = some position ↔
      ∃ holder key name,
        table.column? marker = some holder ∧
          holder.owningKey? = some key ∧
          key.localColumns = [name] ∧
          table.findActive? name = some position ∧
          table.ownerOf? position = some marker := by
  simp only [ownedColumn?, Option.bind_eq_bind,
    Option.bind_eq_some_iff]
  constructor
  · intro given
    rcases given with ⟨holder, held, key, owning, owned⟩
    split at owned
    · rename_i name single
      simp only [Option.bind_eq_some_iff,
        Option.ite_none_right_eq_some, Option.some.injEq] at owned
      obtain ⟨_, found, owner, rfl⟩ := owned
      exact ⟨holder, key, name, held, owning, single, found, owner⟩
    · cases owned
  · intro given
    rcases given with ⟨holder, key, name, held, owning, single, found, owner⟩
    refine ⟨holder, held, key, owning, ?_⟩
    simp [single, found, owner]

/-- No name has both endings of discriminator columns. -/
theorem id_ending_ne_type_ending
    (first second : String) :
    first ++ "_id" ≠ second ++ "_type" := by
  intro same
  have lastCharacters :
      (first ++ "_id").toList.getLast? =
        (second ++ "_type").toList.getLast? := by
    rw [same]
  simp at lastCharacters

/-- A pair of names is a column with one of the two endings, along with the
active column that has the other one. -/
theorem namedPair?_eq_some_iff
    {position : Nat}
    {name : String}
    {pair : MorphPair} :
    table.namedPair? position name = some pair ↔
      (name = pair.base ++ "_id" ∧
          pair.idColumn = position ∧
          table.findActive? (pair.base ++ "_type") =
            some pair.typeColumn) ∨
        (name = pair.base ++ "_type" ∧
          pair.typeColumn = position ∧
          table.findActive? (pair.base ++ "_id") =
            some pair.idColumn) := by
  obtain ⟨idColumn, typeColumn, base⟩ := pair
  simp only [namedPair?]
  cases endsWithId : Text.withoutEnding? "_id" name with
  | some found =>
      obtain rfl := Text.withoutEnding?_eq_some_iff.mp endsWithId
      have otherEnding := id_ending_ne_type_ending found base
      simp only [Option.map_eq_some_iff, MorphPair.mk.injEq,
        otherEnding, false_and, or_false]
      constructor
      · intro given
        rcases given with ⟨_, active, rfl, rfl, rfl⟩
        exact ⟨rfl, rfl, active⟩
      · intro given
        rcases given with ⟨sameName, rfl, active⟩
        obtain rfl : found = base := by simpa using sameName
        exact ⟨typeColumn, active, rfl, rfl, rfl⟩
  | none =>
      have noId := Text.withoutEnding?_eq_none_iff.mp endsWithId base
      simp only [noId, false_and, false_or]
      cases endsWithType : Text.withoutEnding? "_type" name with
      | some found =>
          obtain rfl := Text.withoutEnding?_eq_some_iff.mp endsWithType
          simp only [Option.map_eq_some_iff, MorphPair.mk.injEq]
          constructor
          · intro given
            rcases given with ⟨_, active, rfl, rfl, rfl⟩
            exact ⟨rfl, rfl, active⟩
          · intro given
            rcases given with ⟨sameName, rfl, active⟩
            obtain rfl : found = base := by simpa using sameName
            exact ⟨idColumn, active, rfl, rfl, rfl⟩
      | none =>
          have noType :=
            Text.withoutEnding?_eq_none_iff.mp endsWithType base
          simp [noType]

/-- What two columns have to be to make a pair of a family. -/
theorem isPairOf_iff
    {family : MorphFamily}
    {idColumn typeColumn : Column} :
    table.isPairOf family idColumn typeColumn = true ↔
      family.accepts idColumn = true ∧
        typeColumn.kind = .string ∧
        idColumn.nullable = typeColumn.nullable ∧
        idColumn.primary = false ∧
        typeColumn.primary = false ∧
        idColumn.foreignKey = none ∧
        typeColumn.foreignKey = none ∧
        table.markersClaiming idColumn.name = [] := by
  simp [isPairOf, and_assoc]

/-- A discriminator pair has two matching names and two fitting columns. -/
theorem morphPair?_eq_some_iff
    {family : MorphFamily}
    {position : Nat}
    {pair : MorphPair} :
    table.morphPair? family position = some pair ↔
      ∃ column idColumn typeColumn,
        table.column? position = some column ∧
          column.isMarker = false ∧
          table.namedPair? position column.name = some pair ∧
          pair.base ≠ "" ∧
          table.column? pair.idColumn = some idColumn ∧
          table.column? pair.typeColumn = some typeColumn ∧
          table.isPairOf family idColumn typeColumn = true := by
  simp only [morphPair?, Option.bind_eq_bind, Option.bind_eq_some_iff,
    Option.ite_none_left_eq_some, Option.ite_none_right_eq_some,
    Option.some.injEq, Bool.not_eq_true, String.isEmpty_eq_false_iff]
  constructor
  · intro given
    rcases given with ⟨column, held, isColumn, found, named, based,
        idColumn, idHeld, typeColumn, typeHeld, isPair, rfl⟩
    exact ⟨column, idColumn, typeColumn, held, isColumn, named, based,
      idHeld, typeHeld, isPair⟩
  · intro given
    rcases given with ⟨column, idColumn, typeColumn, held, isColumn, named,
        based, idHeld, typeHeld, isPair⟩
    exact ⟨column, held, isColumn, pair, named, based, idColumn,
      idHeld, typeColumn, typeHeld, isPair, rfl⟩

end Table

namespace Shorthand

/-- What a shorthand requires of the column that it recognises.  The other
column of a pair is not judged here, except for the one that identifies the
owner of a discriminator pair. -/
def Fits
    (table : Table)
    (position : Nat)
    (column : Column) : Shorthand → Prop
  | .identity =>
      column.kind.isInteger = true ∧
        column.autoIncrement = true ∧
        column.primary = true
  | .timestamps zoned =>
      column.kind = timestampKind zoned ∧
        (column.name = "created_at" ∨ column.name = "updated_at")
  | .softDeletes zoned =>
      column.kind = timestampKind zoned ∧ column.name = "deleted_at"
  | .rememberToken =>
      column.kind = .string ∧ column.name = "remember_token"
  | .foreignKey =>
      column.kind = .relation ∨
        ((foreignMethod? column.kind).isSome = true ∧
          column.autoIncrement = false ∧
          table.markersClaiming column.name ≠ [])
  | .morphs family =>
      column.primary = false ∧
        ∃ pair idColumn,
          table.namedPair? position column.name = some pair ∧
            table.column? pair.idColumn = some idColumn ∧
            family.accepts idColumn = true ∧
            ((idColumn = column ∧
                table.markersClaiming column.name = []) ∨
              (column.kind = .string ∧
                ∃ base, column.name = base ++ "_type"))

/-- A recognised column meets the requirements of its shorthand. -/
theorem fits_of_test
    {shorthand : Shorthand}
    {table : Table}
    {position : Nat}
    {column : Column}
    (held : table.column? position = some column)
    (recognised : shorthand.test table position = true) :
    shorthand.Fits table position column := by
  cases shorthand with
  | identity =>
      obtain ⟨_, sameHeld, primary, counts, integer, _⟩ :=
        Table.isIdentity_iff.mp recognised
      obtain rfl := Option.some.inj (held.symm.trans sameHeld)
      exact ⟨integer, counts, primary⟩
  | timestamps zoned =>
      obtain ⟨sibling, found⟩ := Option.isSome_iff_exists.mp recognised
      obtain ⟨_, other, _, sameHeld, kind, named, _⟩ :=
        Table.timestampSibling?_eq_some_iff.mp found
      obtain rfl := Option.some.inj (held.symm.trans sameHeld)
      refine ⟨kind, ?_⟩
      rcases Table.otherTimestamp?_eq_some_iff.mp named with
          ⟨created, _⟩ | ⟨updated, _⟩
      · exact Or.inl created
      · exact Or.inr updated
  | softDeletes zoned =>
      obtain ⟨_, sameHeld, named, kind, _⟩ :=
        Table.isSoftDelete_iff.mp recognised
      obtain rfl := Option.some.inj (held.symm.trans sameHeld)
      exact ⟨kind, named⟩
  | rememberToken =>
      obtain ⟨_, sameHeld, named, kind, _⟩ :=
        Table.isRememberToken_iff.mp recognised
      obtain rfl := Option.some.inj (held.symm.trans sameHeld)
      exact ⟨kind, named⟩
  | foreignKey =>
      simp only [test, held] at recognised
      split at recognised
      · rename_i marks
        left
        cases kind : column.kind <;>
          simp [Column.isMarker, Column.Kind.isRelation, kind] at marks ⊢
      · right
        obtain ⟨marker, found⟩ :=
          Option.isSome_iff_exists.mp recognised
        obtain ⟨_, _, _, sameHeld, method, counts, claimed, _⟩ :=
          Table.ownerOf?_eq_some_iff.mp found
        obtain rfl := Option.some.inj (held.symm.trans sameHeld)
        exact ⟨method, counts, by simp [claimed]⟩
  | morphs family =>
      obtain ⟨pair, found⟩ := Option.isSome_iff_exists.mp recognised
      obtain ⟨_, idColumn, typeColumn, sameHeld, _, named, _, idHeld,
          typeHeld, isPair⟩ :=
        Table.morphPair?_eq_some_iff.mp found
      obtain rfl := Option.some.inj (held.symm.trans sameHeld)
      obtain ⟨accepted, typeKind, _, idPrimary, typePrimary, _, _,
          unclaimed⟩ :=
        Table.isPairOf_iff.mp isPair
      rcases Table.namedPair?_eq_some_iff.mp named with
          ⟨_, isId, _⟩ | ⟨endsWithType, isType, _⟩
      · rw [isId, held] at idHeld
        obtain rfl := Option.some.inj idHeld
        refine ⟨idPrimary, pair, column, named, ?_, accepted, ?_⟩
        · rw [isId, held]
        · exact Or.inl ⟨rfl, unclaimed⟩
      · rw [isType, held] at typeHeld
        obtain rfl := Option.some.inj typeHeld
        exact ⟨typePrimary, pair, idColumn, named, idHeld, accepted,
          Or.inr ⟨typeKind, pair.base, endsWithType⟩⟩

/-- The family of discriminator pairs that a column can identify owners of,
judged by its kind alone. -/
def familyOf? (column : Column) : Option MorphFamily :=
  match column.kind with
  | .uuid => some .uuid
  | .ulid => some .ulid
  | .integer | .bigInteger => some .integer
  | _ => none

/-- A family accepts columns of its own kinds only. -/
theorem familyOf?_of_accepts
    {family : MorphFamily}
    {column : Column}
    (accepted : family.accepts column = true) :
    familyOf? column = some family := by
  cases family with
  | uuid =>
      simp only [MorphFamily.accepts, beq_iff_eq] at accepted
      simp [familyOf?, accepted]
  | ulid =>
      simp only [MorphFamily.accepts, beq_iff_eq] at accepted
      simp [familyOf?, accepted]
  | integer =>
      simp only [MorphFamily.accepts, Bool.and_eq_true,
        Bool.or_eq_true, beq_iff_eq] at accepted
      rcases accepted.1 with integer | bigInteger
      · simp [familyOf?, integer]
      · simp [familyOf?, bigInteger]

/--
The only shorthand whose requirements a column can meet.  Kind and name
decide for most columns; an integer or identifier column is told by its key
and by the markers that claim it.
-/
def candidate?
    (table : Table)
    (position : Nat)
    (column : Column) : Option Shorthand :=
  match column.kind with
  | .relation => some .foreignKey
  | .timestamp =>
      if column.name = "deleted_at" then some (.softDeletes false)
      else some (.timestamps false)
  | .timestampTz =>
      if column.name = "deleted_at" then some (.softDeletes true)
      else some (.timestamps true)
  | .string =>
      if column.name = "remember_token" then some .rememberToken
      else
        (((table.namedPair? position column.name).bind
          (fun pair => table.column? pair.idColumn)).bind
            familyOf?).map .morphs
  | _ =>
      if column.autoIncrement && column.primary then some .identity
      else if (table.markersClaiming column.name).isEmpty then
        (familyOf? column).map .morphs
      else some .foreignKey

/-- A column meets the requirements of its candidate only. -/
theorem candidate?_of_fits
    {shorthand : Shorthand}
    {table : Table}
    {position : Nat}
    {column : Column}
    (fits : shorthand.Fits table position column) :
    candidate? table position column = some shorthand := by
  cases shorthand with
  | identity =>
      obtain ⟨integer, counts, primary⟩ := fits
      cases kind : column.kind <;>
        simp [candidate?, kind, counts, primary, Column.Kind.isInteger,
          Column.Kind.incrementsMethod?] at integer ⊢
  | timestamps zoned =>
      obtain ⟨kind, named⟩ := fits
      have notDeleted : column.name ≠ "deleted_at" := by
        rcases named with created | updated
        · simp [created]
        · simp [updated]
      cases zoned <;>
        simp [candidate?, kind, timestampKind, notDeleted]
  | softDeletes zoned =>
      obtain ⟨kind, named⟩ := fits
      cases zoned <;> simp [candidate?, kind, timestampKind, named]
  | rememberToken =>
      obtain ⟨kind, named⟩ := fits
      simp [candidate?, kind, named]
  | foreignKey =>
      rcases fits with marks | ⟨method, counts, claimed⟩
      · simp [candidate?, marks]
      · cases kind : column.kind <;>
          simp [candidate?, kind, counts, claimed, foreignMethod?]
            at method ⊢
  | morphs family =>
      obtain ⟨primary, pair, idColumn, named, idHeld, accepted, side⟩ :=
        fits
      have inFamily := familyOf?_of_accepts accepted
      rcases side with ⟨rfl, unclaimed⟩ | ⟨kind, base, endsWithType⟩
      · cases kind : idColumn.kind <;>
          simp [candidate?, familyOf?, kind, primary, unclaimed]
            at inFamily ⊢
        all_goals exact inFamily
      · have notToken : column.name ≠ "remember_token" := by
          rw [endsWithType]
          intro same
          have lastCharacters :
              (base ++ "_type").toList.getLast? =
                "remember_token".toList.getLast? := by
            rw [same]
          simp at lastCharacters
        simp [candidate?, kind, notToken, named, idHeld, inFamily]

/-- At most one shorthand recognises the column at a position. -/
theorem eq_of_test
    {first second : Shorthand}
    {table : Table}
    {position : Nat}
    (byFirst : first.test table position = true)
    (bySecond : second.test table position = true) :
    first = second := by
  cases held : table.column? position with
  | none =>
      cases first <;>
        simp [test, Table.isIdentity, Table.timestampSibling?,
          Table.isSoftDelete, Table.isRememberToken, Table.morphPair?,
          held] at byFirst
  | some column =>
      have candidateFirst :=
        candidate?_of_fits (fits_of_test held byFirst)
      have candidateSecond :=
        candidate?_of_fits (fits_of_test held bySecond)
      rw [candidateFirst] at candidateSecond
      exact Option.some.inj candidateSecond

end Shorthand

end Tablewright
