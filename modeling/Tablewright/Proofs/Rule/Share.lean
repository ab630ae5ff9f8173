import Mathlib.Data.List.Flatten
import Tablewright.Proofs.Rule.Pairs

namespace Tablewright

/-!
# The share of each column

Which lines a pass adds can be read off the table that it starts from.  The
share of a column are the lines that it would add if it were visited at once,
except that one column of a pair leaves the line of the pair to the other.
Rendering some column changes no share of a column that is left: the columns
that it suppresses have no share of their own, or had the share that has
just been rendered.  So the lines of a whole pass are the shares of the
visited columns in some order.
-/

open Code

/-- The column of a pair that leaves the common line to the other one: the
time of the last update, and the column for the type of the owner. -/
def Shorthand.leaves (shorthand : Shorthand) (column : Column) : Bool :=
  match shorthand with
  | .timestamps _ => column.name == "updated_at"
  | .morphs _ => (Text.withoutEnding? "_id" column.name).isNone
  | _ => false

namespace Table

/-- The lines that the column at a position contributes to a pass. -/
def share (table : Table) (position : Nat) : List Line :=
  match table.column? position with
  | none => []
  | some column =>
      if column.ignored then []
      else
        match Shorthand.inOrder.find?
            (fun shorthand => shorthand.test table position) with
        | none => structuralLines column
        | some shorthand =>
            if shorthand.leaves column then []
            else (shorthand.render table position).lines

/-- The key that the column at a position is created along with. -/
def ownerKey? (table : Table) (position : Nat) : Option ForeignKey := do
  let marker ← table.ownerOf? position
  let holder ← table.column? marker
  holder.owningKey?

/-- What the line of a discriminator pair is made of. -/
structure MorphText where
  base : String
  nullable : Bool
  deriving Repr, DecidableEq

/-- What the line of the pair around a position is made of. -/
def morphText? (table : Table) (family : MorphFamily) (position : Nat) :
    Option MorphText := do
  let pair ← table.morphPair? family position
  let idColumn ← table.column? pair.idColumn
  return ⟨pair.base, idColumn.nullable⟩

variable {table : Table}

/-! ## What a rule looks at -/

theorem ownerKey?_eq_some_iff
    {position : Nat}
    {key : ForeignKey} :
    table.ownerKey? position = some key ↔
      ∃ marker holder,
        table.ownerOf? position = some marker ∧
          table.column? marker = some holder ∧
          holder.owningKey? = some key := by
  simp [ownerKey?, Option.bind_eq_some_iff]

theorem ownerKey?_eq_none
    {position : Nat}
    (unowned : table.ownerOf? position = none) :
    table.ownerKey? position = none := by
  simp [ownerKey?, unowned]

/-- A column with an owner is created along with a key. -/
theorem isSome_ownerKey?
    (table : Table)
    (position : Nat) :
    (table.ownerKey? position).isSome =
      (table.ownerOf? position).isSome := by
  cases owned : table.ownerOf? position with
  | none =>
      rw [ownerKey?_eq_none owned]
      rfl
  | some marker =>
      obtain ⟨_, holder, key, _, _, _, _, holderHeld, owning, _⟩ :=
        ownerOf?_eq_some_iff.mp owned
      simp [ownerKey?, owned, holderHeld, owning]

theorem morphText?_eq_some_iff
    {family : MorphFamily}
    {position : Nat}
    {text : MorphText} :
    table.morphText? family position = some text ↔
      ∃ pair idColumn,
        table.morphPair? family position = some pair ∧
          table.column? pair.idColumn = some idColumn ∧
          ⟨pair.base, idColumn.nullable⟩ = text := by
  simp [morphText?, Option.bind_eq_some_iff]

/-- A column of a discriminator pair knows the text of the pair. -/
theorem isSome_morphText?
    (table : Table)
    (family : MorphFamily)
    (position : Nat) :
    (table.morphText? family position).isSome =
      (table.morphPair? family position).isSome := by
  cases found : table.morphPair? family position with
  | none =>
      simp [morphText?, found]
  | some pair =>
      obtain ⟨_, idColumn, _, _, _, _, _, idHeld, _⟩ :=
        morphPair?_eq_some_iff.mp found
      simp [morphText?, found, idHeld]

/--
Two tables look alike from two positions.  All that a rule looks at when it
judges and renders the columns there is the same.
-/
structure Alike
    (first second : Table)
    (position place : Nat) : Prop where
  column?_eq :
    second.column? place = first.column? position
  isIdentity_eq :
    second.isIdentity place = first.isIdentity position
  stamped_eq :
    ∀ zoned,
      (second.timestampSibling? zoned place).isSome =
        (first.timestampSibling? zoned position).isSome
  ownerKey?_eq :
    second.ownerKey? place = first.ownerKey? position
  owned_eq :
    (second.ownedColumn? place).isSome =
      (first.ownedColumn? position).isSome
  morphText?_eq :
    ∀ family,
      second.morphText? family place = first.morphText? family position

namespace Alike

variable {first second : Table} {position place : Nat}

/-- Every table looks like itself. -/
theorem refl
    (table : Table)
    (position : Nat) :
    Alike table table position position :=
  ⟨rfl, rfl, fun _ => rfl, rfl, rfl, fun _ => rfl⟩

/-- The same shorthand recognises columns that look alike. -/
theorem test_eq
    (alike : Alike first second position place)
    (shorthand : Shorthand) :
    shorthand.test second place = shorthand.test first position := by
  cases shorthand with
  | identity => exact alike.isIdentity_eq
  | timestamps zoned => exact alike.stamped_eq zoned
  | softDeletes zoned =>
      simp only [Shorthand.test, isSoftDelete, alike.column?_eq]
  | rememberToken =>
      simp only [Shorthand.test, isRememberToken, alike.column?_eq]
  | foreignKey =>
      simp only [Shorthand.test, alike.column?_eq, alike.owned_eq,
        ← isSome_ownerKey?, alike.ownerKey?_eq]
  | morphs family =>
      simp only [Shorthand.test, ← isSome_morphText?,
        alike.morphText?_eq]

/-- Columns that look alike are rendered as the same lines. -/
theorem lines_eq
    (alike : Alike first second position place)
    {column : Column}
    (held : first.column? position = some column)
    {chosen chosenThere : Option Shorthand}
    {rendering renderingThere : Rendering}
    (rendered : Rendered first position column chosen rendering)
    (renderedThere :
      Rendered second place column chosenThere renderingThere) :
    renderingThere.lines = rendering.lines := by
  have heldThere : second.column? place = some column := by
    rw [alike.column?_eq, held]
  obtain rfl : chosenThere = chosen := by
    cases chosen with
    | some shorthand =>
        refine renderedThere.eq_some_of_test heldThere ?_
        rw [alike.test_eq, rendered.test_eq_true held]
    | none =>
        cases chosenThere with
        | none => rfl
        | some shorthand =>
            refine (rendered.eq_some_of_test held ?_).symm
            rw [← alike.test_eq, renderedThere.test_eq_true heldThere]
  cases rendered with
  | identity =>
      cases renderedThere
      rfl
  | timestamps =>
      cases renderedThere
      rfl
  | softDeletes =>
      cases renderedThere
      rfl
  | rememberToken =>
      cases renderedThere
      rfl
  | deferred owned marks =>
      cases renderedThere with
      | deferred => rfl
      | collapsed _ _ _ isColumn =>
          rw [marks] at isColumn
          cases isColumn
  | collapsed marker holder key isColumn isOwner holderHeld owning =>
      cases renderedThere with
      | deferred _ marks =>
          rw [marks] at isColumn
          cases isColumn
      | collapsed markerThere holderThere keyThere _ isOwnerThere
          holderHeldThere owningThere =>
          have sameKey := alike.ownerKey?_eq
          rw [ownerKey?_eq_some_iff.mpr
              ⟨marker, holder, isOwner, holderHeld, owning⟩,
            ownerKey?_eq_some_iff.mpr
              ⟨markerThere, holderThere, isOwnerThere, holderHeldThere,
                owningThere⟩] at sameKey
          rw [Option.some.inj sameKey]
  | morphs family pair idColumn found idHeld =>
      cases renderedThere with
      | morphs _ pairThere idColumnThere foundThere idHeldThere =>
          have sameText := alike.morphText?_eq family
          rw [morphText?_eq_some_iff.mpr
              ⟨pair, idColumn, found, idHeld, rfl⟩,
            morphText?_eq_some_iff.mpr
              ⟨pairThere, idColumnThere, foundThere, idHeldThere, rfl⟩,
            Option.some.injEq, MorphText.mk.injEq] at sameText
          simp only [morphsLine, sameText]
  | constraint marks =>
      cases renderedThere with
      | constraint => rfl
      | plain isColumn =>
          rw [marks] at isColumn
          cases isColumn
  | plain isColumn =>
      cases renderedThere with
      | constraint marks =>
          rw [marks] at isColumn
          cases isColumn
      | plain => rfl

end Alike

/-! ## Shares -/

/-- An ignored column has no share. -/
theorem share_of_isIgnored
    {position : Nat}
    (ignored : table.isIgnored position = true) :
    table.share position = [] := by
  cases held : table.column? position with
  | none =>
      simp [share, held]
  | some column =>
      rw [isIgnored_of_column? held] at ignored
      simp [share, held, ignored]

/-- The share of a column is what rendering it adds, unless it leaves its
line to the other column of a pair. -/
theorem Rendered.share_eq
    {position : Nat}
    {column : Column}
    {chosen : Option Shorthand}
    {rendering : Rendering}
    (rendered : Rendered table position column chosen rendering)
    (held : table.column? position = some column)
    (active : column.ignored = false) :
    table.share position =
      if chosen.any (fun shorthand => shorthand.leaves column) then []
      else rendering.lines := by
  cases search : Shorthand.inOrder.find?
      (fun shorthand => shorthand.test table position) with
  | none =>
      have unclaimed :
          ∀ shorthand : Shorthand,
            ¬ shorthand.test table position = true := fun shorthand =>
        List.find?_eq_none.mp search shorthand
          (RuleSet.mem_inOrder shorthand)
      cases chosen with
      | some shorthand =>
          exact (unclaimed shorthand (rendered.test_eq_true held)).elim
      | none =>
          cases rendered with
          | constraint marks =>
              simp [share, held, active, search, structuralLines, marks]
          | plain isColumn =>
              simp [share, held, active, search, structuralLines,
                isColumn]
  | some shorthand =>
      have recognised : shorthand.test table position = true := by
        simpa using List.find?_some search
      obtain rfl := rendered.eq_some_of_test held recognised
      have sameLines :=
        (Alike.refl table position).lines_eq held rendered
          (rendered_of_test held recognised)
      simp [share, held, active, search, sameLines]

/-- Columns that look alike have the same share. -/
theorem Alike.share_eq
    {first second : Table}
    {position place : Nat}
    (alike : Alike first second position place) :
    second.share place = first.share position := by
  cases held : first.column? position with
  | none =>
      have absent := alike.column?_eq
      rw [held] at absent
      simp [share, held, absent]
  | some column =>
      have heldThere := alike.column?_eq
      rw [held] at heldThere
      cases ignored : column.ignored with
      | true =>
          simp [share, held, heldThere, ignored]
      | false =>
          have sameTests :
              (fun shorthand : Shorthand =>
                  shorthand.test second place) =
                fun shorthand => shorthand.test first position :=
            funext alike.test_eq
          simp only [share, held, heldThere, ignored, sameTests]
          cases search : Shorthand.inOrder.find?
              (fun shorthand => shorthand.test first position) with
          | none => rfl
          | some shorthand =>
              have recognised :
                  shorthand.test first position = true := by
                simpa using List.find?_some search
              have recognisedThere :
                  shorthand.test second place = true := by
                rw [alike.test_eq, recognised]
              have sameLines :=
                alike.lines_eq held (rendered_of_test held recognised)
                  (rendered_of_test heldThere recognisedThere)
              simp only [sameLines]

end Table

end Tablewright
