import Tablewright.Proofs.Rule.Stability
import Tablewright.Proofs.Rule.Unique

namespace Tablewright

/-!
# Declaration of the primary key

`Line.primary?` reads off a line which columns it declares as the primary key.
A key of one counting integer is declared by the visit that creates its
column, which no other visit can suppress.  Any other key is declared by a
utility rule after all visits, whatever has become of its columns.  The note
that the visit takes decides which of the two it is, so that every key is
declared exactly once.
-/

namespace Code

/-- The columns that a call declares as the primary key: the identity column
that it creates, or those that it names. -/
def Call.primary? (call : Call) : Option (List String) :=
  if identityMethods.contains call.method then some call.created
  else if call.method = "primary" then some call.names
  else none

/-- The columns that a line declares as the primary key.  The rules put no
such call behind the first one. -/
def Line.primary? : Line → Option (List String)
  | .statement ⟨call :: _⟩ => call.primary?
  | .statement ⟨[]⟩ => none
  | .verbatim _ => none

/-- A line declares the primary key. -/
def Line.declaresKey (line : Line) : Bool :=
  line.primary?.isSome

/-- What is declared as the primary key is made unique. -/
theorem Line.unique?_of_primary?
    {line : Line}
    {columns : List String}
    (declared : line.primary? = some columns) :
    line.unique? = some columns := by
  match line, declared with
  | .statement ⟨call :: _⟩, declared =>
      simp only [primary?, Call.primary?] at declared
      simp only [unique?, Call.unique?]
      split at declared
      · rename_i counts
        rw [if_pos counts, declared]
      · rename_i noIdentity
        rw [if_neg noIdentity]
        split at declared
        · rename_i isPrimary
          rw [isPrimary]
          exact declared
        · cases declared

/-- All declarations are among the lines that declare a key. -/
theorem Line.filterMap_primary?_filter
    (lines : List Line) :
    (lines.filter Line.declaresKey).filterMap Line.primary? =
      lines.filterMap Line.primary? := by
  rw [List.filterMap_filter]
  refine List.filterMap_congr ?_
  intro line _
  rw [Line.declaresKey]
  cases line.primary? <;> rfl

/-- A line for a primary key declares the columns of its first argument. -/
@[simp]
theorem Line.primary?_columns
    (columns : List String) :
    (Line.call "primary" [.columns columns]).primary? = some columns := by
  have named :
      (⟨"primary", [.columns columns]⟩ : Call).names = columns := by
    simp [Call.names]
  exact congrArg some named

end Code

open Code

namespace Table

@[simp]
theorem primary?_identityStatement
    (column : Column) :
    (Line.statement (identityStatement column)).primary? =
      some [column.name] := by
  obtain ⟨call, rest, shape, counts, created⟩ :=
    exists_call_identityStatement column
  simp [shape, Line.primary?, Call.primary?, counts, created]

/-- The lines that declare a primary key of given columns. -/
def keyLines : List Column → List Line
  | [] => []
  | [only] =>
      if only.autoIncrement && only.kind.isInteger then
        [.statement (identityStatement only)]
      else [.call "primary" [.literal only.name]]
  | columns => [.call "primary" [.columns (columns.map Column.name)]]

/-- A key is declared by one line, unless it is empty. -/
theorem filterMap_primary?_keyLines
    (columns : List Column) :
    (keyLines columns).filterMap Line.primary? =
      if columns.isEmpty then [] else [columns.map Column.name] := by
  match columns with
  | [] => rfl
  | [only] =>
      simp only [keyLines]
      split
      · simp
      · rfl
  | _ :: _ :: _ => simp [keyLines]

/-- A key of several columns is declared by naming them. -/
theorem keyLines_of_two_le
    {columns : List Column}
    (several : 2 ≤ columns.length) :
    keyLines columns =
      [.call "primary" [.columns (columns.map Column.name)]] := by
  match columns with
  | [] => simp at several
  | [_] => simp at several
  | _ :: _ :: _ => rfl

/-! ## Visits -/

/-- Later states have the same identity column. -/
theorem Later.isIdentity_eq
    {before after : Table}
    (later : Later before after)
    (position : Nat) :
    after.isIdentity position = before.isIdentity position := by
  have related := later.columns position
  unfold isIdentity
  rw [later.primaryColumns_eq]
  generalize before.column? position = start at related ⊢
  generalize after.column? position = finish at related ⊢
  cases related with
  | none => rfl
  | some changes =>
      simp only [changes.primary_eq, changes.autoIncrement_eq,
        changes.kind_eq]

/-- The line that creates the column at a position as an identity column,
unless it is silent. -/
def identityLine? (table : Table) (position : Nat) : Option Line :=
  (table.column? position).bind fun column =>
    if table.isIdentity position && !column.silent then
      some (.statement (identityStatement column))
    else none

/-- Later states have the same line for the identity column. -/
theorem Later.identityLine?_eq
    {before after : Table}
    (later : Later before after) :
    after.identityLine? = before.identityLine? := by
  funext position
  have related := later.columns position
  unfold identityLine?
  rw [later.isIdentity_eq]
  generalize before.column? position = start at related ⊢
  generalize after.column? position = finish at related ⊢
  cases related with
  | none => rfl
  | some changes =>
      rw [changes.unchanged]
      rfl

/-- A column with a line for the identity is the whole primary key. -/
theorem primaryColumns_of_identityLine?
    {table : Table}
    {position : Nat}
    (created : (table.identityLine? position).isSome = true) :
    table.primaryColumns = [position] := by
  unfold identityLine? at created
  cases held : table.column? position with
  | none =>
      rw [held] at created
      cases created
  | some column =>
      simp only [held, Option.bind_some, Option.isSome_ite,
        Bool.and_eq_true, Bool.not_eq_true'] at created
      exact primaryColumns_of_isIdentity held created.2 created.1

/-- The only column of the primary key has a line for the identity if it is a
counting integer. -/
theorem identityLine?_of_singleton
    {table : Table}
    {only : Nat}
    (key : table.primaryColumns = [only])
    {column : Column}
    (held : table.column? only = some column) :
    table.identityLine? only =
      if column.autoIncrement && column.kind.isInteger then
        some (.statement (identityStatement column))
      else none := by
  have isKey : only ∈ table.primaryColumns := by simp [key]
  obtain ⟨_, sameHeld, keyed⟩ := mem_primaryColumns.mp isKey
  obtain rfl := Option.some.inj (held.symm.trans sameHeld)
  simp only [isKeyColumn, Bool.and_eq_true, Bool.not_eq_true'] at keyed
  simp [identityLine?, isIdentity, held, key, keyed.1.1, keyed.2]

/-- Only columns of the primary key have a line for the identity. -/
theorem filterMap_identityLine?_positions
    (table : Table) :
    table.positions.filterMap table.identityLine? =
      table.primaryColumns.filterMap table.identityLine? := by
  have inside :
      ∀ position, (table.identityLine? position).isSome = true →
        position ∈ table.primaryColumns :=
    fun position created => by
      rw [primaryColumns_of_identityLine? created]
      exact List.mem_singleton.mpr rfl
  simp only [primaryColumns, positionsWhere, List.mem_filter] at inside
  rw [primaryColumns, positionsWhere, List.filterMap_filter]
  refine List.filterMap_congr ?_
  intro position _
  split
  · rfl
  · rename_i outside
    cases line : table.identityLine? position with
    | none => rfl
    | some _ =>
        exact (outside (inside position (by rw [line]; rfl)).2).elim

/-- A primary key of several columns has no identity column. -/
theorem filterMap_identityLine?_of_length_ne_one
    {table : Table}
    (several : table.primaryColumns.length ≠ 1) :
    table.primaryColumns.filterMap table.identityLine? = [] := by
  rw [List.filterMap_eq_nil_iff]
  intro position _
  cases line : table.identityLine? position with
  | none => rfl
  | some _ =>
      have isOnly :=
        primaryColumns_of_identityLine? (line ▸ Option.isSome_some)
      rw [isOnly] at several
      exact (several rfl).elim

/-- An identity column is passed over just if it is silent. -/
def IdentityReady (table : Table) : Prop :=
  ∀ position column,
    table.column? position = some column →
      table.isIdentity position = true → column.ignored = column.silent

namespace IdentityReady

variable {table : Table} {position : Nat}

/-- What is passed over has no line for the identity. -/
theorem identityLine?_eq_none
    (ready : table.IdentityReady)
    (ignored : table.isIgnored position = true) :
    table.identityLine? position = none := by
  unfold identityLine?
  cases held : table.column? position with
  | none => rfl
  | some column =>
      rw [isIgnored_of_column? held] at ignored
      cases recognised : table.isIdentity position with
      | false => rfl
      | true =>
          have silent :=
            (ready position column held recognised).symm.trans ignored
          simp [silent]

/-- An active identity column has a line. -/
theorem identityLine?_eq_some
    (ready : table.IdentityReady)
    {column : Column}
    (held : table.column? position = some column)
    (active : column.ignored = false)
    (recognised : table.isIdentity position = true) :
    table.identityLine? position =
      some (.statement (identityStatement column)) := by
  have shown :=
    (ready position column held recognised).symm.trans active
  simp [identityLine?, held, recognised, shown]

end IdentityReady

namespace Rendered

variable {table : Table} {position : Nat} {column : Column}
variable {chosen : Option Shorthand} {rendering : Rendering}

/-- The visit of an identity column creates and notes it, and no other visit
declares a key or takes a note. -/
theorem identity_cases
    (rendered : Rendered table position column chosen rendering)
    (held : table.column? position = some column) :
    (table.isIdentity position = true ∧
        rendering =
          ⟨table.markIdentity position,
            [.statement (identityStatement column)]⟩) ∨
      (table.isIdentity position = false ∧
        rendering.table.identity = table.identity ∧
        ∀ line ∈ rendering.lines, line.declaresKey = false) := by
  cases recognised : table.isIdentity position with
  | true =>
      have tested : Shorthand.identity.test table position = true :=
        recognised
      obtain rfl := rendered.eq_some_of_test held tested
      cases rendered with
      | identity => exact Or.inl ⟨rfl, rfl⟩
  | false =>
      refine Or.inr ⟨rfl, ?_, ?_⟩
      · cases rendered with
        | identity isIdentity =>
            rw [recognised] at isIdentity
            cases isIdentity
        | _ => rfl
      · intro line member
        cases declares : line.primary? with
        | none => rw [Line.declaresKey, declares, Option.isSome_none]
        | some columns =>
            have unique := Line.unique?_of_primary? declares
            obtain ⟨isIdentity, _⟩ :=
              rendered.isIdentity_of_unique? member unique
            rw [recognised] at isIdentity
            cases isIdentity

/-- A visit does not suppress the integer columns of the primary key. -/
theorem isIgnored_eq_of_isInteger
    (rendered : Rendered table position column chosen rendering)
    {other : Nat}
    {key : Column}
    (held : table.column? other = some key)
    (primary : key.primary = true)
    (integer : key.kind.isInteger = true) :
    rendering.table.isIgnored other = table.isIgnored other := by
  have apart :
      ∀ {suppressed : Nat} {found : Column},
        table.column? suppressed = some found →
        (found.primary = false ∨ found.kind.isInteger = false) →
        suppressed ≠ other := by
    rintro suppressed found foundHeld excluded rfl
    obtain rfl := Option.some.inj (held.symm.trans foundHeld)
    simp [primary, integer] at excluded
  cases rendered with
  | timestamps zoned sibling isSibling =>
      obtain ⟨_, _, found, _, kind, _, _, foundHeld, sameKind, _⟩ :=
        timestampSibling?_eq_some_iff.mp isSibling
      refine isIgnored_suppress_of_ne (apart foundHeld (Or.inr ?_))
      rw [sameKind, kind]
      cases zoned <;> rfl
  | collapsed marker holder foreignKey isColumn isOwner =>
      obtain ⟨_, _, _, _, _, _, claimed, _⟩ :=
        ownerOf?_eq_some_iff.mp isOwner
      obtain ⟨found, _, foundHeld, marks, _⟩ :=
        mem_markersClaiming.mp
          (claimed ▸ List.mem_singleton.mpr rfl)
      rw [isIgnored_attach]
      refine isIgnored_suppress_of_ne (apart foundHeld (Or.inr ?_))
      cases isInteger : found.kind.isInteger with
      | false => rfl
      | true =>
          rw [isMarker_eq_false_of_isInteger isInteger] at marks
          cases marks
  | morphs family pair idColumn isPair =>
      obtain ⟨_, _, _, _, _, _, _, idHeld, typeHeld, isPairOf⟩ :=
        morphPair?_eq_some_iff.mp isPair
      obtain ⟨_, _, _, idOutside, typeOutside, _⟩ :=
        isPairOf_iff.mp isPairOf
      rw [isIgnored_suppress_of_ne (apart typeHeld (Or.inl typeOutside)),
        isIgnored_suppress_of_ne (apart idHeld (Or.inl idOutside))]
  | _ => rfl

/-- A visit passes no identity column over. -/
theorem identityReady
    (rendered : Rendered table position column chosen rendering)
    (ready : table.IdentityReady) :
    rendering.table.IdentityReady := by
  intro other changed changedHeld recognised
  rw [rendered.later.isIdentity_eq] at recognised
  obtain ⟨before, beforeHeld, changes⟩ :=
    rendered.later.column?_before changedHeld
  obtain ⟨_, sameHeld, primary, _, integer, _⟩ :=
    isIdentity_iff.mp recognised
  obtain rfl := Option.some.inj (beforeHeld.symm.trans sameHeld)
  have kept :=
    rendered.isIgnored_eq_of_isInteger beforeHeld primary integer
  rw [isIgnored_of_column? changedHeld,
    isIgnored_of_column? beforeHeld] at kept
  rw [kept, changes.silent_eq, ready other before beforeHeld recognised]

end Rendered

/-! ## Passes -/

namespace Pass

variable {positions : List Nat} {table final : Table} {lines : List Line}

/-- A pass declares the identity column and nothing else as the primary
key. -/
theorem filter_declaresKey
    (pass : Pass positions table final lines)
    (ready : table.IdentityReady) :
    lines.filter Line.declaresKey =
      positions.filterMap table.identityLine? := by
  induction pass with
  | done => rfl
  | @skip position _ table _ _ ignored _ inductionHypothesis =>
      have noLine := ready.identityLine?_eq_none ignored
      rw [List.filterMap_cons_none noLine, inductionHypothesis ready]
  | @visit position _ table _ _ column _ _ held active rendered _
      inductionHypothesis =>
      rw [List.filter_append,
        inductionHypothesis (rendered.identityReady ready),
        rendered.later.identityLine?_eq]
      rcases rendered.identity_cases held with
          ⟨recognised, rfl⟩ | ⟨recognised, _, noKey⟩
      · have line :=
          ready.identityLine?_eq_some held active recognised
        rw [List.filterMap_cons_some line]
        simp [Line.declaresKey]
      · have noLine : table.identityLine? position = none := by
          simp [identityLine?, held, recognised]
        rw [List.filterMap_cons_none noLine,
          List.filter_eq_nil_iff.mpr, List.nil_append]
        intro line member
        simp [noKey line member]

/-- A position without a line for the identity can be left out. -/
private theorem mem_cons_and_isSome_iff
    {position other : Nat}
    {rest : List Nat}
    (noLine : table.identityLine? position = none) :
    (other ∈ position :: rest ∧
        (table.identityLine? other).isSome = true) ↔
      other ∈ rest ∧ (table.identityLine? other).isSome = true := by
  rw [List.mem_cons]
  constructor
  · rintro ⟨rfl | later, created⟩
    · rw [noLine] at created
      cases created
    · exact ⟨later, created⟩
  · rintro ⟨later, created⟩
    exact ⟨Or.inr later, created⟩

/-- The only column of the primary key is noted just if it has been created as
the identity column. -/
theorem identity_eq_iff
    (pass : Pass positions table final lines)
    (ready : table.IdentityReady)
    {only : Nat}
    (single : table.primaryColumns = [only]) :
    final.identity = some only ↔
      table.identity = some only ∨
        (only ∈ positions ∧
          (table.identityLine? only).isSome = true) := by
  induction pass with
  | done => simp
  | skip ignored _ inductionHypothesis =>
      rw [inductionHypothesis ready single,
        mem_cons_and_isSome_iff (ready.identityLine?_eq_none ignored)]
  | @visit position _ table _ _ column _ _ held active rendered _
      inductionHypothesis =>
      rw [inductionHypothesis (rendered.identityReady ready)
        (rendered.later.primaryColumns_eq.trans single),
        rendered.later.identityLine?_eq]
      rcases rendered.identity_cases held with
          ⟨recognised, rfl⟩ | ⟨recognised, unchanged, _⟩
      · have created :=
          ready.identityLine?_eq_some held active recognised
        have isOnly :=
          primaryColumns_of_identityLine? (created ▸ Option.isSome_some)
        rw [single] at isOnly
        obtain rfl := List.singleton_injective isOnly
        simp [markIdentity, created]
      · have noLine : table.identityLine? position = none := by
          simp [identityLine?, held, recognised]
        rw [unchanged, mem_cons_and_isSome_iff noLine]

/-- A pass over all positions notes the only column of the primary key just if
it is a counting integer. -/
theorem identity_eq_iff_counts
    (pass : Pass table.positions table final lines)
    (ready : table.IdentityReady)
    (fresh : table.identity = none)
    {only : Nat}
    (single : table.primaryColumns = [only])
    {column : Column}
    (held : table.column? only = some column) :
    final.identity = some only ↔
      (column.autoIncrement && column.kind.isInteger) = true := by
  have isKey : only ∈ table.primaryColumns := by simp [single]
  have inRange : only ∈ table.positions := (List.mem_filter.mp isKey).1
  rw [pass.identity_eq_iff ready single,
    identityLine?_of_singleton single held]
  simp [fresh, inRange]

end Pass

/-! ## The table as a whole -/

/-- The rules for indexes declare no key. -/
theorem declaresKey_of_mem_indexLines
    {table : Table}
    {line : Line}
    (member : line ∈ table.indexLines) :
    line.declaresKey = false := by
  simp only [indexLines, List.mem_append, List.mem_map,
    List.mem_filterMap] at member
  rcases member with ⟨name, _, rfl⟩ | ⟨index, _, stated⟩
  · rfl
  · unfold indexLine? at stated
    split at stated
    · cases stated
    · obtain ⟨method, chosen, rfl⟩ := Option.map_eq_some_iff.mp stated
      unfold indexMethod? at chosen
      split at chosen
      · split at chosen
        · cases chosen
        · obtain rfl := Option.some.inj chosen
          rfl
      · obtain rfl := Option.some.inj chosen
        rfl
      · obtain rfl := Option.some.inj chosen
        rfl
      · cases chosen

/-- The rules for the table as a whole declare the key, unless the identity
column is noted. -/
theorem filter_declaresKey_utilities
    (table : Table) :
    (Utility.inOrder.flatMap
        (fun utility => utility.lines table)).filter Line.declaresKey =
      table.compositePrimaryLines ++ table.singlePrimaryLines := by
  have composite :
      ∀ line ∈ table.compositePrimaryLines, line.declaresKey = true := by
    intro line member
    simp only [compositePrimaryLines] at member
    split at member
    · cases member
    · obtain rfl := List.mem_singleton.mp member
      simp [Line.declaresKey]
  have single :
      ∀ line ∈ table.singlePrimaryLines, line.declaresKey = true := by
    intro line member
    unfold singlePrimaryLines at member
    split at member
    · split at member
      · cases member
      · split at member
        · obtain rfl := List.mem_singleton.mp member
          rfl
        · cases member
    · cases member
  have indexes : table.indexLines.filter Line.declaresKey = [] :=
    List.filter_eq_nil_iff.mpr fun line member => by
      rw [declaresKey_of_mem_indexLines member]
      exact Bool.false_ne_true
  simp [Utility.inOrder, Utility.lines, List.filter_append, indexes,
    List.filter_eq_self.mpr composite, List.filter_eq_self.mpr single]

end Table

namespace RuleSet

/-- A resolution declares the primary key of a table exactly once. -/
theorem filter_declaresKey_resolve
    (context : RuleContext)
    {table : Table}
    (fresh : table.identity = none)
    (unused : table.consumed = [])
    (ready : table.IdentityReady) :
    (standard.resolve context table).lines.filter Line.declaresKey =
      Table.keyLines (table.columns.filter Table.isKeyColumn) := by
  obtain ⟨final, visits, pass, isLines⟩ := lines_resolve context unused
  have names := pass.later.primaryNames_eq
  have finalColumns := pass.later.primaryColumns_eq
  have sameLength := final.length_primaryNames
  rw [isLines, List.filter_append, pass.filter_declaresKey ready,
    Table.filterMap_identityLine?_positions,
    Table.filter_declaresKey_utilities, ← table.filterMap_primaryColumns]
  rcases key : table.primaryColumns with _ | ⟨only, _ | ⟨second, rest⟩⟩
  · -- No key: neither a visit nor a utility rule has anything to declare.
    rw [finalColumns, key, List.length_nil] at sameLength
    simp [Table.keyLines, Table.compositePrimaryLines,
      Table.singlePrimaryLines, sameLength, finalColumns, key]
  · -- One column: the note decides who declares it.
    have isKey : only ∈ table.primaryColumns := by simp [key]
    obtain ⟨column, held, _⟩ := Table.mem_primaryColumns.mp isKey
    obtain ⟨changed, changedHeld, changes⟩ :=
      pass.later.column?_after held
    have line := Table.identityLine?_of_singleton key held
    have noted := pass.identity_eq_iff_counts ready fresh key held
    rw [finalColumns, key, List.length_singleton] at sameLength
    by_cases counts : (column.autoIncrement && column.kind.isInteger) = true
    · rw [if_pos counts] at line
      simp [Table.keyLines, Table.compositePrimaryLines,
        Table.singlePrimaryLines, sameLength, finalColumns, key, line,
        held, counts, noted.mpr counts]
    · rw [if_neg counts] at line
      simp [Table.keyLines, Table.compositePrimaryLines,
        Table.singlePrimaryLines, sameLength, finalColumns, key, line,
        held, counts, mt noted.mp counts, changedHeld, changes.name_eq]
  · -- Several columns: none of them is created as an identity column.
    have noLine :=
      Table.filterMap_identityLine?_of_length_ne_one
        (by simp [key] : table.primaryColumns.length ≠ 1)
    have isNames := table.primaryNames_eq
    rw [finalColumns, key] at sameLength
    have several :
        2 ≤ (table.columns.filter Table.isKeyColumn).length := by
      rw [names, isNames, List.length_map] at sameLength
      simp [sameLength]
    rw [← key, noLine, table.filterMap_primaryColumns,
      Table.keyLines_of_two_le several, ← isNames, ← names]
    simp [Table.compositePrimaryLines, Table.singlePrimaryLines,
      sameLength, finalColumns, key]

end RuleSet

end Tablewright
