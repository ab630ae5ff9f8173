import Tablewright.Proofs.Rule.Meaning
import Tablewright.Proofs.Rule.Pairs

namespace Tablewright

/-!
# Pairs that are collapsed

A line for a discriminator pair says which two columns it creates.  They have
been active columns of the table from the start, and if the columns of the
table have distinct names, no marker with an enforced key has ever claimed the
first of them: a marker is only released by a column that takes over its key,
and a column with a key is not paired any more.
-/

open Code

namespace Code

/-- A line creates the discriminator pair of a base. -/
def Line.Collapses (line : Line) (base : String) : Prop :=
  ∃ family nullable,
    line = .call (MorphFamily.method family nullable) [.literal base]

/-- A line for a discriminator pair creates its two columns. -/
theorem Line.Collapses.created_eq
    {line : Line}
    {base : String}
    (collapses : line.Collapses base) :
    line.created = [base ++ "_id", base ++ "_type"] := by
  obtain ⟨family, nullable, rfl⟩ := collapses
  cases family <;> cases nullable <;> rfl

/-- A line for a discriminator pair creates nothing but that pair. -/
theorem Line.Collapses.created_ne
    {line : Line}
    {base : String}
    (collapses : line.Collapses base)
    {name : String} :
    line.created ≠ [name] := by
  simp [collapses.created_eq]

/-- A line for a discriminator pair is no line for a key or an index. -/
theorem Line.Collapses.not_key
    {line : Line}
    {base : String}
    (collapses : line.Collapses base)
    {method : String}
    (isKey : method ∈ keyMethods)
    (arguments : List Argument) :
    line ≠ .call method arguments := by
  rintro rfl
  have creates := collapses.created_eq
  rw [created_of_mem_keyMethods isKey] at creates
  cases creates

end Code

namespace Table

/-- Two active columns with the names of a discriminator pair. -/
structure Paired
    (table : Table)
    (pair : MorphPair)
    (idColumn typeColumn : Column) : Prop where
  idHeld : table.column? pair.idColumn = some idColumn
  typeHeld : table.column? pair.typeColumn = some typeColumn
  idActive : idColumn.ignored = false
  typeActive : typeColumn.ignored = false
  idIsColumn : idColumn.isMarker = false
  typeIsColumn : typeColumn.isMarker = false
  based : pair.base ≠ ""
  idNamed : idColumn.name = pair.base ++ "_id"
  typeNamed : typeColumn.name = pair.base ++ "_type"

/-- The columns of a discriminator pair have its names. -/
theorem Morphed.paired
    {table : Table}
    {family : MorphFamily}
    {pair : MorphPair}
    {idColumn typeColumn : Column}
    (morphed : table.Morphed family pair idColumn typeColumn) :
    table.Paired pair idColumn typeColumn :=
  { morphed with }

/-- Columns with the names of a pair have had them in every earlier state. -/
theorem Paired.before
    {table after : Table}
    {pair : MorphPair}
    {idColumn typeColumn : Column}
    (paired : after.Paired pair idColumn typeColumn)
    (later : Later table after) :
    ∃ idColumn typeColumn, table.Paired pair idColumn typeColumn := by
  obtain ⟨idEarlier, idHeld, idChanges⟩ :=
    later.column?_before paired.idHeld
  obtain ⟨typeEarlier, typeHeld, typeChanges⟩ :=
    later.column?_before paired.typeHeld
  exact ⟨idEarlier, typeEarlier, {
    idHeld := idHeld
    typeHeld := typeHeld
    idActive := idChanges.ignored_eq_false paired.idActive
    typeActive := typeChanges.ignored_eq_false paired.typeActive
    idIsColumn := idChanges.isMarker_eq.symm.trans paired.idIsColumn
    typeIsColumn := typeChanges.isMarker_eq.symm.trans paired.typeIsColumn
    based := paired.based
    idNamed := idChanges.name_eq.symm.trans paired.idNamed
    typeNamed := typeChanges.name_eq.symm.trans paired.typeNamed }⟩

/-- Only the shorthand for discriminator pairs writes a line for one. -/
theorem Rendered.exists_morphed
    {table : Table}
    {position : Nat}
    {column : Column}
    {chosen : Option Shorthand}
    {rendering : Rendering}
    (rendered : Rendered table position column chosen rendering)
    (held : table.column? position = some column)
    (active : column.ignored = false)
    {line : Line}
    (member : line ∈ rendering.lines)
    {base : String}
    (collapses : line.Collapses base) :
    ∃ family pair idColumn typeColumn,
      table.Morphed family pair idColumn typeColumn ∧
        pair.base = base := by
  cases rendered with
  | identity =>
      obtain rfl := List.mem_singleton.mp member
      exact (collapses.created_ne
        (created_identityStatement column)).elim
  | timestamps zoned =>
      obtain rfl := List.mem_singleton.mp member
      have creates := collapses.created_eq
      rw [created_timestampsLine] at creates
      have lastCharacters :=
        congrArg (fun names => names.head?.bind fun name =>
          name.toList.getLast?) creates
      simp at lastCharacters
  | softDeletes zoned =>
      obtain rfl := List.mem_singleton.mp member
      exact (collapses.created_ne
        (created_softDeletesLine zoned column)).elim
  | rememberToken =>
      obtain rfl := List.mem_singleton.mp member
      exact (collapses.created_ne rfl).elim
  | deferred => cases member
  | collapsed marker holder key =>
      obtain rfl := List.mem_singleton.mp member
      exact (collapses.created_ne
        (created_foreignStatement column key)).elim
  | morphs family pair idColumn found =>
      obtain ⟨idColumn, typeColumn, _, morphed, _⟩ :=
        Morphed.of_morphPair? held active found
      refine ⟨family, pair, idColumn, typeColumn, morphed, ?_⟩
      obtain rfl := List.mem_singleton.mp member
      obtain ⟨_, _, same⟩ := collapses
      simp only [morphsLine, Line.call, Line.statement.injEq,
        Statement.mk.injEq, List.cons.injEq, Call.mk.injEq,
        Argument.literal.injEq, and_true] at same
      exact same.2
  | constraint =>
      obtain ⟨key, _, rfl⟩ :=
        Option.map_eq_some_iff.mp (Option.mem_toList.mp member)
      have creates := collapses.created_eq
      rw [ForeignKey.created_constraint] at creates
      cases creates
  | plain =>
      obtain ⟨written, creates, rfl⟩ :=
        Option.map_eq_some_iff.mp (Option.mem_toList.mp member)
      exact (collapses.created_ne
        (Column.created_creation? creates)).elim

namespace Pass

variable {positions : List Nat} {table final : Table} {lines : List Line}
variable {line : Line} {base : String}

/-- The columns of a pair that a pass collapses have been there from the
start. -/
theorem exists_paired
    (pass : Pass positions table final lines)
    (member : line ∈ lines)
    (collapses : line.Collapses base) :
    ∃ pair idColumn typeColumn,
      table.Paired pair idColumn typeColumn ∧ pair.base = base := by
  induction pass with
  | done => cases member
  | skip _ _ inductionHypothesis => exact inductionHypothesis member
  | visit held active rendered _ inductionHypothesis =>
      rcases List.mem_append.mp member with now | later
      · obtain ⟨_, pair, idColumn, typeColumn, morphed, based⟩ :=
          rendered.exists_morphed held active now collapses
        exact ⟨pair, idColumn, typeColumn, morphed.paired, based⟩
      · obtain ⟨pair, _, _, paired, based⟩ := inductionHypothesis later
        obtain ⟨idColumn, typeColumn, before⟩ :=
          paired.before rendered.later
        exact ⟨pair, idColumn, typeColumn, before, based⟩

/-- Among distinct names, a pair that a pass collapses has been a
discriminator pair from the start. -/
theorem exists_morphed
    (pass : Pass positions table final lines)
    (distinct : table.DistinctNames)
    (member : line ∈ lines)
    (collapses : line.Collapses base) :
    ∃ family pair idColumn typeColumn,
      table.Morphed family pair idColumn typeColumn ∧
        pair.base = base := by
  induction pass with
  | done => cases member
  | skip _ _ inductionHypothesis =>
      exact inductionHypothesis distinct member
  | visit held active rendered _ inductionHypothesis =>
      rcases List.mem_append.mp member with now | later
      · exact rendered.exists_morphed held active now collapses
      · obtain ⟨family, pair, _, _, morphed, based⟩ :=
          inductionHypothesis (distinct.later rendered.later) later
        obtain ⟨_, _, _, _, _, keyless, _⟩ :=
          isPairOf_iff.mp morphed.isPair
        obtain ⟨idColumn, typeColumn, before⟩ :=
          morphed.before rendered.later
            (rendered.still_claims held distinct morphed.idHeld
              morphed.idIsColumn keyless)
        exact ⟨family, pair, idColumn, typeColumn, before, based⟩

end Pass

end Table

namespace RuleSet

variable {context : RuleContext} {table : Table}
variable {line : Line} {base : String}

/-- A line for a discriminator pair is written by the visit of a column. -/
theorem mem_columnLines_of_collapses
    (member : line ∈ (standard.resolve context table).lines)
    (collapses : line.Collapses base) :
    line ∈ (standard.resolve context table).columnLines := by
  rcases mem_columnLines_or member with
      visit | ⟨method, isKey, arguments, same⟩
  · exact visit
  · exact (collapses.not_key isKey arguments same).elim

/-- A resolution collapses only pairs of active columns. -/
theorem exists_paired_of_collapses
    (member : line ∈ (standard.resolve context table).lines)
    (collapses : line.Collapses base) :
    ∃ pair idColumn typeColumn,
      table.Paired pair idColumn typeColumn ∧ pair.base = base := by
  have visit := mem_columnLines_of_collapses member collapses
  rw [columnLines_resolve] at visit
  exact (Table.pass_positions context table).exists_paired visit collapses

/-- Among distinct names, no marker claims the first column of a pair that a
resolution collapses. -/
theorem markersClaiming_of_collapses
    (distinct : table.DistinctNames)
    (member : line ∈ (standard.resolve context table).lines)
    (collapses : line.Collapses base) :
    table.markersClaiming (base ++ "_id") = [] := by
  have visit := mem_columnLines_of_collapses member collapses
  rw [columnLines_resolve] at visit
  obtain ⟨family, pair, idColumn, typeColumn, morphed, rfl⟩ :=
    (Table.pass_positions context table).exists_morphed distinct visit
      collapses
  obtain ⟨_, _, _, _, _, _, _, unclaimed⟩ :=
    Table.isPairOf_iff.mp morphed.isPair
  rw [← morphed.idNamed]
  exact unclaimed

end RuleSet

end Tablewright
