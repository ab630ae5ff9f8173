import Tablewright.Proofs.Rule.Constraint

namespace Tablewright

/-!
# Columns that lines make unique

`Line.unique?` reads off a line which columns it makes unique together: those
of a key or of a unique index, or the identity column that it creates.  Like
`Line.created` it does not know which rule wrote the line.  A resolution makes
the primary key unique, the unique columns outside of the key and the unique
indexes, and nothing else.
-/

namespace Code

/-- The builder methods that create an identity column. -/
def identityMethods : List String :=
  [ "id", "tinyIncrements", "smallIncrements", "mediumIncrements",
    "increments", "bigIncrements" ]

/-- The columns that a call makes unique together. -/
def Call.unique? (call : Call) : Option (List String) :=
  if identityMethods.contains call.method then some call.created
  else
    match call.method with
    | "primary" | "unique" => some call.names
    | _ => none

/-- The columns that a line makes unique together.  The rules put no such
call behind the first one. -/
def Line.unique? : Line → Option (List String)
  | .statement ⟨call :: _⟩ => call.unique?
  | .statement ⟨[]⟩ => none
  | .verbatim _ => none

/-- Two lists name the same columns, in any order. -/
def SameNames (first second : List String) : Prop :=
  ∀ name, name ∈ first ↔ name ∈ second

/-- A line makes exactly these columns unique. -/
def Line.MakesUnique (line : Line) (names : List String) : Prop :=
  ∃ columns, line.unique? = some columns ∧ SameNames columns names

instance (first second : List String) :
    Decidable (SameNames first second) :=
  decidable_of_iff (first ⊆ second ∧ second ⊆ first)
    ⟨fun ⟨left, right⟩ name => ⟨@left name, @right name⟩,
      fun same => ⟨fun name => (same name).mp, fun name => (same name).mpr⟩⟩

instance (line : Line) (names : List String) :
    Decidable (line.MakesUnique names) :=
  inferInstanceAs
    (Decidable (∃ columns ∈ line.unique?, SameNames columns names))

theorem Call.unique?_of_mem_identityMethods
    {method : String}
    (counts : method ∈ identityMethods)
    (arguments : List Argument) :
    (⟨method, arguments⟩ : Call).unique? =
      some (⟨method, arguments⟩ : Call).created := by
  simp [unique?, counts]

/-- A line for a primary key or a unique index makes the columns of its first
argument unique. -/
theorem Line.unique?_columns
    {method : String}
    (isKey : method = "primary" ∨ method = "unique")
    (columns : List String)
    (rest : List Argument) :
    (Line.call method (.columns columns :: rest)).unique? =
      some columns := by
  have named :
      (⟨method, .columns columns :: rest⟩ : Call).names = columns := by
    simp [Call.names]
  rcases isKey with rfl | rfl
  · exact congrArg some named
  · exact congrArg some named

end Code

open Code

/-! ## Statements of the rules -/

/-- The plain creation of a column makes nothing unique. -/
theorem Column.unique?_creation?
    {column : Column}
    {written : Statement}
    (creates : column.creation? = some written) :
    (Line.statement written).unique? = none := by
  obtain ⟨method, has, rfl⟩ := Option.map_eq_some_iff.mp creates
  simp only [Line.unique?]
  cases kind : column.kind <;> rw [kind] at has <;> cases has <;> rfl

namespace Table

@[simp]
theorem unique?_foreignStatement
    (column : Column)
    (key : ForeignKey) :
    (Line.statement (foreignStatement column key)).unique? = none := by
  simp only [foreignStatement, Line.unique?, List.cons_append]
  cases column.kind <;> rfl

/-- An identity statement starts with a call that creates the column. -/
theorem exists_call_identityStatement
    (column : Column) :
    ∃ call rest,
      identityStatement column = ⟨call :: rest⟩ ∧
        call.method ∈ identityMethods ∧ call.created = [column.name] := by
  unfold identityStatement
  split
  · rename_i conventional
    refine ⟨_, _, rfl, (by decide : "id" ∈ identityMethods), ?_⟩
    rw [conventional.1]
    rfl
  · have counts :
        column.kind.incrementsMethod?.getD "increments" ∈
          identityMethods := by
      cases column.kind <;> decide
    exact ⟨_, _, rfl, counts,
      Call.created_of_mem_columnMethods
        column.kind.incrementsMethod?_mem_columnMethods _ _⟩

@[simp]
theorem unique?_identityStatement
    (column : Column) :
    (Line.statement (identityStatement column)).unique? =
      some [column.name] := by
  obtain ⟨call, rest, shape, counts, created⟩ :=
    exists_call_identityStatement column
  rw [shape, Line.unique?, Call.unique?_of_mem_identityMethods counts,
    created]

@[simp]
theorem unique?_timestampsLine
    (zoned : Bool)
    (column : Column) :
    (timestampsLine zoned column).unique? = none := by
  cases zoned <;> rfl

@[simp]
theorem unique?_softDeletesLine
    (zoned : Bool)
    (column : Column) :
    (softDeletesLine zoned column).unique? = none := by
  cases zoned <;> rfl

@[simp]
theorem unique?_morphsLine
    (family : MorphFamily)
    (idColumn : Column)
    (base : String) :
    (morphsLine family idColumn base).unique? = none := by
  unfold morphsLine
  cases family <;> cases idColumn.nullable <;> rfl

/-! ## Visits -/

/-- The columns of the primary key are found by their positions. -/
theorem mem_primaryColumns
    {table : Table}
    {position : Nat} :
    position ∈ table.primaryColumns ↔
      ∃ column,
        table.column? position = some column ∧
          isKeyColumn column = true := by
  simp only [primaryColumns, positionsWhere, positions, List.mem_filter,
    List.mem_range]
  constructor
  · rintro ⟨_, isKey⟩
    cases held : table.column? position with
    | none => simp [held] at isKey
    | some column => exact ⟨column, rfl, by simpa [held] using isKey⟩
  · rintro ⟨column, held, isKey⟩
    exact ⟨(List.getElem?_eq_some_iff.mp held).1, by simp [held, isKey]⟩

/-- A primary key is named column by column. -/
theorem length_primaryNames
    (table : Table) :
    table.primaryNames.length = table.primaryColumns.length := by
  rw [primaryNames, List.length_map]
  apply List.filterMap_length_eq_length.mpr
  intro position isKey
  obtain ⟨column, held, _⟩ := mem_primaryColumns.mp isKey
  rw [held, Option.isSome_some]

/-- A primary key of one position has the name of the column there. -/
theorem primaryNames_of_singleton
    {table : Table}
    {only : Nat}
    {column : Column}
    (isOnly : table.primaryColumns = [only])
    (held : table.column? only = some column) :
    table.primaryNames = [column.name] := by
  simp [primaryNames, isOnly, held]

/-- A table shows all of its columns in migrations. -/
def Shown (table : Table) : Prop :=
  ∀ position column,
    table.column? position = some column → column.silent = false

theorem Shown.later
    {before after : Table}
    (shown : before.Shown)
    (later : Later before after) :
    after.Shown := by
  intro position column held
  obtain ⟨earlier, earlierHeld, changes⟩ := later.column?_before held
  rw [changes.silent_eq, shown position earlier earlierHeld]

/-- An identity column that is shown is the whole primary key. -/
theorem primaryColumns_of_isIdentity
    {table : Table}
    {position : Nat}
    {column : Column}
    (held : table.column? position = some column)
    (shown : column.silent = false)
    (recognised : table.isIdentity position = true) :
    table.primaryColumns = [position] := by
  obtain ⟨_, sameHeld, primary, _, isInteger, single⟩ :=
    isIdentity_iff.mp recognised
  obtain rfl := Option.some.inj (held.symm.trans sameHeld)
  have isKey : position ∈ table.primaryColumns := by
    refine mem_primaryColumns.mpr ⟨column, held, ?_⟩
    simp [isKeyColumn, primary, shown,
      isMarker_eq_false_of_isInteger isInteger]
  obtain ⟨only, isOnly⟩ := List.length_eq_one_iff.mp single
  rw [isOnly, List.mem_singleton] at isKey
  rw [isOnly, isKey]

/-- An identity column gives the primary key its name. -/
theorem Shown.primaryNames_of_isIdentity
    {table : Table}
    (shown : table.Shown)
    {position : Nat}
    {column : Column}
    (held : table.column? position = some column)
    (recognised : table.isIdentity position = true) :
    table.primaryNames = [column.name] :=
  primaryNames_of_singleton
    (primaryColumns_of_isIdentity held (shown position column held)
      recognised) held

namespace Rendered

variable {table : Table} {position : Nat} {column : Column}
variable {chosen : Option Shorthand} {rendering : Rendering}

/-- Only the creation of an identity column makes anything unique. -/
theorem isIdentity_of_unique?
    (rendered : Rendered table position column chosen rendering)
    {line : Line}
    (member : line ∈ rendering.lines)
    {columns : List String}
    (unique : line.unique? = some columns) :
    table.isIdentity position = true ∧ columns = [column.name] := by
  cases rendered with
  | identity recognised =>
      obtain rfl := List.mem_singleton.mp member
      rw [unique?_identityStatement] at unique
      exact ⟨recognised, (Option.some.inj unique).symm⟩
  | timestamps zoned sibling found =>
      obtain rfl := List.mem_singleton.mp member
      simp at unique
  | softDeletes zoned recognised =>
      obtain rfl := List.mem_singleton.mp member
      simp at unique
  | rememberToken recognised =>
      obtain rfl := List.mem_singleton.mp member
      cases unique
  | deferred => cases member
  | collapsed marker holder key =>
      obtain rfl := List.mem_singleton.mp member
      simp at unique
  | morphs family pair idColumn =>
      obtain rfl := List.mem_singleton.mp member
      simp at unique
  | constraint =>
      obtain ⟨key, _, rfl⟩ :=
        Option.map_eq_some_iff.mp (Option.mem_toList.mp member)
      cases unique
  | plain =>
      obtain ⟨written, creates, rfl⟩ :=
        Option.map_eq_some_iff.mp (Option.mem_toList.mp member)
      rw [Column.unique?_creation? creates] at unique
      cases unique

/-- The identity column is noted by the visit that creates it. -/
theorem identity_eq
    (rendered : Rendered table position column chosen rendering) :
    rendering.table.identity = table.identity ∨
      rendering.table.identity = some position ∧
        Line.statement (identityStatement column) ∈ rendering.lines := by
  cases rendered with
  | identity =>
      right
      exact ⟨rfl, List.mem_singleton.mpr rfl⟩
  | _ => exact Or.inl rfl

end Rendered

namespace Pass

variable {positions : List Nat} {table final : Table} {lines : List Line}

/-- A pass makes nothing but the primary key unique. -/
theorem eq_primaryNames_of_unique?
    (pass : Pass positions table final lines)
    (shown : table.Shown)
    {line : Line}
    (member : line ∈ lines)
    {columns : List String}
    (unique : line.unique? = some columns) :
    columns = table.primaryNames ∧ columns ≠ [] := by
  induction pass with
  | done => cases member
  | skip _ _ inductionHypothesis =>
      exact inductionHypothesis shown member
  | visit held _ rendered _ inductionHypothesis =>
      rcases List.mem_append.mp member with now | later
      · obtain ⟨recognised, rfl⟩ :=
          rendered.isIdentity_of_unique? now unique
        rw [shown.primaryNames_of_isIdentity held recognised]
        exact ⟨rfl, List.cons_ne_nil _ _⟩
      · rw [← rendered.later.primaryNames_eq]
        exact inductionHypothesis (shown.later rendered.later) later

/-- The column that a pass has noted as the identity has been created as
such. -/
theorem exists_unique?_of_identity
    (pass : Pass positions table final lines)
    (fresh : table.identity = none)
    {position : Nat}
    (noted : final.identity = some position)
    {column : Column}
    (held : table.column? position = some column) :
    ∃ line ∈ lines, line.unique? = some [column.name] := by
  have created :
      table.identity = some position ∨
        ∃ line ∈ lines, line.unique? = some [column.name] := by
    clear fresh
    induction pass generalizing column with
    | done => exact Or.inl noted
    | skip _ _ inductionHypothesis => exact inductionHypothesis noted held
    | visit visitedHeld _ rendered _ inductionHypothesis =>
        obtain ⟨changed, changedHeld, changes⟩ :=
          rendered.later.column?_after held
        rcases inductionHypothesis noted changedHeld with
            before | ⟨line, member, unique⟩
        · rcases rendered.identity_eq with same | ⟨isVisited, creates⟩
          · exact Or.inl (same ▸ before)
          · right
            obtain rfl := Option.some.inj (isVisited.symm.trans before)
            obtain rfl := Option.some.inj (visitedHeld.symm.trans held)
            exact ⟨_, List.mem_append_left _ creates,
              unique?_identityStatement _⟩
        · right
          rw [changes.name_eq] at unique
          exact ⟨line, List.mem_append_right _ member, unique⟩
  rw [fresh] at created
  rcases created with absent | created
  · cases absent
  · exact created

end Pass

/-! ## The table as a whole -/

/-- What a table makes unique: its primary key, a unique column outside of
the key, or the columns of a unique index. -/
inductive Guarantees (table : Table) : List String → Prop
  | key
      (keyed : table.primaryNames ≠ []) :
      Guarantees table table.primaryNames
  | column
      {name : String}
      (unique : name ∈ table.uniqueNames) :
      Guarantees table [name]
  | index
      {index : TableIndex}
      (member : index ∈ table.indexes)
      (unique : index.kind = .unique)
      (nonempty : index.columns ≠ []) :
      Guarantees table index.columns

theorem Guarantees.of_later
    {before after : Table}
    (later : Later before after)
    {names : List String}
    (guaranteed : after.Guarantees names) :
    before.Guarantees names := by
  cases guaranteed with
  | key keyed =>
      rw [later.primaryNames_eq] at keyed ⊢
      exact .key keyed
  | column unique => exact .column (later.uniqueNames_eq ▸ unique)
  | index member unique nonempty =>
      exact .index (later.indexes_eq ▸ member) unique nonempty

/-- A rule for the table as a whole makes unique only what the table
guarantees. -/
theorem guarantees_of_mem_utility
    {table : Table}
    {utility : Utility}
    {line : Line}
    (member : line ∈ utility.lines table)
    {columns : List String}
    (unique : line.unique? = some columns) :
    table.Guarantees columns := by
  cases utility with
  | compositePrimary =>
      simp only [Utility.lines, compositePrimaryLines] at member
      split at member
      · cases member
      · rename_i composite
        obtain rfl := List.mem_singleton.mp member
        rw [Line.unique?_columns (Or.inl rfl)] at unique
        obtain rfl := Option.some.inj unique
        apply Guarantees.key
        intro empty
        rw [empty] at composite
        exact composite (by decide)
  | singlePrimary =>
      simp only [Utility.lines, singlePrimaryLines] at member
      split at member
      · rename_i only isOnly
        split at member
        · cases member
        · split at member
          · rename_i column held
            obtain rfl := List.mem_singleton.mp member
            have names := primaryNames_of_singleton isOnly held
            obtain rfl : [column.name] = columns := Option.some.inj unique
            rw [← names]
            exact .key (names ▸ List.cons_ne_nil _ _)
          · cases member
      · cases member
  | indexes =>
      simp only [Utility.lines, indexLines, List.mem_append,
        List.mem_map, List.mem_filterMap] at member
      rcases member with ⟨name, isUnique, rfl⟩ | ⟨index, inTable, stated⟩
      · obtain rfl : [name] = columns := Option.some.inj unique
        exact .column isUnique
      · unfold indexLine? at stated
        split at stated
        · cases stated
        · rename_i kept
          obtain ⟨method, chosen, rfl⟩ :=
            Option.map_eq_some_iff.mp stated
          simp only [Bool.or_eq_true, not_or, List.isEmpty_iff] at kept
          unfold indexMethod? at chosen
          split at chosen
          · rename_i isUnique
            split at chosen
            · cases chosen
            · obtain rfl := Option.some.inj chosen
              rw [Line.unique?_columns (Or.inr rfl)] at unique
              obtain rfl := Option.some.inj unique
              exact .index inTable isUnique kept.2
          · obtain rfl := Option.some.inj chosen
            cases unique
          · obtain rfl := Option.some.inj chosen
            cases unique
          · cases chosen

/-- The primary key is declared, unless the identity column is noted. -/
theorem exists_unique?_primaryNames
    {table : Table}
    (keyed : table.primaryNames ≠ []) :
    (∃ only column,
        table.identity = some only ∧
          table.column? only = some column ∧
          table.primaryNames = [column.name]) ∨
      ∃ line ∈ table.compositePrimaryLines ++ table.singlePrimaryLines,
        line.unique? = some table.primaryNames := by
  have sameLength := table.length_primaryNames
  cases positions : table.primaryColumns with
  | nil =>
      rw [positions, List.length_nil, List.length_eq_zero_iff]
        at sameLength
      exact (keyed sameLength).elim
  | cons only rest =>
      cases rest with
      | nil =>
          have isKey : only ∈ table.primaryColumns := by simp [positions]
          obtain ⟨column, held, _⟩ := mem_primaryColumns.mp isKey
          have names := primaryNames_of_singleton positions held
          by_cases noted : table.identity = some only
          · exact Or.inl ⟨only, column, noted, held, names⟩
          · right
            refine ⟨.call "primary" [.literal column.name], ?_, ?_⟩
            · apply List.mem_append_right
              simp [singlePrimaryLines, positions, noted, held]
            · rw [names]
              rfl
      | cons second others =>
          right
          refine ⟨.call "primary" [.columns table.primaryNames], ?_,
            Line.unique?_columns (Or.inl rfl) _ _⟩
          apply List.mem_append_left
          rw [positions] at sameLength
          simp [compositePrimaryLines, sameLength]

/-- A unique index has a line of its own, or its only column has. -/
theorem Shown.exists_unique?_of_index
    {table : Table}
    (shown : table.Shown)
    {index : TableIndex}
    (member : index ∈ table.indexes)
    (unique : index.kind = .unique)
    (nonempty : index.columns ≠ []) :
    ∃ line ∈ table.indexLines, line.unique? = some index.columns := by
  have kept : table.isSilenced index = false := by
    rw [isSilenced, List.any_eq_false]
    intro name _
    cases found : table.find? name with
    | none => simp
    | some position =>
        obtain ⟨column, held, _⟩ := column?_of_find? found
        simp [held, shown position column held]
  by_cases repeats : repeatsUnique table.uniqueNames index = true
  · unfold repeatsUnique at repeats
    split at repeats
    · rename_i single isSingle
      simp only [Bool.and_eq_true, List.contains_iff_mem] at repeats
      refine ⟨.call "unique" [.literal single], ?_, isSingle ▸ rfl⟩
      apply List.mem_append_left
      exact List.mem_map_of_mem repeats.1
    · cases repeats
  · refine ⟨.call "unique"
        (.columns index.columns :: (index.name.map .literal).toList),
      ?_, Line.unique?_columns (Or.inr rfl) _ _⟩
    apply List.mem_append_right
    refine List.mem_filterMap.mpr ⟨index, member, ?_⟩
    simp [indexLine?, indexMethod?, kept, nonempty, unique, repeats]

end Table

namespace RuleSet

/-- Utility rules that were not applied to a table yet add the lines that they
have for it. -/
theorem lines_resolveUtilities
    (context : RuleContext)
    {utilities : List Utility}
    (distinct : (utilities.map Utility.name).Nodup)
    {table : Table}
    (unused :
      ∀ utility ∈ utilities, utility.name ∉ table.consumed) :
    (resolveUtilities context (utilities.map Utility.rule)
        table).contributions.flatMap Contribution.lines =
      utilities.flatMap (fun utility => utility.lines table) := by
  induction utilities generalizing table with
  | nil => rfl
  | cons utility rest inductionHypothesis =>
      rw [List.map_cons, List.nodup_cons] at distinct
      have sameLines :
          ∀ other : Utility,
            other.lines (table.consume utility.name) =
              other.lines table := by
        intro other
        cases other <;> rfl
      have stillUnused :
          ∀ other ∈ rest,
            other.name ∉ (table.consume utility.name).consumed := by
        intro other member again
        rcases Text.mem_insertSorted.mp again with same | before
        · exact distinct.1 (same ▸ List.mem_map_of_mem member)
        · exact unused other (List.mem_cons_of_mem _ member) before
      have now : table.consumed.contains utility.name = false := by
        simpa using unused utility List.mem_cons_self
      have later := inductionHypothesis distinct.2 stillUnused
      simp only [sameLines] at later
      simp only [List.map_cons, resolveUtilities, Utility.rule, now,
        Bool.false_eq_true, ↓reduceIte, List.flatMap_cons, sameLines]
      exact congrArg _ later

/-- The lines of a resolution to whose table no utility rule has been applied
yet. -/
theorem lines_resolve
    (context : RuleContext)
    {table : Table}
    (unused : table.consumed = []) :
    ∃ final lines,
      Table.Pass table.positions table final lines ∧
        (standard.resolve context table).lines =
          lines ++
            Utility.inOrder.flatMap (fun utility => utility.lines final) := by
  have pass := Table.pass_positions context table
  refine ⟨_, _, pass, ?_⟩
  rw [Resolution.lines, resolve, List.flatMap_append]
  congr 1
  apply lines_resolveUtilities context (by decide)
  intro utility _
  rw [pass.consumed_eq, unused]
  exact List.not_mem_nil

/--
A resolution makes columns unique just if the table guarantees them: the
primary key, each unique column outside of the key, and each unique index.
-/
theorem exists_makesUnique_iff
    (context : RuleContext)
    {table : Table}
    (fresh : table.identity = none)
    (unused : table.consumed = [])
    (shown : table.Shown)
    {names : List String} :
    (∃ line ∈ (standard.resolve context table).lines,
        line.MakesUnique names) ↔
      ∃ columns, table.Guarantees columns ∧ SameNames columns names := by
  obtain ⟨final, visits, pass, isLines⟩ := lines_resolve context unused
  have mem_lines :
      ∀ {line : Line},
        line ∈ (standard.resolve context table).lines ↔
          line ∈ visits ∨
            ∃ utility ∈ Utility.inOrder, line ∈ utility.lines final := by
    simp [isLines]
  constructor
  · rintro ⟨line, member, columns, unique, same⟩
    refine ⟨columns, ?_, same⟩
    rcases mem_lines.mp member with visit | ⟨utility, _, states⟩
    · obtain ⟨rfl, keyed⟩ :=
        pass.eq_primaryNames_of_unique? shown visit unique
      exact .key keyed
    · exact (Table.guarantees_of_mem_utility states unique).of_later
        pass.later
  · rintro ⟨columns, guaranteed, same⟩
    suffices made :
        ∃ line ∈ (standard.resolve context table).lines,
          line.unique? = some columns by
      obtain ⟨line, member, unique⟩ := made
      exact ⟨line, member, columns, unique, same⟩
    cases guaranteed with
    | key keyed =>
        rw [← pass.later.primaryNames_eq] at keyed ⊢
        rcases Table.exists_unique?_primaryNames keyed with
            ⟨only, column, noted, held, names⟩ | ⟨line, member, unique⟩
        · obtain ⟨before, beforeHeld, changes⟩ :=
            pass.later.column?_before held
          obtain ⟨line, member, unique⟩ :=
            pass.exists_unique?_of_identity fresh noted beforeHeld
          rw [names, changes.name_eq]
          exact ⟨line, mem_lines.mpr (Or.inl member), unique⟩
        · refine ⟨line, mem_lines.mpr (Or.inr ?_), unique⟩
          rcases List.mem_append.mp member with composite | single
          · exact ⟨.compositePrimary, by decide, composite⟩
          · exact ⟨.singlePrimary, by decide, single⟩
    | @column name unique =>
        refine ⟨.call "unique" [.literal name],
          mem_lines.mpr (Or.inr ⟨.indexes, by decide, ?_⟩), rfl⟩
        apply List.mem_append_left
        exact List.mem_map_of_mem (pass.later.uniqueNames_eq.symm ▸ unique)
    | index member unique nonempty =>
        rw [← pass.later.indexes_eq] at member
        obtain ⟨line, states, makes⟩ :=
          (shown.later pass.later).exists_unique?_of_index member unique
            nonempty
        exact ⟨line,
          mem_lines.mpr (Or.inr ⟨.indexes, by decide, states⟩), makes⟩

end RuleSet

end Tablewright
