import Tablewright.Proofs.Rule.Constraint

namespace Tablewright

/-!
# Columns that lines name

A line names the columns of the table that it creates, the ones that it puts
into a key or an index, and the local columns of its foreign key constraints.
Like `Line.created` and `Line.constraints`, `Line.named` does not know which
rule wrote the line.
-/

namespace Code

/-- The columns that a call puts into a key or an index. -/
def Call.keyed (call : Call) : List String :=
  if keyMethods.contains call.method then call.names else []

/-- The columns that a line puts into a key or an index. -/
def Line.keyed : Line → List String
  | .statement ⟨call :: _⟩ => call.keyed
  | .statement ⟨[]⟩ => []
  | .verbatim _ => []

/-- The columns of the table that a line names. -/
def Line.named (line : Line) : List String :=
  line.created ++ line.keyed ++ line.constraints.flatMap Constraint.columns

/-- A method that creates a column makes no key. -/
theorem Call.keyed_of_mem_columnMethods
    {method : String}
    (creates : method ∈ columnMethods)
    (arguments : List Argument) :
    (⟨method, arguments⟩ : Call).keyed = [] := by
  have apart : method ∉ keyMethods := by
    intro isKey
    simp only [keyMethods, List.mem_cons, List.not_mem_nil, or_false]
      at isKey
    rcases isKey with rfl | rfl | rfl | rfl <;>
      exact absurd creates (by decide)
  simp [keyed, apart]

/-- Without keys and constraints, a line names what it creates. -/
theorem Line.named_eq_created
    {line : Line}
    (keyless : line.keyed = [])
    (silent : line.targets = []) :
    line.named = line.created := by
  rw [named, keyless, line.constraints_eq_nil silent]
  simp

/-- A line for a key or an index names the columns of its first argument. -/
theorem Line.named_call_of_mem_keyMethods
    {method : String}
    (isKey : method ∈ keyMethods)
    (argument : Argument)
    (rest : List Argument) :
    (Line.call method (argument :: rest)).named = argument.names := by
  rw [named, created_of_mem_keyMethods isKey,
    Line.constraints_eq_nil (targets_of_mem_keyMethods isKey _)]
  simp [Line.call, keyed, Call.keyed, Call.names, isKey]

end Code

open Code

/-! ## Statements of the rules -/

/-- The plain creation of a column names that column. -/
theorem Column.named_creation?
    {column : Column}
    {written : Statement}
    (creates : column.creation? = some written) :
    (Line.statement written).named = [column.name] := by
  have keyless : (Line.statement written).keyed = [] := by
    obtain ⟨method, has, rfl⟩ := Option.map_eq_some_iff.mp creates
    exact Call.keyed_of_mem_columnMethods
      (Kind.mem_columnMethods_of_builderMethod? has) _
  rw [Line.named_eq_created keyless (targets_creation? creates),
    created_creation? creates]

/-- An explicit constraint names the local columns of its key. -/
@[simp]
theorem ForeignKey.named_constraint
    (key : ForeignKey) :
    (Line.statement key.constraint).named = key.localColumns := by
  have keyless : (Line.statement key.constraint).keyed = [] := rfl
  simp [Line.named, keyless, stated]

namespace Table

@[simp]
theorem named_identityStatement
    (column : Column) :
    (Line.statement (identityStatement column)).named =
      [column.name] := by
  have keyless :
      (Line.statement (identityStatement column)).keyed = [] := by
    unfold identityStatement
    split
    · rfl
    · exact Call.keyed_of_mem_columnMethods
        column.kind.incrementsMethod?_mem_columnMethods _
  rw [Line.named_eq_created keyless (targets_identityStatement column),
    created_identityStatement]

@[simp]
theorem named_timestampsLine
    (zoned : Bool)
    (column : Column) :
    (timestampsLine zoned column).named =
      ["created_at", "updated_at"] := by
  have keyless : (timestampsLine zoned column).keyed = [] := by
    cases zoned <;> rfl
  rw [Line.named_eq_created keyless (targets_timestampsLine zoned column),
    created_timestampsLine]

@[simp]
theorem named_softDeletesLine
    (zoned : Bool)
    (column : Column) :
    (softDeletesLine zoned column).named = ["deleted_at"] := by
  have keyless : (softDeletesLine zoned column).keyed = [] := by
    cases zoned <;> rfl
  rw [Line.named_eq_created keyless
      (targets_softDeletesLine zoned column),
    created_softDeletesLine]

@[simp]
theorem named_morphsLine
    (family : MorphFamily)
    (idColumn : Column)
    (base : String) :
    (morphsLine family idColumn base).named =
      [base ++ "_id", base ++ "_type"] := by
  have keyless : (morphsLine family idColumn base).keyed = [] := by
    unfold morphsLine
    cases family <;> cases idColumn.nullable <;> rfl
  rw [Line.named_eq_created keyless
      (targets_morphsLine family idColumn base),
    created_morphsLine]

/-- A column that is created along with a key is the only one that is
named. -/
theorem mem_named_foreignStatement_iff
    {column : Column}
    {key : ForeignKey}
    (onlyLocal : key.localColumns = [column.name])
    (single : key.references.length = 1)
    {name : String} :
    name ∈ (Line.statement (foreignStatement column key)).named ↔
      name = column.name := by
  have keyless :
      (Line.statement (foreignStatement column key)).keyed = [] :=
    Call.keyed_of_mem_columnMethods
      (foreignMethod?_mem_columnMethods column.kind) _
  simp [Line.named, keyless, constraints_foreignStatement onlyLocal single,
    ForeignKey.stated, onlyLocal]

end Table

end Tablewright
