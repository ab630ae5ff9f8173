import Tablewright.Proofs.Rule.Meaning

namespace Tablewright

/-!
# Constraints that lines state

`Line.constraints` reads the foreign key constraints off a line: the columns
that its first call names, what they refer to, and the actions declared
behind the constraining call.  Like `Line.targets` it does not know which
rule wrote the line.  Only two forms of statement state a constraint, and
both state the key that they were written for.
-/

namespace Code

/-- A foreign key constraint as the table builder is told of it. -/
structure Constraint where
  columns : List String
  references : List String
  target : String
  /-- The calls behind the constraint, which declare its actions. -/
  actions : List Call
  deriving Repr, DecidableEq

/-- The columns that an argument names. -/
def Argument.names : Argument → List String
  | .literal text => [text]
  | .literals texts => texts
  | _ => []

/-- The columns that the first argument of a call names. -/
def Call.names (call : Call) : List String :=
  (call.arguments.head?.map Argument.names).getD []

/-- The columns that a constraining call refers to.  A call on the column
itself names the referenced column only if that is not `id`. -/
def Call.referenced (call : Call) (listed : List String) : List String :=
  match call.method, call.arguments with
  | "constrained", [_, column] => column.names
  | "constrained", _ => ["id"]
  | _, _ => listed

/-- The constraints of calls that follow each other on given columns. -/
def constraintsFrom
    (columns listed : List String) : List Call → List Constraint
  | [] => []
  | call :: rest =>
      match call.target? with
      | none => constraintsFrom columns listed rest
      | some target =>
          ⟨columns, call.referenced listed, target, rest⟩ ::
            constraintsFrom columns listed rest

/-- The constraints of a statement. -/
def Statement.constraints (written : Statement) : List Constraint :=
  constraintsFrom
    ((written.calls.head?.map Call.names).getD [])
    (((written.calls.find?
      (fun call => call.method == "references")).map Call.names).getD [])
    written.calls

/-- The constraints of a line. -/
def Line.constraints : Line → List Constraint
  | .statement written => written.constraints
  | .verbatim _ => []

@[simp]
theorem Argument.names_columns
    (columns : List String) :
    (Argument.columns columns).names = columns := by
  unfold Argument.columns
  split <;> rfl

/-- Every constraint has its target, in the same order. -/
theorem map_target_constraintsFrom
    (columns listed : List String)
    (calls : List Call) :
    (constraintsFrom columns listed calls).map Constraint.target =
      calls.filterMap Call.target? := by
  induction calls with
  | nil =>
      rfl
  | cons call rest inductionHypothesis =>
      cases target : call.target? with
      | none =>
          simp [constraintsFrom, target, inductionHypothesis]
      | some found =>
          simp [constraintsFrom, target, inductionHypothesis]

/-- Calls without a target state no constraint. -/
theorem constraintsFrom_append
    {calls : List Call}
    (silent : calls.filterMap Call.target? = [])
    (columns listed : List String)
    (rest : List Call) :
    constraintsFrom columns listed (calls ++ rest) =
      constraintsFrom columns listed rest := by
  induction calls with
  | nil =>
      rfl
  | cons call others inductionHypothesis =>
      cases target : call.target? with
      | none =>
          rw [List.filterMap_cons_none target] at silent
          rw [List.cons_append, constraintsFrom, target]
          exact inductionHypothesis silent
      | some found =>
          rw [List.filterMap_cons_some target] at silent
          cases silent

/-- Calls without a target state no constraint. -/
theorem constraintsFrom_eq_nil
    {calls : List Call}
    (silent : calls.filterMap Call.target? = [])
    (columns listed : List String) :
    constraintsFrom columns listed calls = [] := by
  have nothing := map_target_constraintsFrom columns listed calls
  rw [silent, List.map_eq_nil_iff] at nothing
  exact nothing

/-- The targets of a line are those of its constraints. -/
theorem Line.map_target_constraints
    (line : Line) :
    line.constraints.map Constraint.target = line.targets := by
  cases line with
  | statement written => exact map_target_constraintsFrom _ _ _
  | verbatim text => rfl

/-- A line without a target states no constraint. -/
theorem Line.constraints_eq_nil
    {line : Line}
    (silent : line.targets = []) :
    line.constraints = [] := by
  rw [← line.map_target_constraints, List.map_eq_nil_iff] at silent
  exact silent

end Code

open Code

/-- The constraint that a foreign key asks for. -/
def ForeignKey.stated (key : ForeignKey) : Constraint :=
  ⟨key.localColumns, key.references, key.targetTable, key.actionCalls⟩

/-- An explicit constraint states its key. -/
@[simp]
theorem ForeignKey.constraints_constraint
    (key : ForeignKey) :
    (Line.statement key.constraint).constraints = [key.stated] := by
  have noAction :
      constraintsFrom key.localColumns key.references key.actionCalls =
        [] :=
    constraintsFrom_eq_nil key.filterMap_target?_actionCalls _ _
  simp [Line.constraints, Statement.constraints, constraint,
    constraintsFrom, Call.target?, Call.names, Call.referenced, stated,
    noAction]

namespace Table

/-- The constraining call of a column refers to the only referenced column
of the key. -/
theorem referenced_constrainedCall
    {key : ForeignKey}
    (single : key.references.length = 1)
    (listed : List String) :
    (constrainedCall key).referenced listed = key.references := by
  obtain ⟨column, isOnly⟩ := List.length_eq_one_iff.mp single
  unfold constrainedCall
  split
  · rename_i absent
    simp [isOnly] at absent
  · rename_i conventional
    have same : column = "id" := by
      simpa [isOnly] using conventional
    rw [isOnly, same]
    rfl
  · rename_i other _ named
    have same : column = other := by
      simpa [isOnly] using named
    rw [isOnly, same]
    rfl

/-- A column that is created along with a key states that key. -/
theorem constraints_foreignStatement
    {column : Column}
    {key : ForeignKey}
    (named : key.localColumns = [column.name])
    (single : key.references.length = 1) :
    (Line.statement (foreignStatement column key)).constraints =
      [key.stated] := by
  have creation :
      ((⟨(foreignMethod? column.kind).getD "foreignId",
          [.literal column.name]⟩ : Call) ::
        column.modifierCalls).filterMap Call.target? = [] := by
    rw [List.filterMap_cons_none
      (Call.target?_of_mem_columnMethods
        (foreignMethod?_mem_columnMethods column.kind) _)]
    exact column.filterMap_target?_modifierCalls
  have target :
      (constrainedCall key).target? = some key.targetTable := by
    unfold constrainedCall
    split <;> rfl
  have noAction :=
    constraintsFrom_eq_nil key.filterMap_target?_actionCalls
  simp only [Line.constraints, Statement.constraints, foreignStatement,
    List.cons_append]
  rw [← List.cons_append, constraintsFrom_append creation,
    constraintsFrom, target]
  simp [Call.names, Argument.names, referenced_constrainedCall single,
    noAction, ForeignKey.stated, named]

end Table

end Tablewright
