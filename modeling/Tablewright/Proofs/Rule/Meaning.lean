import Tablewright.Rule.Utility
import Tablewright.Proofs.Rule.Pass

namespace Tablewright

/-!
# What lines create and refer to

The table builder, seen from the outside.  `Line.created` lists the columns
that running a line adds to the table, and `Line.targets` the tables that
its foreign key constraints refer to.  Neither knows of the rules that wrote
the line.  What every statement of the rules means follows.
-/

namespace Code

/-- The builder methods that create one column under a given name. -/
def columnMethods : List String :=
  [ "tinyInteger", "smallInteger", "mediumInteger", "integer",
    "bigInteger", "tinyIncrements", "smallIncrements",
    "mediumIncrements", "increments", "bigIncrements", "decimal",
    "float", "double", "boolean", "char", "string", "tinyText", "text",
    "mediumText", "longText", "date", "time", "timeTz", "dateTime",
    "dateTimeTz", "timestamp", "timestampTz", "year", "uuid", "ulid",
    "json", "jsonb", "enum", "binary", "foreignId", "foreignUuid",
    "foreignUlid" ]

/-- The builder methods that create a discriminator pair. -/
def morphMethods : List String :=
  [ "morphs", "nullableMorphs", "uuidMorphs", "nullableUuidMorphs",
    "ulidMorphs", "nullableUlidMorphs" ]

/-- The text that a call starts its arguments with, or one to use instead
when there are no arguments. -/
def Call.leading? (call : Call) (unnamed : Option String) :
    Option String :=
  match call.arguments with
  | [] => unnamed
  | .literal text :: _ => some text
  | _ => none

/-- The columns that the first call of a statement creates. -/
def Call.created (call : Call) : List String :=
  if columnMethods.contains call.method then
    (call.leading? none).toList
  else if morphMethods.contains call.method then
    (call.leading? none).toList.flatMap
      (fun base => [base ++ "_id", base ++ "_type"])
  else
    match call.method with
    | "id" => (call.leading? (some "id")).toList
    | "timestamps" | "timestampsTz" => ["created_at", "updated_at"]
    | "softDeletes" | "softDeletesTz" =>
        (call.leading? (some "deleted_at")).toList
    | "rememberToken" => ["remember_token"]
    | _ => []

/-- The columns that a line creates.  Only the first call of a statement is
made on the table; the others modify what it has created. -/
def Line.created : Line → List String
  | .statement ⟨call :: _⟩ => call.created
  | .statement ⟨[]⟩ => []
  | .verbatim _ => []

/-- The table that a call constrains a column to. -/
def Call.target? (call : Call) : Option String :=
  match call.method, call.arguments with
  | "constrained", .literal table :: _ => some table
  | "on", .literal table :: _ => some table
  | _, _ => none

/-- The tables that the constraints of a line refer to, one for each
constraint. -/
def Line.targets : Line → List String
  | .statement written => written.calls.filterMap Call.target?
  | .verbatim _ => []

/-- A method that creates one column creates the one that it names. -/
theorem Call.created_of_mem_columnMethods
    {method : String}
    (creates : method ∈ columnMethods)
    (name : String)
    (arguments : List Argument) :
    (⟨method, .literal name :: arguments⟩ : Call).created = [name] := by
  simp [Call.created, creates, leading?]

/-- A method that creates one column constrains nothing. -/
theorem Call.target?_of_mem_columnMethods
    {method : String}
    (creates : method ∈ columnMethods)
    (arguments : List Argument) :
    (⟨method, arguments⟩ : Call).target? = none := by
  have notConstrained : method ≠ "constrained" := by
    rintro rfl
    exact absurd creates (by decide)
  have notOn : method ≠ "on" := by
    rintro rfl
    exact absurd creates (by decide)
  simp [target?, notConstrained, notOn]

end Code

open Code

/-- Every builder method of a kind creates one column. -/
theorem Column.Kind.mem_columnMethods_of_builderMethod?
    {kind : Column.Kind}
    {method : String}
    (has : kind.builderMethod? = some method) :
    method ∈ columnMethods := by
  cases kind <;> cases has <;> decide

/-- Every kind but the one of markers has a builder method. -/
theorem Column.Kind.exists_builderMethod?
    {kind : Column.Kind}
    (isColumn : kind.isRelation = false) :
    ∃ method, kind.builderMethod? = some method := by
  cases kind <;> first | exact ⟨_, rfl⟩ | cases isColumn

/-- Every counting method of a kind creates one column. -/
theorem Column.Kind.incrementsMethod?_mem_columnMethods
    (kind : Column.Kind) :
    kind.incrementsMethod?.getD "increments" ∈ columnMethods := by
  cases kind <;> decide

/-- Every method for a column that refers to another table creates one
column. -/
theorem foreignMethod?_mem_columnMethods
    (kind : Column.Kind) :
    (foreignMethod? kind).getD "foreignId" ∈ columnMethods := by
  cases kind <;> decide

/-! ## Calls without a constraint -/

@[simp]
theorem filterMap_target?_commentCalls
    (comment : Option String) :
    (commentCalls comment).filterMap Call.target? = [] := by
  cases comment <;> rfl

@[simp]
theorem filterMap_target?_defaultCalls
    (value : Schema.DefaultValue) :
    (defaultCalls value).filterMap Call.target? = [] := by
  cases value with
  | literal value => rfl
  | generator name arguments =>
      simp only [defaultCalls]
      split
      · rfl
      · split
        · split <;> rfl
        · rfl

/-- Modifiers constrain nothing. -/
@[simp]
theorem Column.filterMap_target?_modifierCalls
    (column : Column) :
    column.modifierCalls.filterMap Call.target? = [] := by
  have nullability :
      (if column.nullable then [(⟨"nullable", []⟩ : Call)]
        else []).filterMap Call.target? = [] := by
    split <;> rfl
  have default :
      ((column.defaultValue.map defaultCalls).getD []).filterMap
        Call.target? = [] := by
    cases column.defaultValue with
    | none => rfl
    | some value => exact filterMap_target?_defaultCalls value
  simp [modifierCalls, nullability, default]

@[simp]
theorem Column.filterMap_target?_integerCalls
    (column : Column) :
    column.integerCalls.filterMap Call.target? = [] := by
  unfold integerCalls
  split
  · rfl
  · split <;> rfl

/-- The actions of a foreign key do not constrain anything further. -/
@[simp]
theorem ForeignKey.filterMap_target?_actionCalls
    (key : ForeignKey) :
    key.actionCalls.filterMap Call.target? = [] := by
  have deletion :
      ((key.onDelete.map Column.Action.onDelete).toList).filterMap
        Call.target? = [] := by
    cases key.onDelete with
    | none => rfl
    | some action => cases action <;> rfl
  have change :
      ((key.onUpdate.map Column.Action.onUpdate).toList).filterMap
        Call.target? = [] := by
    cases key.onUpdate with
    | none => rfl
    | some action => cases action <;> rfl
  simp [actionCalls, deletion, change]

/-! ## Statements of the rules -/

namespace Column

variable {column : Column} {written : Statement}

/-- A column that is no marker has a plain creation. -/
theorem exists_creation?
    (isColumn : column.isMarker = false) :
    ∃ written, column.creation? = some written := by
  obtain ⟨method, has⟩ := Kind.exists_builderMethod? isColumn
  simp [creation?, has]

/-- The plain creation of a column creates that column. -/
theorem created_creation?
    (creates : column.creation? = some written) :
    (Line.statement written).created = [column.name] := by
  obtain ⟨method, has, rfl⟩ := Option.map_eq_some_iff.mp creates
  exact Call.created_of_mem_columnMethods
    (Kind.mem_columnMethods_of_builderMethod? has) _ _

/-- The plain creation of a column constrains nothing. -/
theorem targets_creation?
    (creates : column.creation? = some written) :
    (Line.statement written).targets = [] := by
  obtain ⟨method, has, rfl⟩ := Option.map_eq_some_iff.mp creates
  have first :=
    Call.target?_of_mem_columnMethods
      (Kind.mem_columnMethods_of_builderMethod? has)
      (.literal column.name :: column.builderArguments)
  simp [Line.targets, first]

end Column

namespace ForeignKey

variable (key : ForeignKey)

@[simp]
theorem created_constraint :
    (Line.statement key.constraint).created = [] :=
  rfl

@[simp]
theorem targets_constraint :
    (Line.statement key.constraint).targets = [key.targetTable] := by
  simp [Line.targets, constraint, Call.target?]

end ForeignKey

namespace Table

@[simp]
theorem created_foreignStatement
    (column : Column)
    (key : ForeignKey) :
    (Line.statement (foreignStatement column key)).created =
      [column.name] :=
  Call.created_of_mem_columnMethods
    (foreignMethod?_mem_columnMethods column.kind) _ _

@[simp]
theorem targets_foreignStatement
    (column : Column)
    (key : ForeignKey) :
    (Line.statement (foreignStatement column key)).targets =
      [key.targetTable] := by
  have creation :=
    Call.target?_of_mem_columnMethods
      (foreignMethod?_mem_columnMethods column.kind)
      [.literal column.name]
  have constrained :
      (constrainedCall key).target? = some key.targetTable := by
    unfold constrainedCall
    split <;> rfl
  simp [Line.targets, foreignStatement, creation, constrained]

@[simp]
theorem created_identityStatement
    (column : Column) :
    (Line.statement (identityStatement column)).created =
      [column.name] := by
  unfold identityStatement
  split
  · rename_i conventional
    rw [conventional.1]
    rfl
  · exact Call.created_of_mem_columnMethods
      column.kind.incrementsMethod?_mem_columnMethods _ _

@[simp]
theorem targets_identityStatement
    (column : Column) :
    (Line.statement (identityStatement column)).targets = [] := by
  unfold identityStatement
  split
  · simp [Line.targets, Call.target?]
  · have creation :=
      Call.target?_of_mem_columnMethods
        column.kind.incrementsMethod?_mem_columnMethods
        [.literal column.name]
    simp [Line.targets, creation]

@[simp]
theorem created_timestampsLine
    (zoned : Bool)
    (column : Column) :
    (timestampsLine zoned column).created =
      ["created_at", "updated_at"] := by
  cases zoned <;> rfl

@[simp]
theorem targets_timestampsLine
    (zoned : Bool)
    (column : Column) :
    (timestampsLine zoned column).targets = [] := by
  cases zoned <;> rfl

@[simp]
theorem created_softDeletesLine
    (zoned : Bool)
    (column : Column) :
    (softDeletesLine zoned column).created = ["deleted_at"] := by
  unfold softDeletesLine
  generalize column.arguments = arguments
  cases zoned <;> cases arguments <;> rfl

@[simp]
theorem targets_softDeletesLine
    (zoned : Bool)
    (column : Column) :
    (softDeletesLine zoned column).targets = [] := by
  unfold softDeletesLine
  generalize column.arguments = arguments
  cases zoned <;> cases arguments <;> rfl

@[simp]
theorem created_morphsLine
    (family : MorphFamily)
    (idColumn : Column)
    (base : String) :
    (morphsLine family idColumn base).created =
      [base ++ "_id", base ++ "_type"] := by
  unfold morphsLine
  cases family <;> cases idColumn.nullable <;> rfl

@[simp]
theorem targets_morphsLine
    (family : MorphFamily)
    (idColumn : Column)
    (base : String) :
    (morphsLine family idColumn base).targets = [] := by
  unfold morphsLine
  cases family <;> cases idColumn.nullable <;> rfl

end Table

/-! ## Statements for the table as a whole -/

/-- The builder methods for keys and indexes. -/
def keyMethods : List String :=
  ["primary", "unique", "index", "fullText"]

/-- A line for a key or an index creates no column. -/
theorem created_of_mem_keyMethods
    {method : String}
    (isKey : method ∈ keyMethods)
    (arguments : List Argument) :
    (Line.call method arguments).created = [] := by
  simp only [keyMethods, List.mem_cons, List.not_mem_nil, or_false]
    at isKey
  rcases isKey with rfl | rfl | rfl | rfl <;> rfl

/-- A line for a key or an index constrains nothing. -/
theorem targets_of_mem_keyMethods
    {method : String}
    (isKey : method ∈ keyMethods)
    (arguments : List Argument) :
    (Line.call method arguments).targets = [] := by
  simp only [keyMethods, List.mem_cons, List.not_mem_nil, or_false]
    at isKey
  rcases isKey with rfl | rfl | rfl | rfl <;> rfl

/-- Every method for an index is among those for keys and indexes. -/
theorem Table.mem_keyMethods_of_indexMethod?
    {names : List String}
    {index : TableIndex}
    {method : String}
    (chosen : indexMethod? names index = some method) :
    method ∈ keyMethods := by
  unfold indexMethod? at chosen
  split at chosen
  · split at chosen
    · cases chosen
    · cases chosen
      decide
  · cases chosen
    decide
  · cases chosen
    decide
  · cases chosen

/-- The lines of the utilities are single calls for keys and indexes. -/
theorem Utility.exists_call_of_mem_lines
    {utility : Utility}
    {table : Table}
    {line : Line}
    (member : line ∈ utility.lines table) :
    ∃ method ∈ keyMethods, ∃ arguments,
      line = .call method arguments := by
  cases utility with
  | compositePrimary =>
      simp only [lines, Table.compositePrimaryLines] at member
      split at member
      · cases member
      · exact ⟨"primary", by decide, _, List.mem_singleton.mp member⟩
  | singlePrimary =>
      simp only [lines, Table.singlePrimaryLines] at member
      split at member
      · split at member
        · cases member
        · split at member
          · exact ⟨"primary", by decide, _,
              List.mem_singleton.mp member⟩
          · cases member
      · cases member
  | indexes =>
      simp only [lines, Table.indexLines, List.mem_append,
        List.mem_map, List.mem_filterMap] at member
      rcases member with ⟨name, _, rfl⟩ | ⟨index, _, stated⟩
      · exact ⟨"unique", by decide, _, rfl⟩
      · unfold Table.indexLine? at stated
        split at stated
        · cases stated
        · obtain ⟨method, chosen, rfl⟩ :=
            Option.map_eq_some_iff.mp stated
          exact ⟨method, Table.mem_keyMethods_of_indexMethod? chosen,
            _, rfl⟩

namespace RuleSet

/-- The utility rules add single calls for keys and indexes. -/
theorem exists_call_of_mem_resolveUtilities
    (context : RuleContext)
    (utilities : List Utility)
    (table : Table) :
    ∀ contribution ∈
        (resolveUtilities context (utilities.map Utility.rule)
          table).contributions,
      ∀ line ∈ contribution.lines,
        ∃ method ∈ keyMethods, ∃ arguments,
          line = .call method arguments := by
  induction utilities generalizing table with
  | nil => simp [resolveUtilities]
  | cons utility rest inductionHypothesis =>
      simp only [List.map_cons, resolveUtilities]
      split
      · exact inductionHypothesis table
      · simp only [List.forall_mem_cons]
        refine ⟨?_, inductionHypothesis _⟩
        intro line member
        exact Utility.exists_call_of_mem_lines member

/-- A line of a resolution stems from a visit, or it is a single call for a
key or an index. -/
theorem mem_columnLines_or
    {context : RuleContext}
    {table : Table}
    {line : Line}
    (member : line ∈ (standard.resolve context table).lines) :
    line ∈ (standard.resolve context table).columnLines ∨
      ∃ method ∈ keyMethods, ∃ arguments,
        line = .call method arguments := by
  rw [columnLines_resolve]
  simp only [Resolution.lines, resolve, List.flatMap_append,
    List.mem_append] at member
  rcases member with visit | utility
  · exact Or.inl visit
  · obtain ⟨contribution, contributes, inLines⟩ :=
      List.mem_flatMap.mp utility
    exact Or.inr
      (exists_call_of_mem_resolveUtilities context Utility.inOrder _
        contribution contributes line inLines)

/-- The built-in rules copy no text into a migration. -/
theorem exists_statement_of_mem_lines
    {context : RuleContext}
    {table : Table}
    {line : Line}
    (member : line ∈ (standard.resolve context table).lines) :
    ∃ written, line = .statement written := by
  rcases mem_columnLines_or member with
      visit | ⟨method, _, arguments, rfl⟩
  · rw [columnLines_resolve] at visit
    exact (Table.pass_positions context table).exists_statement line visit
  · exact ⟨_, rfl⟩

end RuleSet

end Tablewright
