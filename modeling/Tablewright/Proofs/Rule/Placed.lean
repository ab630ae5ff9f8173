import Tablewright.Proofs.Code.Token
import Tablewright.Proofs.Json.Numeral
import Tablewright.Proofs.Rule.Meaning

namespace Tablewright

/-!
# Where the texts of a table stand in a line

Every text of a line is taken from the table or belongs to a fixed vocabulary.
`Argument.Placed` says that an argument holds texts of the table in a literal
or as a number.  What the built-in rules write is placed, except for the
arguments of columns that they copy into the line as they are.
-/

open Code

/-! ## Texts of a table -/

/-- The texts of a default that is not written as a number or a constant. -/
def Schema.DefaultValue.texts : Schema.DefaultValue → List String
  | .literal (.string text) => [text]
  | .literal (.array elements) => [(Json.Value.array elements).compact]
  | .literal (.object members) => [(Json.Value.object members).compact]
  | .literal _ => []
  | .generator _ arguments =>
      (arguments.head?.bind Json.Value.text?).toList

/-- The text of a default that is written as a number. -/
def Schema.DefaultValue.numerals : Schema.DefaultValue → List String
  | .literal (.number number) => [String.ofList number.text]
  | _ => []

/-- The names in a foreign key. -/
def ForeignKey.texts (key : ForeignKey) : List String :=
  key.targetTable :: key.localColumns ++ key.references

namespace Column

/-- The texts of a column apart from its foreign key.  The base of the name
stands for a pair of discriminator columns. -/
def ownTexts (column : Column) : List String :=
  column.name :: (Text.withoutEnding? "_id" column.name).toList ++
    column.arguments ++ column.enumValues ++ column.comment.toList ++
      (column.defaultValue.map Schema.DefaultValue.texts).getD []

/-- The texts of a column. -/
def texts (column : Column) : List String :=
  column.ownTexts ++ (column.foreignKey.map ForeignKey.texts).getD []

/-- The texts of a column that may be written as numbers. -/
def numerals (column : Column) : List String :=
  column.arguments ++
    (column.defaultValue.map Schema.DefaultValue.numerals).getD []

end Column

/-- The names of an index and its columns. -/
def TableIndex.texts (index : TableIndex) : List String :=
  index.columns ++ index.name.toList

namespace Table

/-- The texts of the columns and indexes of a table. -/
def texts (table : Table) : List String :=
  table.columns.flatMap Column.texts ++
    table.indexes.flatMap TableIndex.texts

/-- The texts of a table that may be written as numbers. -/
def numerals (table : Table) : List String :=
  table.columns.flatMap Column.numerals

/-- Every number among the defaults can be stored. -/
def NumbersFit (table : Table) : Prop :=
  ∀ column ∈ table.columns, ∀ number,
    column.defaultValue = some (.literal (.number number)) → number.Fits

section Texts

variable {table : Table} {position : Nat} {column : Column}

theorem mem_texts_of_column?
    (held : table.column? position = some column)
    {text : String}
    (member : text ∈ column.texts) :
    text ∈ table.texts :=
  List.mem_append_left _
    (List.mem_flatMap.mpr ⟨column, List.mem_of_getElem? held, member⟩)

theorem mem_numerals_of_column?
    (held : table.column? position = some column)
    {text : String}
    (member : text ∈ column.numerals) :
    text ∈ table.numerals :=
  List.mem_flatMap.mpr ⟨column, List.mem_of_getElem? held, member⟩

end Texts

end Table

namespace Code

/-! ## Placed arguments -/

/-- The methods of the built-in rules. -/
def migrationMethods : List String :=
  columnMethods ++ morphMethods ++ keyMethods ++
    [ "id", "timestamps", "timestampsTz", "softDeletes", "softDeletesTz",
      "rememberToken", "nullable", "default", "useCurrent", "comment",
      "autoIncrement", "unsigned", "foreign", "references", "on",
      "constrained", "cascadeOnDelete", "nullOnDelete",
      "restrictOnDelete", "noActionOnDelete", "onDelete",
      "cascadeOnUpdate", "nullOnUpdate", "restrictOnUpdate",
      "noActionOnUpdate", "onUpdate" ]

/-- An argument holds texts of a table in literals, or a text of the table
that is a number, or a fixed word. -/
inductive Argument.Placed
    (table : Table)
    (method : String) : Argument → Prop where
  | literal
      {text : String}
      (taken : text ∈ table.texts) :
      Placed table method (.literal text)
  | literals
      {texts : List String}
      (taken : ∀ text ∈ texts, text ∈ table.texts) :
      Placed table method (.literals texts)
  | expression
      {text : String}
      (taken : text ∈ table.texts) :
      Placed table method (.expression text)
  | number
      {code : String}
      (numeral : isNumeral code.toList = true)
      (taken : code ∈ table.numerals) :
      Placed table method (.verbatim code)
  /-- A default that is no text and no number. -/
  | constant
      {code : String}
      (isDefault : method = "default")
      (fixed : code ∈ ["null", "true", "false"]) :
      Placed table method (.verbatim code)
  /-- The action that has no method of its own. -/
  | action
      (acts : method ∈ ["onDelete", "onUpdate"]) :
      Placed table method (.literal "set default")

/-- A call of a known method, all of whose arguments are placed. -/
structure Call.Placed (table : Table) (call : Call) : Prop where
  method : call.method ∈ migrationMethods
  arguments :
    ∀ argument ∈ call.arguments, argument.Placed table call.method

/-- The name of a method is plain. -/
theorem plain_of_mem_migrationMethods
    {method : String}
    (known : method ∈ migrationMethods) :
    Plain method.toList := by
  revert method
  decide +kernel

namespace Argument.Placed

variable {table : Table} {method : String} {argument : Argument}

/-- Nothing in a placed argument reaches beyond it. -/
theorem contained
    (placed : argument.Placed table method) :
    argument.Contained := by
  cases placed with
  | literal => trivial
  | literals => trivial
  | expression => trivial
  | number numeral => exact Plain.of_isNumeral numeral
  | @constant code _ fixed =>
      have plain :
          ∀ word ∈ ["null", "true", "false"], Plain word.toList := by
        decide
      exact plain code fixed
  | action => trivial

/-- An argument stays placed if the table has further texts. -/
theorem mono
    {more : Table}
    (texts : table.texts ⊆ more.texts)
    (numerals : table.numerals ⊆ more.numerals)
    (placed : argument.Placed table method) :
    argument.Placed more method := by
  cases placed with
  | literal taken => exact .literal (texts taken)
  | literals taken =>
      exact .literals fun text member => texts (taken text member)
  | expression taken => exact .expression (texts taken)
  | number numeral taken => exact .number numeral (numerals taken)
  | constant isDefault fixed => exact .constant isDefault fixed
  | action acts => exact .action acts

/-- A copied text is placed only as a number, except in a default. -/
theorem isNumeral
    {code : String}
    (placed : (Argument.verbatim code).Placed table method)
    (noDefault : method ≠ "default") :
    Code.isNumeral code.toList = true := by
  cases placed with
  | number numeral => exact numeral
  | constant isDefault => exact (noDefault isDefault).elim

/-- One column or several are placed if their names are taken from the
table. -/
theorem columns
    {names : List String}
    (taken : ∀ name ∈ names, name ∈ table.texts) :
    (Argument.columns names).Placed table method := by
  unfold Argument.columns
  split
  · exact .literal (taken _ (by simp))
  · exact .literals taken

end Argument.Placed

theorem Call.Placed.contained
    {table : Table}
    {call : Call}
    (placed : call.Placed table) :
    call.Contained :=
  ⟨plain_of_mem_migrationMethods placed.method,
    fun argument member => (placed.arguments argument member).contained⟩

/-- A call without arguments is placed. -/
theorem Call.Placed.of_method
    {table : Table}
    {method : String}
    (known : method ∈ migrationMethods) :
    (⟨method, []⟩ : Call).Placed table :=
  ⟨known, fun _ absent => (List.not_mem_nil absent).elim⟩

/-- A call with one placed argument is placed. -/
theorem Call.Placed.of_argument
    {table : Table}
    {method : String}
    {argument : Argument}
    (known : method ∈ migrationMethods)
    (placed : argument.Placed table method) :
    (⟨method, [argument]⟩ : Call).Placed table :=
  ⟨known, by simpa using placed⟩

end Code

/-! ## Calls of the rules -/

section Calls

variable {table : Table} {position : Nat} {column : Column}
variable (held : table.column? position = some column)

include held

theorem Column.taken_ownTexts
    {text : String}
    (member : text ∈ column.ownTexts) :
    text ∈ table.texts :=
  Table.mem_texts_of_column? held (List.mem_append_left _ member)

theorem Column.taken_name : column.name ∈ table.texts :=
  taken_ownTexts held (by simp [ownTexts])

/-- The name in front of `_id` is a text of the column. -/
theorem Column.taken_base
    {base : String}
    (named : column.name = base ++ "_id") :
    base ∈ table.texts := by
  have ends := Text.withoutEnding?_eq_some_iff.mpr named
  exact taken_ownTexts held (by simp [ownTexts, ends])

theorem Column.placed_commentCalls :
    ∀ call ∈ commentCalls column.comment, call.Placed table := by
  intro call member
  cases given : column.comment with
  | none =>
      rw [given] at member
      cases member
  | some text =>
      rw [given] at member
      rw [List.mem_singleton.mp member]
      exact .of_argument (by decide)
        (.literal (taken_ownTexts held (by simp [ownTexts, given])))

/-- A fixed default is placed. -/
theorem Column.placed_literalArgument
    (fit : table.NumbersFit)
    {value : Json.Value}
    (given : column.defaultValue = some (.literal value)) :
    (literalArgument value).Placed table "default" := by
  have text :
      ∀ text ∈ (Schema.DefaultValue.literal value).texts,
        text ∈ table.texts :=
    fun text member =>
      taken_ownTexts held (by simp [ownTexts, given, member])
  have constant :
      ∀ word ∈ ["null", "true", "false"],
        (Argument.verbatim word).Placed table "default" :=
    fun word fixed => .constant rfl fixed
  cases value with
  | null => exact constant "null" (by decide)
  | boolean value =>
      cases value with
      | true => exact constant "true" (by decide)
      | false => exact constant "false" (by decide)
  | number number =>
      have fits :=
        fit column (List.mem_of_getElem? held) number given
      refine .number ?_ (Table.mem_numerals_of_column? held ?_)
      · simpa using Json.Number.isNumeral_text fits
      · simp [numerals, given, Schema.DefaultValue.numerals]
  | string => exact .literal (text _ List.mem_cons_self)
  | array => exact .literal (text _ List.mem_cons_self)
  | object => exact .literal (text _ List.mem_cons_self)

theorem Column.placed_defaultCalls
    (fit : table.NumbersFit)
    {value : Schema.DefaultValue}
    (given : column.defaultValue = some value) :
    ∀ call ∈ defaultCalls value, call.Placed table := by
  intro call member
  cases value with
  | literal value =>
      rw [List.mem_singleton.mp member]
      exact .of_argument (by decide)
        (placed_literalArgument held fit given)
  | generator name arguments =>
      simp only [defaultCalls] at member
      split at member
      · rw [List.mem_singleton.mp member]
        exact .of_method (by decide)
      · split at member
        · split at member
          · rename_i text isText
            rw [List.mem_singleton.mp member]
            refine .of_argument (by decide)
              (.expression (taken_ownTexts held ?_))
            simp [ownTexts, given, Schema.DefaultValue.texts, isText]
          · cases member
        · cases member

theorem Column.placed_modifierCalls
    (fit : table.NumbersFit) :
    ∀ call ∈ column.modifierCalls, call.Placed table := by
  intro call member
  simp only [modifierCalls, List.mem_append] at member
  rcases member with (nullability | default) | comment
  · split at nullability
    · rw [List.mem_singleton.mp nullability]
      exact .of_method (by decide)
    · cases nullability
  · cases given : column.defaultValue with
    | none =>
        rw [given] at default
        cases default
    | some value =>
        rw [given] at default
        exact placed_defaultCalls held fit given call default
  · exact placed_commentCalls held call comment

omit held in
theorem Column.placed_integerCalls :
    ∀ call ∈ column.integerCalls, call.Placed table := by
  intro call member
  unfold integerCalls at member
  split at member
  · rw [List.mem_singleton.mp member]
    exact .of_method (by decide)
  · split at member
    · rw [List.mem_singleton.mp member]
      exact .of_method (by decide)
    · cases member

end Calls

namespace ForeignKey

variable {table : Table} {key : ForeignKey}

theorem placed_actionCalls :
    ∀ call ∈ key.actionCalls, call.Placed table := by
  have onDelete :
      ∀ action : Column.Action, action.onDelete.Placed table := by
    intro action
    cases action with
    | setDefault => exact .of_argument (by decide) (.action (by decide))
    | _ => exact .of_method (by decide)
  have onUpdate :
      ∀ action : Column.Action, action.onUpdate.Placed table := by
    intro action
    cases action with
    | setDefault => exact .of_argument (by decide) (.action (by decide))
    | _ => exact .of_method (by decide)
  intro call member
  simp only [actionCalls, List.mem_append, Option.mem_toList,
    Option.map_eq_some_iff] at member
  rcases member with ⟨action, _, rfl⟩ | ⟨action, _, rfl⟩
  · exact onDelete action
  · exact onUpdate action

variable (taken : ∀ text ∈ key.texts, text ∈ table.texts)

include taken

theorem placed_constraint :
    ∀ call ∈ key.constraint.calls, call.Placed table := by
  simp only [constraint, List.cons_append, List.nil_append,
    List.forall_mem_cons]
  refine ⟨.of_argument (by decide) (.columns ?_),
    .of_argument (by decide) (.columns ?_),
    .of_argument (by decide) (.literal ?_), placed_actionCalls⟩
  · exact fun name member => taken name (by simp [texts, member])
  · exact fun name member => taken name (by simp [texts, member])
  · exact taken _ List.mem_cons_self

theorem placed_constrainedCall :
    (Table.constrainedCall key).Placed table := by
  have target : key.targetTable ∈ table.texts :=
    taken _ List.mem_cons_self
  unfold Table.constrainedCall
  split
  · exact .of_argument (by decide) (.literal target)
  · exact .of_argument (by decide) (.literal target)
  · rename_i column _ first
    have inReferences := List.mem_of_head? first
    refine ⟨(by decide : "constrained" ∈ migrationMethods), ?_⟩
    simp only [List.forall_mem_cons, List.not_mem_nil, false_imp_iff,
      implies_true, and_true]
    exact ⟨.literal target,
      .literal (taken column (by simp [texts, inReferences]))⟩

end ForeignKey

end Tablewright
