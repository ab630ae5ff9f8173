import Tablewright.Column.Basic
import Tablewright.Code.Call

namespace Tablewright

/-!
# Statements that create columns

The builder call of a column with its modifiers, and the explicit constraint
of a foreign key.
-/

open Code

/-- Whether a text is one of the words for a number that is not finite. -/
def isNumberWord (text : List Char) : Bool :=
  [ "inf".toList, "infinity".toList, "nan".toList ].contains
    (text.map Char.toLower)

/-- Whether a text is empty or an exponent with digits. -/
def isExponent (text : List Char) : Bool :=
  match text with
  | [] => true
  | mark :: rest =>
      let digits :=
        match rest with
        | '+' :: digits | '-' :: digits => digits
        | digits => digits
      (mark == 'e' || mark == 'E') && !digits.isEmpty &&
        digits.all Char.isDigit

/-- Whether a text is a decimal number without a sign. -/
def isUnsignedNumber (text : List Char) : Bool :=
  let whole := text.takeWhile Char.isDigit
  match text.dropWhile Char.isDigit with
  | '.' :: rest =>
      let fraction := rest.takeWhile Char.isDigit
      !(whole.isEmpty && fraction.isEmpty) &&
        isExponent (rest.dropWhile Char.isDigit)
  | rest => !whole.isEmpty && isExponent rest

/-- Whether a text can be read as a number. -/
def isNumber (text : List Char) : Bool :=
  let magnitude :=
    match text with
    | '+' :: rest | '-' :: rest => rest
    | rest => rest
  isNumberWord magnitude || isUnsignedNumber magnitude

/-- A width or precision: a number as it stands, anything else quoted. -/
def widthArgument (text : String) : Argument :=
  if isNumber text.toList then .verbatim text else .literal text

/-- A fixed default. Compound values are stored as their JSON text. -/
def literalArgument : Json.Value → Argument
  | .null => .verbatim "null"
  | .boolean true => .verbatim "true"
  | .boolean false => .verbatim "false"
  | .number number => .verbatim (String.ofList number.text)
  | .string text => .literal text
  | .array elements => .literal (Json.Value.array elements).compact
  | .object members => .literal (Json.Value.object members).compact

/-- The calls for a default; values that the application generates need
none. -/
def defaultCalls : Schema.DefaultValue → List Call
  | .literal value => [⟨"default", [literalArgument value]⟩]
  | .generator name arguments =>
      if name = "now" then [⟨"useCurrent", []⟩]
      else if name = "dbgenerated" then
        match arguments.head?.bind Json.Value.text? with
        | some text => [⟨"default", [.expression text]⟩]
        | none => []
      else []

/-- The call for a comment. -/
def commentCalls (comment : Option String) : List Call :=
  match comment with
  | some text => [⟨"comment", [.literal text]⟩]
  | none => []

/-- The calls that declare the actions of a foreign key. -/
def ForeignKey.actionCalls (key : ForeignKey) : List Call :=
  (key.onDelete.map Column.Action.onDelete).toList ++
    (key.onUpdate.map Column.Action.onUpdate).toList

/-- The explicit constraint of a foreign key. -/
def ForeignKey.constraint (key : ForeignKey) : Statement :=
  ⟨[ ⟨"foreign", [.columns key.localColumns]⟩,
     ⟨"references", [.columns key.references]⟩,
     ⟨"on", [.literal key.targetTable]⟩ ] ++ key.actionCalls⟩

namespace Column

/-- The calls for nullability, default and comment. -/
def modifierCalls (column : Column) : List Call :=
  (if column.nullable then [⟨"nullable", []⟩] else []) ++
    (column.defaultValue.map defaultCalls).getD [] ++
    commentCalls column.comment

/-- The arguments of the builder call after the name. -/
def builderArguments (column : Column) : List Argument :=
  if column.kind = .enumeration then [.literals column.enumValues]
  else column.arguments.map widthArgument

/-- The calls for counting and sign. -/
def integerCalls (column : Column) : List Call :=
  if column.autoIncrement then [⟨"autoIncrement", []⟩]
  else if column.unsigned then [⟨"unsigned", []⟩]
  else []

/-- The statement that creates a column; a marker has none. -/
def creation? (column : Column) : Option Statement :=
  column.kind.builderMethod?.map fun method =>
    ⟨⟨method, .literal column.name :: column.builderArguments⟩ ::
      column.integerCalls ++ column.modifierCalls⟩

end Column

end Tablewright
