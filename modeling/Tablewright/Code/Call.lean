import Tablewright.Code.Literal

namespace Tablewright.Code

/-!
# Chained calls

A statement of a migration is a chain of method calls on the table builder,
and a relation is a chain of method calls on a model. Keeping the chain as
data lets later questions, such as which table a statement refers to, be
answered without reading text.
-/

/-- An argument of a call. -/
inductive Argument where
  /-- A text, quoted so that it is read back as it is. -/
  | literal (text : String)
  /-- A bracketed list of quoted texts. -/
  | literals (texts : List String)
  /-- A text put between single quotes as it stands. -/
  | enclosed (text : String)
  /-- A bracketed list of texts put between single quotes as they stand. -/
  | enclosedList (texts : List String)
  /-- Code copied as it stands. -/
  | verbatim (code : String)
  /-- A quoted database expression. -/
  | expression (text : String)
  deriving Repr, DecidableEq

/-- A text between single quotes, without escapes. -/
def enclose (text : String) : String :=
  "'" ++ text ++ "'"

/-- Items in brackets, separated by commas. -/
def bracketed (items : List String) : String :=
  "[" ++ ", ".intercalate items ++ "]"

/-- The code of an argument. -/
def Argument.text : Argument → String
  | .literal text => quote text
  | .literals texts => bracketed (texts.map quote)
  | .enclosed text => enclose text
  | .enclosedList texts => bracketed (texts.map enclose)
  | .verbatim code => code
  | .expression text => "DB::raw(" ++ quote text ++ ")"

/-- One column as a literal, any other number of columns as a list. -/
def Argument.columns : List String → Argument
  | [column] => .literal column
  | columns => .literals columns

/-- One key as an enclosed text, any other number of keys as a list. -/
def Argument.keys : List String → Argument
  | [key] => .enclosed key
  | keys => .enclosedList keys

/-- The class of a model. -/
def Argument.modelClass (name : String) : Argument :=
  .verbatim (name ++ "::class")

/-- A method call. -/
structure Call where
  method : String
  arguments : List Argument
  deriving Repr, DecidableEq

/-- The code of a call. -/
def Call.text (call : Call) : String :=
  "->" ++ call.method ++ "(" ++
    ", ".intercalate (call.arguments.map Argument.text) ++ ")"

/-- The code of calls that follow each other. -/
def callsText (calls : List Call) : String :=
  String.join (calls.map Call.text)

/-- A statement on the table builder. -/
structure Statement where
  calls : List Call
  deriving Repr, DecidableEq

/-- The code of a statement. -/
def Statement.text (statement : Statement) : String :=
  "$table" ++ callsText statement.calls ++ ";"

/-- A line of a migration: a statement of the library, or the text that a
caller's rule supplied. -/
inductive Line where
  | statement (statement : Statement)
  | verbatim (text : String)
  deriving Repr, DecidableEq

/-- The code of a line. -/
def Line.text : Line → String
  | .statement written => written.text
  | .verbatim text => text

/-- A line with a single call. -/
def Line.call (method : String) (arguments : List Argument) : Line :=
  .statement ⟨[⟨method, arguments⟩]⟩

end Tablewright.Code
