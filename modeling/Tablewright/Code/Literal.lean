namespace Tablewright.Code

/-!
# Quoted literals

A literal stands between single quotes. Inside it a backslash and a single
quote are written after a backslash, and every other character stands for
itself. `readLiteral?` reads a literal the way the generated code is read: a
backslash in front of any other character is an ordinary backslash.
-/

/-- One character inside a literal. -/
def escapeQuoted (character : Char) : List Char :=
  if character = '\\' then ['\\', '\\']
  else if character = '\'' then ['\\', '\'']
  else [character]

/-- The characters of a literal for a text. -/
def quoteCharacters (text : List Char) : List Char :=
  '\'' :: text.flatMap escapeQuoted ++ ['\'']

/-- The literal for a text. -/
def quote (text : String) : String :=
  String.ofList (quoteCharacters text.toList)

/-- Read up to the closing quote; the text read and what follows it. -/
def readQuoted? : List Char → Option (List Char × List Char)
  | [] => none
  | '\'' :: rest => some ([], rest)
  | '\\' :: '\\' :: rest =>
      (readQuoted? rest).map fun (text, rest) => ('\\' :: text, rest)
  | '\\' :: '\'' :: rest =>
      (readQuoted? rest).map fun (text, rest) => ('\'' :: text, rest)
  | character :: rest =>
      (readQuoted? rest).map fun (text, rest) => (character :: text, rest)

/-- Read a literal at the front of some code. -/
def readLiteral? : List Char → Option (List Char × List Char)
  | '\'' :: rest => readQuoted? rest
  | _ => none

end Tablewright.Code
