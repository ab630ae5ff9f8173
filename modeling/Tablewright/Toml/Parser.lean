import Tablewright.Toml.Number

namespace Tablewright.Toml

/-!
# Reading TOML

Keys, values and lines. A value may nest at most 79 arrays and inline tables,
and a key has at most 79 parts. A document with a malformed line, or with a
line that contradicts an earlier one, is not read at all.
-/

/-- The number of brackets or key parts that is not allowed any more. -/
def depthLimit : Nat := 80

/-- Drop spaces and tabs. -/
def skipSpaces (text : List Char) : List Char :=
  text.dropWhile isSpace

/-- What follows a line break. -/
def afterBreak : List Char → Option (List Char)
  | '\n' :: rest => some rest
  | '\r' :: '\n' :: rest => some rest
  | _ => none

/-- What follows a comment, if there is one. -/
def skipComment : List Char → List Char
  | '#' :: rest => rest.dropWhile isPrintable
  | text => text

/-- What follows the end of a line: blanks, a comment, and the line break
or the end of the document. -/
def afterLine (text : List Char) : Option (List Char) :=
  match skipComment (skipSpaces text) with
  | [] => some []
  | rest => afterBreak rest

/-- Drop blanks, line breaks and comments inside an array. -/
def skipLines : Nat → List Char → Option (List Char)
  | 0, _ => none
  | fuel + 1, text =>
      match skipSpaces text with
      | '#' :: rest =>
          (afterBreak (rest.dropWhile isPrintable)).bind (skipLines fuel)
      | '\n' :: rest => skipLines fuel rest
      | '\r' :: rest => (afterBreak ('\r' :: rest)).bind (skipLines fuel)
      | rest => some rest

/-- Whether a character may stand in a bare key. -/
def isBare (character : Char) : Bool :=
  character.isAlphanum || character == '_' || character == '-'

/-- Read a part of a key. -/
def readKeyPart : List Char → Option (String × List Char)
  | '"' :: rest =>
      (readBasic rest).map fun (key, rest) => (String.ofList key, rest)
  | '\'' :: rest =>
      (readLiteral rest).map fun (key, rest) => (String.ofList key, rest)
  | text =>
      match text.takeWhile isBare with
      | [] => none
      | key => some (String.ofList key, text.dropWhile isBare)

/-- Read the parts of a key with the blanks around them. -/
def readParts : Nat → List Char → Option (List String × List Char)
  | 0, _ => none
  | fuel + 1, text => do
      let (part, rest) ← readKeyPart (skipSpaces text)
      match skipSpaces rest with
      | '.' :: rest =>
          let (parts, rest) ← readParts fuel rest
          return (part :: parts, rest)
      | rest => return ([part], rest)

/-- A dotted key: the path to its table, and its last part. -/
structure Key where
  path : List String
  last : String
  deriving Repr, DecidableEq

/-- Read a dotted key. -/
def readKey (text : List Char) : Option (Key × List Char) := do
  let (parts, rest) ← readParts (text.length + 1) text
  let last ← parts.getLast?
  if depthLimit ≤ parts.length then none
  else return (⟨parts.dropLast, last⟩, rest)

/-- Read a key and the sign behind it that assigns a value. -/
def readAssigned (text : List Char) : Option (Key × List Char) := do
  let (key, rest) ← readKey text
  match rest with
  | '=' :: rest => return (key, skipSpaces rest)
  | _ => none

mutual

/-- Read a value inside some brackets. -/
def readValue : Nat → Nat → List Char → Option (Item × List Char)
  | 0, _, _ => none
  | fuel + 1, depth, text =>
      match text with
      | '[' :: rest =>
          if depthLimit ≤ depth + 1 then none
          else readElements fuel (depth + 1) [] rest
      | '{' :: rest =>
          if depthLimit ≤ depth + 1 then none
          else
            match skipSpaces rest with
            | '}' :: rest => some (.table .inline [], rest)
            | rest =>
                readEntries fuel (depth + 1) (.table .inline []) rest
      | 't' :: 'r' :: 'u' :: 'e' :: rest => some (.boolean true, rest)
      | 'f' :: 'a' :: 'l' :: 's' :: 'e' :: rest =>
          some (.boolean false, rest)
      | '"' :: _ | '\'' :: _ =>
          (readString text).map fun (value, rest) => (.text value, rest)
      | _ => (readMoment text).or (readNumber text)

/-- Read the elements of an array that follow some others. -/
def readElements :
    Nat → Nat → List Item → List Char → Option (Item × List Char)
  | 0, _, _, _ => none
  | fuel + 1, depth, elements, text => do
      let text ← skipLines (text.length + 1) text
      match text with
      | ']' :: rest => return (.array elements, rest)
      | _ =>
          let (element, rest) ← readValue fuel depth text
          let rest ← skipLines (rest.length + 1) rest
          match rest with
          | ',' :: rest =>
              readElements fuel depth (elements ++ [element]) rest
          | ']' :: rest => return (.array (elements ++ [element]), rest)
          | _ => none

/-- Read an entry of an inline table, and those behind it. -/
def readEntries :
    Nat → Nat → Item → List Char → Option (Item × List Char)
  | 0, _, _, _ => none
  | fuel + 1, depth, table, text => do
      let (key, rest) ← readAssigned text
      let (item, rest) ← readValue fuel depth rest
      let table ← table.assign? key.path key.last item
      match skipSpaces rest with
      | ',' :: rest => readEntries fuel depth table rest
      | '}' :: rest => return (table, rest)
      | _ => none

end

/-- A document while it is read: its items, and the table that was opened
last. -/
structure Draft where
  root : Item := .table .opened []
  opened : List String := []
  deriving Repr

/-- Read a header or an entry. -/
def readLine (draft : Draft) (text : List Char) : Option (Draft × List Char) :=
  match text with
  | '[' :: '[' :: rest => do
      let (key, rest) ← readKey rest
      let root ← draft.root.appendTable? key.path key.last
      match rest with
      | ']' :: ']' :: rest =>
          return (⟨root, key.path ++ [key.last]⟩, rest)
      | _ => none
  | '[' :: rest => do
      let (key, rest) ← readKey rest
      let root ← draft.root.openTable? key.path key.last
      match rest with
      | ']' :: rest => return (⟨root, key.path ++ [key.last]⟩, rest)
      | _ => none
  | _ => do
      let (key, rest) ← readAssigned text
      let (item, rest) ← readValue (2 * text.length + 2) 0 rest
      let root ← draft.root.assignAt? draft.opened key.path key.last item
      return ({ draft with root := root }, rest)

/-- Read all lines of a document. -/
def readLines : Nat → Draft → List Char → Option Draft
  | 0, _, _ => none
  | fuel + 1, draft, text =>
      match skipSpaces text with
      | [] => some draft
      | '#' :: rest => (afterLine ('#' :: rest)).bind (readLines fuel draft)
      | '\n' :: rest => readLines fuel draft rest
      | '\r' :: rest =>
          (afterBreak ('\r' :: rest)).bind (readLines fuel draft)
      | text => do
          let (draft, rest) ← readLine draft text
          let rest ← afterLine rest
          readLines fuel draft rest

/-- Drop a byte order mark. -/
def dropByteOrderMark : List Char → List Char
  | '\ufeff' :: rest => rest
  | text => text

/-- Read a document; its outermost table. -/
def parse? (text : String) : Option Item :=
  let characters := dropByteOrderMark text.toList
  (readLines (characters.length + 1) {} characters).map Draft.root

end Tablewright.Toml
