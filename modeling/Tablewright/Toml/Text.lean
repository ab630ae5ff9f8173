namespace Tablewright.Toml

/-!
# TOML strings

A basic string stands between double quotes and knows escapes; a literal
string stands between single quotes and knows none. Tripled quotes allow
line breaks. Every reader here starts behind the opening quotes and gives
back the text with what follows the closing quotes.
-/

/-- Put a character in front of what was read. -/
def prepend (character : Char) (read : Option (List Char × List Char)) :
    Option (List Char × List Char) :=
  read.map (fun result => (character :: result.1, result.2))

/-- Whether a character may stand in comments and strings. -/
def isPrintable (character : Char) : Bool :=
  character == '\t' || (' ' ≤ character && character != '\x7f')

/-- Whether a character is a space or a tab. -/
def isSpace (character : Char) : Bool :=
  character == ' ' || character == '\t'

/-- The value of a hexadecimal digit. -/
def hexadecimal? (digit : Char) : Option Nat :=
  if '0' ≤ digit && digit ≤ '9' then some (digit.toNat - '0'.toNat)
  else if 'a' ≤ digit && digit ≤ 'f' then
    some (digit.toNat - 'a'.toNat + 10)
  else if 'A' ≤ digit && digit ≤ 'F' then
    some (digit.toNat - 'A'.toNat + 10)
  else none

/-- The character whose code is written in hexadecimal digits. -/
def codePoint? (digits : List Char) : Option Char := do
  let values ← digits.mapM hexadecimal?
  let code := values.foldl (fun total value => total * 16 + value) 0
  if code.isValidChar then return Char.ofNat code else none

/-- The character behind a backslash. -/
def escaped? : Char → Option Char
  | 'b' => some '\x08'
  | 't' => some '\t'
  | 'n' => some '\n'
  | 'f' => some '\x0c'
  | 'r' => some '\r'
  | '"' => some '"'
  | '\\' => some '\\'
  | _ => none

/-- Whether the rest of a line is empty, so that a backslash in front of it
joins the line with the next text. -/
def isLineEnd (text : List Char) : Bool :=
  match text.dropWhile isSpace with
  | '\n' :: _ | '\r' :: '\n' :: _ => true
  | _ => false

/-- Read a basic string on one line. -/
def readBasic : List Char → Option (List Char × List Char)
  | [] => none
  | '"' :: rest => some ([], rest)
  | '\\' :: 'u' :: a :: b :: c :: d :: rest =>
      (codePoint? [a, b, c, d]).bind fun character =>
        prepend character (readBasic rest)
  | '\\' :: 'U' :: a :: b :: c :: d :: e :: f :: g :: h :: rest =>
      (codePoint? [a, b, c, d, e, f, g, h]).bind fun character =>
        prepend character (readBasic rest)
  | '\\' :: mark :: rest =>
      (escaped? mark).bind fun character =>
        prepend character (readBasic rest)
  | character :: rest =>
      if isPrintable character && character != '\\' then
        prepend character (readBasic rest)
      else none

/-- Read a basic string over several lines; blanks are dropped while a
backslash at the end of a line joins it with the next text. -/
def readLongBasic : Bool → List Char → Option (List Char × List Char)
  | _, [] => none
  | _, '"' :: '"' :: '"' :: '"' :: '"' :: rest => some (['"', '"'], rest)
  | _, '"' :: '"' :: '"' :: '"' :: rest => some (['"'], rest)
  | _, '"' :: '"' :: '"' :: rest => some ([], rest)
  | _, '\\' :: 'u' :: a :: b :: c :: d :: rest =>
      (codePoint? [a, b, c, d]).bind fun character =>
        prepend character (readLongBasic false rest)
  | _, '\\' :: 'U' :: a :: b :: c :: d :: e :: f :: g :: h :: rest =>
      (codePoint? [a, b, c, d, e, f, g, h]).bind fun character =>
        prepend character (readLongBasic false rest)
  | _, '\\' :: mark :: rest =>
      if isLineEnd (mark :: rest) then readLongBasic true (mark :: rest)
      else
        (escaped? mark).bind fun character =>
          prepend character (readLongBasic false rest)
  | joining, '\r' :: '\n' :: rest =>
      if joining then readLongBasic true rest
      else prepend '\n' (readLongBasic false rest)
  | joining, character :: rest =>
      if joining && (isSpace character || character == '\n') then
        readLongBasic true rest
      else if character == '\n' ||
          (isPrintable character && character != '\\') then
        prepend character (readLongBasic false rest)
      else none

/-- Read a literal string on one line. -/
def readLiteral : List Char → Option (List Char × List Char)
  | [] => none
  | '\'' :: rest => some ([], rest)
  | character :: rest =>
      if isPrintable character then
        prepend character (readLiteral rest)
      else none

/-- Read a literal string over several lines. -/
def readLongLiteral : List Char → Option (List Char × List Char)
  | [] => none
  | '\'' :: '\'' :: '\'' :: '\'' :: '\'' :: rest =>
      some (['\'', '\''], rest)
  | '\'' :: '\'' :: '\'' :: '\'' :: rest => some (['\''], rest)
  | '\'' :: '\'' :: '\'' :: rest => some ([], rest)
  | '\r' :: '\n' :: rest => prepend '\n' (readLongLiteral rest)
  | character :: rest =>
      if character == '\n' || isPrintable character then
        prepend character (readLongLiteral rest)
      else none

/-- Drop the line break right behind tripled opening quotes. -/
def dropFirstBreak : List Char → List Char
  | '\n' :: rest => rest
  | '\r' :: '\n' :: rest => rest
  | text => text

/-- Read a string of any kind from its opening quotes on. -/
def readString : List Char → Option (String × List Char)
  | '"' :: '"' :: '"' :: rest =>
      finish (readLongBasic false (dropFirstBreak rest))
  | '"' :: rest => finish (readBasic rest)
  | '\'' :: '\'' :: '\'' :: rest =>
      finish (readLongLiteral (dropFirstBreak rest))
  | '\'' :: rest => finish (readLiteral rest)
  | _ => none
where
  /-- The text that was read as a string. -/
  finish (read : Option (List Char × List Char)) :
      Option (String × List Char) :=
    read.map (fun result => (String.ofList result.1, result.2))

end Tablewright.Toml
