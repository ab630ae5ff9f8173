import Tablewright.Proofs.Code.Token

namespace Tablewright.Code

/-!
# Quoting is an encoding

A quoted text is one complete literal, and reading it gives the text back.
A list of columns is written as the literal of its only column or as a
bracketed list of literals, and evaluating it gives the columns back, so that
different lists are written differently.
-/

/-! ## Escapes in two passes -/

/-- A text with another text in place of every occurrence of a character. -/
def replaceCharacter (old : Char) (new text : List Char) : List Char :=
  text.flatMap fun character =>
    if character = old then new else [character]

/-- Escaping is doubling the backslashes first and then putting a backslash in
front of every quote.  The other way round, the backslashes in front of the
quotes would be doubled too. -/
theorem flatMap_escapeQuoted
    (text : List Char) :
    text.flatMap escapeQuoted =
      replaceCharacter '\'' ['\\', '\'']
        (replaceCharacter '\\' ['\\', '\\'] text) := by
  rw [replaceCharacter, replaceCharacter, List.flatMap_assoc]
  congr 1
  funext character
  unfold escapeQuoted
  split
  · rfl
  · simp

/-! ## Complete literals -/

/-- Whether the character behind some text is escaped: a backslash stands
there that is not escaped itself. -/
def escapesNext (front : List Char) : Bool :=
  front.foldl (fun escaped character => !escaped && character == '\\') false

/-- Code that is one complete literal: of the quotes behind the opening one,
the first that is not escaped is the last character. -/
def IsLiteral (code : List Char) : Prop :=
  ∃ inner,
    code = '\'' :: (inner ++ ['\'']) ∧
      escapesNext inner = false ∧
      ∀ front behind,
        inner = front ++ '\'' :: behind → escapesNext front = true

/-- An escaped character leaves nothing escaped behind it. -/
theorem escapesNext_escapeQuoted_append
    (character : Char)
    (rest : List Char) :
    escapesNext (escapeQuoted character ++ rest) = escapesNext rest := by
  unfold escapeQuoted
  split
  · rfl
  · split
    · rfl
    · rename_i noBackslash _
      have ordinary : (character == '\\') = false :=
        beq_eq_false_iff_ne.mpr noBackslash
      simp [escapesNext, ordinary]

theorem escapesNext_flatMap
    (text : List Char) :
    escapesNext (text.flatMap escapeQuoted) = false := by
  induction text with
  | nil => rfl
  | cons character text inductionHypothesis =>
      rw [List.flatMap_cons, escapesNext_escapeQuoted_append,
        inductionHypothesis]

/-- A quote within an escaped character is escaped. -/
theorem escapesNext_of_escapeQuoted
    {character : Char}
    {front behind : List Char}
    (shape : escapeQuoted character = front ++ '\'' :: behind) :
    escapesNext front = true := by
  unfold escapeQuoted at shape
  split at shape
  · have absent : '\'' ∉ ['\\', '\\'] := by decide
    rw [shape] at absent
    simp at absent
  · split at shape
    · cases front with
      | nil => cases shape
      | cons first others =>
          obtain ⟨rfl, later⟩ := List.cons.inj shape
          cases others with
          | nil => rfl
          | cons second more => simp at later
    · rename_i noQuote
      cases front with
      | nil => exact (noQuote (List.cons.inj shape).1).elim
      | cons first others => simp at shape

/-- Every quote within an escaped text is escaped. -/
theorem escapesNext_of_flatMap
    {text front behind : List Char}
    (shape : text.flatMap escapeQuoted = front ++ '\'' :: behind) :
    escapesNext front = true := by
  induction text generalizing front with
  | nil => simp at shape
  | cons character text inductionHypothesis =>
      rw [List.flatMap_cons] at shape
      rcases List.append_eq_append_iff.mp shape with
        ⟨more, rfl, later⟩ | ⟨more, here, later⟩
      · rw [escapesNext_escapeQuoted_append]
        exact inductionHypothesis later
      · cases more with
        | nil =>
            rw [List.append_nil] at here
            rw [← here, ← List.append_nil (escapeQuoted character),
              escapesNext_escapeQuoted_append]
            exact inductionHypothesis later.symm
        | cons first others =>
            obtain ⟨rfl, _⟩ := List.cons.inj later
            exact escapesNext_of_escapeQuoted here

theorem toList_quote
    (text : String) :
    (quote text).toList =
      '\'' :: (text.toList.flatMap escapeQuoted ++ ['\'']) := by
  simp [quote, quoteCharacters]

/-- A quoted text is a complete literal. -/
theorem isLiteral_quote
    (text : String) :
    IsLiteral (quote text).toList :=
  ⟨_, toList_quote text, escapesNext_flatMap text.toList,
    fun _ _ => escapesNext_of_flatMap⟩

/-- A quoted text is read up to its end. -/
theorem readLiteral?_quote
    (text : String) :
    readLiteral? (quote text).toList = some (text.toList, []) := by
  rw [toList_quote, readLiteral?, readQuoted?_flatMap]

/-! ## Lists of columns -/

/-- What a piece of code evaluates to. -/
inductive Denotation where
  | text (text : String)
  | array (texts : List String)
  deriving Repr, DecidableEq

namespace Denotation

/-- The value that a list of columns is written as. -/
def ofColumns : List String → Denotation
  | [column] => .text column
  | columns => .array columns

/-- The columns of a value. -/
def columns : Denotation → List String
  | .text column => [column]
  | .array columns => columns

theorem columns_ofColumns :
    Function.LeftInverse columns ofColumns := by
  intro columns
  unfold ofColumns
  split <;> rfl

end Denotation

/-- The literals of an array behind its opening bracket; a comma may follow
the last one. -/
def items? : List Token → Option (List String)
  | [.mark ']'] => some []
  | [.literal text, .mark ']'] => some [String.ofList text]
  | .literal text :: .mark ',' :: rest =>
      (items? rest).map (String.ofList text :: ·)
  | _ => none

/-- The value of some code, if it is a literal or an array of literals. -/
def evaluate? (code : String) : Option Denotation :=
  match scan code with
  | some [.literal text] => some (.text (String.ofList text))
  | some (.mark '[' :: rest) => (items? rest).map .array
  | _ => none

theorem evaluate?_quote
    (text : String) :
    evaluate? (quote text) = some (.text text) := by
  have scanned : scan (quote text) = some [.literal text.toList] := by
    rw [scan, toList_quote, scanFrom, if_neg (by decide), if_pos rfl,
      scanFrom_literal, readQuoted?_flatMap]
    rfl
  rw [evaluate?, scanned]
  simp

/-- The items of an array are its literals. -/
theorem items?_separated
    (texts : List String) :
    items? (separated (texts.map fun text => [.literal text.toList]) ++
      [.mark ']']) = some texts := by
  induction texts with
  | nil => rfl
  | cons text texts inductionHypothesis =>
      cases texts with
      | nil => simp [separated, items?]
      | cons next others =>
          have shape :
              separated ((text :: next :: others).map
                  fun text => [.literal text.toList]) ++ [.mark ']'] =
                .literal text.toList :: .mark ',' ::
                  (separated ((next :: others).map
                    fun text => [.literal text.toList]) ++ [.mark ']']) :=
            rfl
          rw [shape, items?, inductionHypothesis]
          simp

theorem evaluate?_bracketed
    (texts : List String) :
    evaluate? (bracketed (texts.map quote)) = some (.array texts) := by
  have opening : '[' ∈ marks := by decide
  have closing : ']' ∈ marks := by decide
  have scanned : scan (bracketed (texts.map quote)) =
      some (bracketedTokens texts) := by
    have finished :=
      ((Scans.literals texts).mark opening).finish closing
    simpa [scan, bracketed, bracketedTokens] using finished
  rw [evaluate?, scanned, bracketedTokens]
  simp only [items?_separated, List.cons_append]
  rfl

/-- A list of columns evaluates to its only column or to an array. -/
theorem evaluate?_columns
    (columns : List String) :
    evaluate? (Argument.columns columns).text =
      some (.ofColumns columns) := by
  cases columns with
  | nil => exact evaluate?_bracketed []
  | cons column others =>
      cases others with
      | nil => exact evaluate?_quote column
      | cons next more => exact evaluate?_bracketed (column :: next :: more)

/--
Quoting is a faithful encoding.

Every text is quoted by doubling its backslashes and then putting a backslash
in front of its quotes; the result is one complete literal, and it is read as
the text.  Lists of columns are written injectively, and what is written
evaluates to the only column or to the array of all columns.
-/
theorem quote_faithful :
    (∀ text,
      (quote text).toList =
          '\'' :: (replaceCharacter '\'' ['\\', '\'']
            (replaceCharacter '\\' ['\\', '\\'] text.toList) ++ ['\'']) ∧
        IsLiteral (quote text).toList ∧
        readLiteral? (quote text).toList = some (text.toList, [])) ∧
      (Function.Injective fun columns => (Argument.columns columns).text) ∧
      ∀ columns,
        evaluate? (Argument.columns columns).text =
          some (.ofColumns columns) := by
  refine ⟨fun text => ⟨?_, isLiteral_quote text, readLiteral?_quote text⟩,
    ?_, evaluate?_columns⟩
  · rw [toList_quote, flatMap_escapeQuoted]
  · intro first second same
    have values := congrArg evaluate? same
    simp only [evaluate?_columns] at values
    exact Denotation.columns_ofColumns.injective (Option.some.inj values)

-- Without escapes the first literal would end at its quote, and the second one
-- not at all.
example :
    (Argument.columns ["owner's", "path\\"]).text =
      "['owner\\'s', 'path\\\\']" := by
  decide

end Tablewright.Code
