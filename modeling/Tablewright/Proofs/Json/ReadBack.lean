import Mathlib.Data.List.DropRight
import Tablewright.Proofs.Json.Numbers
import Tablewright.Proofs.Json.Strings

namespace Tablewright.Json

/-!
# Values that are read back

The pretty form of a value is read back as its canonical form, as long as it
is not nested too deeply and its numbers are read back.  Reading spends one
unit of fuel on every array, object, element and member, which all take more
than one character.
-/

namespace Parser

/-! ## Blanks -/

/-- A character between tokens. -/
def IsBlank (character : Char) : Prop :=
  character = ' ' ∨ character = '\n' ∨ character = '\t' ∨ character = '\r'

/-- Nothing is dropped in front of a token. -/
theorem skipBlanks_of_not_blank
    {character : Char}
    (token : ¬ IsBlank character)
    (rest : List Char) :
    skipBlanks (character :: rest) = character :: rest := by
  simp only [IsBlank, not_or] at token
  simp [skipBlanks, token]

theorem skipBlanks_skipBlanks
    (input : List Char) :
    skipBlanks (skipBlanks input) = skipBlanks input :=
  List.dropWhile_idempotent _ input

theorem skipBlanks_space
    (rest : List Char) :
    skipBlanks (' ' :: rest) = skipBlanks rest := by
  simp [skipBlanks]

/-- Line breaks with their indentation are dropped. -/
theorem skipBlanks_lineBreak
    (level : Nat)
    (rest : List Char) :
    skipBlanks (Value.lineBreak level ++ rest) = skipBlanks rest := by
  have spaces :
      ∀ count, skipBlanks (List.replicate count ' ' ++ rest) =
        skipBlanks rest := by
    intro count
    induction count with
    | zero => rfl
    | succ count inductionHypothesis =>
        rw [List.replicate_succ, List.cons_append, skipBlanks_space,
          inductionHypothesis]
  have newline :
      ∀ more, skipBlanks ('\n' :: more) = skipBlanks more := by
    intro more
    simp [skipBlanks]
  rw [Value.lineBreak, List.cons_append, newline, spaces]

section Skipped

variable {input other : List Char}
variable (same : skipBlanks input = skipBlanks other)

include same

/-- Blanks in front of a value do not matter. -/
theorem value?_of_skipBlanks
    (fuel depth : Nat) :
    value? fuel depth input = value? fuel depth other := by
  cases fuel with
  | zero => rw [value?, value?]
  | succ fuel => rw [value?, value?, same]

/-- Blanks in front of elements do not matter. -/
theorem elements?_of_skipBlanks
    (fuel depth : Nat) :
    elements? fuel depth input = elements? fuel depth other := by
  cases fuel with
  | zero => rw [elements?, elements?]
  | succ fuel =>
      rw [elements?, elements?, value?_of_skipBlanks same]

/-- Blanks in front of members do not matter. -/
theorem members?_of_skipBlanks
    (fuel depth : Nat) :
    members? fuel depth input = members? fuel depth other := by
  cases fuel with
  | zero => rw [members?, members?]
  | succ fuel => rw [members?, members?, same]

end Skipped

/-! ## Values by their first character -/

section Tokens

variable (fuel depth : Nat) (rest : List Char)

theorem value?_null :
    value? (fuel + 1) depth ('n' :: 'u' :: 'l' :: 'l' :: rest) =
      some (.null, rest) := by
  rw [value?, skipBlanks_of_not_blank (by simp [IsBlank])]
  rfl

theorem value?_true :
    value? (fuel + 1) depth ('t' :: 'r' :: 'u' :: 'e' :: rest) =
      some (.boolean true, rest) := by
  rw [value?, skipBlanks_of_not_blank (by simp [IsBlank])]
  rfl

theorem value?_false :
    value? (fuel + 1) depth ('f' :: 'a' :: 'l' :: 's' :: 'e' :: rest) =
      some (.boolean false, rest) := by
  rw [value?, skipBlanks_of_not_blank (by simp [IsBlank])]
  rfl

theorem value?_quote :
    value? (fuel + 1) depth ('"' :: rest) =
      (stringBody? rest).map fun (text, rest) =>
        (.string (String.ofList text), rest) := by
  rw [value?, skipBlanks_of_not_blank (by simp [IsBlank])]
  rfl

theorem value?_bracket :
    value? (fuel + 1) (depth + 1) ('[' :: rest) =
      match skipBlanks rest with
      | ']' :: rest => some (.array [], rest)
      | rest =>
          (elements? fuel depth rest).map fun (elements, rest) =>
            (.array elements, rest) := by
  rw [value?, skipBlanks_of_not_blank (by simp [IsBlank])]
  rfl

theorem value?_brace :
    value? (fuel + 1) (depth + 1) ('\x7b' :: rest) =
      match skipBlanks rest with
      | '\x7d' :: rest => some (.object [], rest)
      | rest =>
          (members? fuel depth rest).map fun (members, rest) =>
            (.object (sortMembers members), rest) := by
  rw [value?, skipBlanks_of_not_blank (by simp [IsBlank])]
  rfl

/-- A string in quotation marks is read back. -/
theorem value?_writeString
    (text : String) :
    value? (fuel + 1) depth (writeString text ++ rest) =
      some (.string text, rest) := by
  rw [writeString, List.cons_append, List.cons_append, List.append_assoc,
    value?_quote, List.singleton_append,
    stringBody?_flatMap_writeCharacter, Option.map_some]
  dsimp only
  rw [String.ofList_toList]

end Tokens

/-- A number begins with a minus sign or a digit. -/
theorem head_of_number?
    {first : Char}
    {more left : List Char}
    {number : Number}
    (read : number? (first :: more) = some (number, left)) :
    first = '-' ∨ first.isDigit = true := by
  by_cases minus : first = '-'
  · exact Or.inl minus
  · right
    rw [number?_unsigned minus] at read
    by_contra noDigit
    rw [unsignedNumber?, spanDigits, List.takeWhile_cons_of_neg noDigit]
      at read
    cases read

/-- What is read as a number is read as a value. -/
theorem value?_of_number?
    {fuel depth : Nat}
    {first : Char}
    {more left : List Char}
    {number : Number}
    (read : number? (first :: more) = some (number, left)) :
    value? (fuel + 1) depth (first :: more) =
      some (.number number, left) := by
  have begins := head_of_number? read
  have token : ¬ IsBlank first := by
    rintro (rfl | rfl | rfl | rfl)
    all_goals revert begins; decide
  have other :
      ∀ character, character ≠ '-' → character.isDigit = false →
        first ≠ character := by
    rintro character notMinus notDigit rfl
    rcases begins with minus | digit
    · exact notMinus minus
    · rw [notDigit] at digit
      cases digit
  rw [value?, skipBlanks_of_not_blank token]
  split
  · rename_i same
    exact (other 'n' (by decide) (by decide) (List.cons.inj same).1).elim
  · rename_i same
    exact (other 't' (by decide) (by decide) (List.cons.inj same).1).elim
  · rename_i same
    exact (other 'f' (by decide) (by decide) (List.cons.inj same).1).elim
  · rename_i same
    exact (other '"' (by decide) (by decide) (List.cons.inj same).1).elim
  · rename_i same
    exact (other '[' (by decide) (by decide) (List.cons.inj same).1).elim
  · rename_i same
    exact (other '\x7b' (by decide) (by decide)
      (List.cons.inj same).1).elim
  · rw [read, Option.map_some]

/-! ## Arrays and objects -/

section Brackets

variable {fuel depth : Nat} {input rest : List Char}

theorem value?_emptyArray :
    value? (fuel + 1) (depth + 1) ('[' :: ']' :: rest) =
      some (.array [], rest) := by
  rw [value?_bracket, skipBlanks_of_not_blank (by simp [IsBlank])]
  rfl

theorem value?_emptyObject :
    value? (fuel + 1) (depth + 1) ('\x7b' :: '\x7d' :: rest) =
      some (.object [], rest) := by
  rw [value?_brace, skipBlanks_of_not_blank (by simp [IsBlank])]
  rfl

/-- No element begins with a closing bracket. -/
theorem elements?_closing :
    elements? fuel depth (']' :: rest) = none := by
  have noValue :
      ∀ fuel, value? fuel depth (']' :: rest) = none := by
    intro fuel
    cases fuel with
    | zero => rw [value?]
    | succ fuel =>
        rw [value?, skipBlanks_of_not_blank (by simp [IsBlank])]
        rfl
  cases fuel with
  | zero => rw [elements?]
  | succ fuel => rw [elements?, noValue]

/-- No member begins with a closing brace. -/
theorem members?_closing :
    members? fuel depth ('\x7d' :: rest) = none := by
  cases fuel with
  | zero => rw [members?]
  | succ fuel =>
      rw [members?, skipBlanks_of_not_blank (by simp [IsBlank])]
      rfl

/-- An array with elements is read as its elements. -/
theorem value?_array
    {elements : List Value}
    (read : elements? fuel depth input = some (elements, rest)) :
    value? (fuel + 1) (depth + 1) ('[' :: input) =
      some (.array elements, rest) := by
  rw [← elements?_of_skipBlanks (skipBlanks_skipBlanks input)] at read
  rw [value?_bracket]
  split
  · rename_i closed
    rw [closed, elements?_closing] at read
    cases read
  · rw [read, Option.map_some]

/-- An object with members is read as its members, which are sorted. -/
theorem value?_object
    {members : List (String × Value)}
    (read : members? fuel depth input = some (members, rest)) :
    value? (fuel + 1) (depth + 1) ('\x7b' :: input) =
      some (.object (sortMembers members), rest) := by
  rw [← members?_of_skipBlanks (skipBlanks_skipBlanks input)] at read
  rw [value?_brace]
  split
  · rename_i closed
    rw [closed, members?_closing] at read
    cases read
  · rw [read, Option.map_some]

/-- The last element stands in front of the closing bracket. -/
theorem elements?_last
    {value : Value}
    {behind : List Char}
    (read : value? fuel depth input = some (value, behind))
    (closed : skipBlanks behind = ']' :: rest) :
    elements? (fuel + 1) depth input = some ([value], rest) := by
  rw [elements?, read]
  dsimp only
  rw [closed]
  rfl

/-- Further elements stand behind a comma. -/
theorem elements?_more
    {value : Value}
    {behind : List Char}
    {others : List Value}
    (read : value? fuel depth input = some (value, ',' :: behind))
    (readMore : elements? fuel depth behind = some (others, rest)) :
    elements? (fuel + 1) depth input = some (value :: others, rest) := by
  have comma : skipBlanks (',' :: behind) = ',' :: behind :=
    skipBlanks_of_not_blank (by simp [IsBlank]) behind
  rw [elements?, read]
  dsimp only
  rw [comma]
  simp only [readMore, Option.map_some]

/-- What is read behind a member: the end of the object, or a comma and
further members. -/
def membersBehind? (fuel depth : Nat) (member : String × Value) :
    List Char → Option (List (String × Value) × List Char)
  | '\x7d' :: rest => some ([member], rest)
  | ',' :: rest =>
      (members? fuel depth rest).map fun (others, rest) =>
        (member :: others, rest)
  | _ => none

section Member

variable {key : String} {afterColon behind : List Char}
variable {value : Value}
variable (opens : skipBlanks input = writeString key ++ ':' :: afterColon)
variable (read : value? fuel depth afterColon = some (value, behind))

include opens read

/-- A member is a key and a value, with a colon between them. -/
theorem members?_of_value? :
    members? (fuel + 1) depth input =
      membersBehind? fuel depth (key, value) (skipBlanks behind) := by
  have colon : skipBlanks (':' :: afterColon) = ':' :: afterColon :=
    skipBlanks_of_not_blank (by simp [IsBlank]) afterColon
  rw [writeString, List.cons_append, List.cons_append, List.append_assoc,
    List.singleton_append] at opens
  rw [members?, opens]
  simp only [stringBody?_flatMap_writeCharacter, colon, read,
    String.ofList_toList]
  rfl

/-- The last member stands in front of the closing brace. -/
theorem members?_last
    (closed : skipBlanks behind = '\x7d' :: rest) :
    members? (fuel + 1) depth input = some ([(key, value)], rest) := by
  rw [members?_of_value? opens read, closed]
  rfl

end Member

/-- Further members stand behind a comma. -/
theorem members?_more
    {key : String}
    {afterColon behind : List Char}
    {value : Value}
    {others : List (String × Value)}
    (opens : skipBlanks input = writeString key ++ ':' :: afterColon)
    (read :
      value? fuel depth afterColon = some (value, ',' :: behind))
    (readMore : members? fuel depth behind = some (others, rest)) :
    members? (fuel + 1) depth input =
      some ((key, value) :: others, rest) := by
  have comma : skipBlanks (',' :: behind) = ',' :: behind :=
    skipBlanks_of_not_blank (by simp [IsBlank]) behind
  rw [members?_of_value? opens read, comma, membersBehind?]
  simp only [readMore, Option.map_some]

end Brackets

/-! ## The pretty form -/

open Value

/-- The pretty form of a value is read back in front of any text that ends a
number, as soon as there is one unit of fuel for each of its characters. -/
def ReadsPretty (depth : Nat) (value : Value) : Prop :=
  ∀ (level fuel : Nat) (rest : List Char),
    (value.writePretty level).length ≤ fuel →
    EndsNumber rest →
    value? fuel depth (value.writePretty level ++ rest) =
      some (value.canonical, rest)

/-- There is fuel for a text that is not empty. -/
theorem exists_eq_succ_of_length_le
    {first : Char}
    {more : List Char}
    {fuel : Nat}
    (enough : (first :: more).length ≤ fuel) :
    ∃ less, fuel = less + 1 := by
  rw [List.length_cons] at enough
  exact ⟨fuel - 1, by omega⟩

section Several

variable {depth level outer : Nat}

/-- Elements in their pretty form are read back. -/
theorem elements?_writePretty
    {first : Value}
    {others : List Value}
    (each : ∀ element ∈ first :: others, ReadsPretty depth element)
    {fuel : Nat}
    (enough :
      (first.writePretty level ++
        writePrettyElements level others).length < fuel)
    (rest : List Char) :
    elements? fuel depth
        (first.writePretty level ++ (writePrettyElements level others ++
          (lineBreak outer ++ ']' :: rest))) =
      some ((first :: others).map canonical, rest) := by
  induction others generalizing first fuel with
  | nil =>
      obtain ⟨fuel, rfl⟩ : ∃ less, fuel = less + 1 :=
        ⟨fuel - 1, by omega⟩
      rw [writePrettyElements, List.append_nil] at enough
      rw [writePrettyElements, List.nil_append]
      refine elements?_last
        (each first List.mem_cons_self level fuel _ (by omega)
          (endsNumber_newline _)) ?_
      rw [skipBlanks_lineBreak,
        skipBlanks_of_not_blank (by simp [IsBlank])]
  | cons second others inductionHypothesis =>
      obtain ⟨fuel, rfl⟩ : ∃ less, fuel = less + 1 :=
        ⟨fuel - 1, by omega⟩
      simp only [writePrettyElements, List.cons_append, List.append_assoc,
        List.length_append, List.length_cons] at enough ⊢
      refine elements?_more
        (each first List.mem_cons_self level fuel _ (by omega)
          (endsNumber_comma _)) ?_
      rw [elements?_of_skipBlanks (skipBlanks_lineBreak level _)]
      refine inductionHypothesis
        (fun element member => each element (List.mem_cons_of_mem _ member))
        ?_
      rw [List.length_append]
      omega

/-- Members in their pretty form are read back. -/
theorem members?_writePretty
    {first : String × Value}
    {others : List (String × Value)}
    (each : ∀ member ∈ first :: others, ReadsPretty depth member.2)
    {fuel : Nat}
    (enough :
      (first.2.writePretty level ++
        writePrettyMembers level others).length < fuel)
    (rest : List Char) :
    members? fuel depth
        (writeString first.1 ++ (':' :: ' ' ::
          (first.2.writePretty level ++ (writePrettyMembers level others ++
            (lineBreak outer ++ '\x7d' :: rest))))) =
      some
        ((first :: others).map fun member =>
          (member.1, member.2.canonical), rest) := by
  have opens :
      ∀ (key : String) (rest : List Char),
        skipBlanks (writeString key ++ rest) = writeString key ++ rest :=
    fun key rest => skipBlanks_of_not_blank (by simp [IsBlank]) _
  induction others generalizing first fuel with
  | nil =>
      obtain ⟨fuel, rfl⟩ : ∃ less, fuel = less + 1 :=
        ⟨fuel - 1, by omega⟩
      rw [writePrettyMembers, List.append_nil] at enough
      rw [writePrettyMembers, List.nil_append]
      have read :
          value? fuel depth
              (' ' :: (first.2.writePretty level ++
                (lineBreak outer ++ '\x7d' :: rest))) =
            some (first.2.canonical, lineBreak outer ++ '\x7d' :: rest) := by
        rw [value?_of_skipBlanks (skipBlanks_space _)]
        exact each first List.mem_cons_self level fuel _ (by omega)
          (endsNumber_newline _)
      refine members?_last (opens _ _) read ?_
      rw [skipBlanks_lineBreak,
        skipBlanks_of_not_blank (by simp [IsBlank])]
  | cons second others inductionHypothesis =>
      obtain ⟨fuel, rfl⟩ : ∃ less, fuel = less + 1 :=
        ⟨fuel - 1, by omega⟩
      simp only [writePrettyMembers, List.cons_append, List.append_assoc,
        List.nil_append, List.length_append, List.length_cons]
        at enough ⊢
      have read :
          ∀ more,
            value? fuel depth
                (' ' :: (first.2.writePretty level ++ ',' :: more)) =
              some (first.2.canonical, ',' :: more) := by
        intro more
        rw [value?_of_skipBlanks (skipBlanks_space _)]
        exact each first List.mem_cons_self level fuel _ (by omega)
          (endsNumber_comma _)
      refine members?_more (opens _ _) (read _) ?_
      rw [members?_of_skipBlanks (skipBlanks_lineBreak level _)]
      refine inductionHypothesis
        (fun member inOthers =>
          each member (List.mem_cons_of_mem _ inOthers)) ?_
      rw [List.length_append]
      omega

end Several

/-- A value whose numbers are read back is read back from its pretty form. -/
theorem readsPretty_of_within
    {depth : Nat}
    {value : Value}
    (within : value.Within Number.ReadsBack depth) :
    ReadsPretty depth value := by
  induction within with
  | null =>
      intro level fuel rest enough _
      rw [writePretty] at enough ⊢
      obtain ⟨fuel, rfl⟩ := exists_eq_succ_of_length_le enough
      rw [canonical_null]
      exact value?_null fuel _ rest
  | @boolean depth value =>
      intro level fuel rest enough _
      cases value with
      | true =>
          rw [writePretty] at enough ⊢
          obtain ⟨fuel, rfl⟩ := exists_eq_succ_of_length_le enough
          rw [canonical_boolean]
          exact value?_true fuel _ rest
      | false =>
          rw [writePretty] at enough ⊢
          obtain ⟨fuel, rfl⟩ := exists_eq_succ_of_length_le enough
          rw [canonical_boolean]
          exact value?_false fuel _ rest
  | @number depth number readsBack =>
      intro level fuel rest enough ends
      rw [writePretty] at enough ⊢
      have read := ends.number?_append readsBack
      cases shape : number.text with
      | nil =>
          rw [Number.ReadsBack, shape] at readsBack
          cases readsBack
      | cons first more =>
          rw [shape] at enough read
          obtain ⟨fuel, rfl⟩ := exists_eq_succ_of_length_le enough
          rw [canonical_number]
          exact value?_of_number? read
  | @string depth text =>
      intro level fuel rest enough _
      rw [writePretty] at enough ⊢
      obtain ⟨fuel, rfl⟩ := exists_eq_succ_of_length_le enough
      rw [canonical_string]
      exact value?_writeString fuel depth rest text
  | @array depth elements _ inductionHypothesis =>
      intro level fuel rest enough _
      rw [canonical_array]
      cases elements with
      | nil =>
          rw [writePretty] at enough ⊢
          obtain ⟨fuel, rfl⟩ := exists_eq_succ_of_length_le enough
          exact value?_emptyArray
      | cons first others =>
          simp only [writePretty, List.cons_append, List.append_assoc,
            List.nil_append, List.length_append, List.length_cons]
            at enough ⊢
          obtain ⟨fuel, rfl⟩ : ∃ less, fuel = less + 1 :=
            ⟨fuel - 1, by omega⟩
          refine value?_array ?_
          rw [elements?_of_skipBlanks (skipBlanks_lineBreak (level + 1) _)]
          refine elements?_writePretty inductionHypothesis ?_ rest
          rw [List.length_append]
          omega
  | @object depth members _ inductionHypothesis =>
      intro level fuel rest enough _
      rw [canonical_object]
      cases members with
      | nil =>
          rw [writePretty] at enough ⊢
          obtain ⟨fuel, rfl⟩ := exists_eq_succ_of_length_le enough
          exact value?_emptyObject
      | cons first others =>
          simp only [writePretty, List.cons_append, List.append_assoc,
            List.nil_append, List.length_append, List.length_cons]
            at enough ⊢
          obtain ⟨fuel, rfl⟩ : ∃ less, fuel = less + 1 :=
            ⟨fuel - 1, by omega⟩
          refine value?_object ?_
          rw [members?_of_skipBlanks (skipBlanks_lineBreak (level + 1) _)]
          refine members?_writePretty inductionHypothesis ?_ rest
          rw [List.length_append]
          omega

end Parser

/-- The pretty form of a value is read back as its canonical form. -/
theorem parse?_pretty
    {value : Value}
    (within : value.Within Number.ReadsBack Parser.depthLimit) :
    parse? value.pretty = some value.canonical := by
  have read :=
    Parser.readsPretty_of_within within 0
      (2 * (value.writePretty 0).length + 2) [] (by omega)
      Parser.endsNumber_nil
  rw [List.append_nil] at read
  unfold parse?
  simp only [Value.pretty, String.toList_ofList, read]
  rfl

end Tablewright.Json
