import Tablewright.Directive.Fault
import Tablewright.Directive.Quoting

namespace Tablewright.Directive

/-!
# Bodies of directives

A tag may be followed by a body in round brackets, a body in braces, or a
colon and a value. A value ends at the next blank, except that `as` and an
alias may follow it on the same line. The main statement is that what a body
leaves over is never longer than what it was read from.
-/

/-- How a body is written. -/
inductive BodyShape where
  | arguments
  | block
  | value
  deriving Repr, DecidableEq

/-- The body of a directive without its delimiters. -/
structure Body where
  shape : BodyShape
  text : List Char
  deriving Repr, DecidableEq

/--
Read up to the bracket that closes a group; the inner text and the rest.

`closers` holds the brackets that are still to come, the innermost first.
-/
def readGroup (closers : List Char) (quoting : Quoting) :
    List Char → Reading (List Char × List Char)
  | [] => .error .unbalanced
  | character :: rest =>
      let continueWith (closers : List Char) :
          Reading (List Char × List Char) :=
        (readGroup closers (quoting.next character) rest).map
          fun (inner, rest) => (character :: inner, rest)
      if quoting ≠ .outside ∨ isQuote character then continueWith closers
      else
        match closerOf? character with
        | some closer => continueWith (closer :: closers)
        | none =>
            if isCloser character then
              match closers with
              | [] => .error (.unexpectedCloser character)
              | expected :: outer =>
                  if character ≠ expected then
                    .error (.unexpectedCloser character)
                  else if outer.isEmpty then .ok ([], rest)
                  else continueWith outer
            else continueWith closers

/-- Whether a character is a space or a tab. -/
def isSpaceOrTab (character : Char) : Bool :=
  character == ' ' || character == '\t'

/-- The alias after a value, with everything before it, and the rest;
nothing if no alias follows. -/
def readAlias? (text : List Char) : Option (List Char × List Char) :=
  let spaces := text.takeWhile isSpaceOrTab
  match text.dropWhile isSpaceOrTab with
  | 'a' :: 's' :: ' ' :: afterAs =>
      let gap := afterAs.takeWhile isSpaceOrTab
      let afterGap := afterAs.dropWhile isSpaceOrTab
      let name := afterGap.takeWhile (fun c => !Text.isBlank c)
      if name.isEmpty then none
      else
        some (spaces ++ ['a', 's', ' '] ++ gap ++ name,
          afterGap.dropWhile (fun c => !Text.isBlank c))
  | _ => none

/-- Read a value after a colon. -/
def readValue (text : List Char) : Reading (List Char × List Char) :=
  let value := text.takeWhile (fun c => !Text.isBlank c)
  let rest := text.dropWhile (fun c => !Text.isBlank c)
  if value.isEmpty then .error .noValueAfterColon
  else
    match readAlias? rest with
    | some (tail, rest) => .ok (value ++ tail, rest)
    | none => .ok (value, rest)

/-- Read the body that follows a tag, if there is one, and what is left. -/
def readBody (text : List Char) : Reading (Option Body × List Char) :=
  match text with
  | '(' :: rest =>
      (readGroup [')'] .outside rest).map fun (inner, rest) =>
        (some ⟨.arguments, inner⟩, rest)
  | '{' :: rest =>
      (readGroup ['}'] .outside rest).map fun (inner, rest) =>
        (some ⟨.block, inner⟩, rest)
  | ':' :: rest =>
      (readValue rest).map fun (value, rest) =>
        (some ⟨.value, value⟩, rest)
  | _ => .ok (none, text)

/-- Dropping a front part never makes a text longer. -/
theorem length_dropWhile_le (keep : Char → Bool) (text : List Char) :
    (text.dropWhile keep).length ≤ text.length :=
  (List.dropWhile_suffix keep).length_le

/-- A group leaves less than it was read from. -/
theorem length_lt_of_readGroup {closers : List Char} {quoting : Quoting}
    {text inner rest : List Char}
    (read : readGroup closers quoting text = .ok (inner, rest)) :
    rest.length < text.length := by
  induction text generalizing closers quoting inner rest with
  | nil => simp [readGroup] at read
  | cons character tail inductionHypothesis =>
      have continued {outer : List Char} {inner rest : List Char}
          (read : (readGroup outer (quoting.next character) tail).map
            (fun (inner, rest) => (character :: inner, rest)) =
              .ok (inner, rest)) :
          rest.length < (character :: tail).length := by
        cases found : readGroup outer (quoting.next character) tail with
        | error cause => simp [found, Except.map] at read
        | ok pair =>
            obtain ⟨foundInner, foundRest⟩ := pair
            simp only [found, Except.map, Except.ok.injEq,
              Prod.mk.injEq] at read
            obtain ⟨_, rfl⟩ := read
            exact Nat.lt_succ_of_lt (inductionHypothesis found)
      unfold readGroup at read
      dsimp only at read
      split at read
      · exact continued read
      · split at read
        · exact continued read
        · split at read
          · split at read
            · simp at read
            · split at read
              · simp at read
              · split at read
                · simp only [Except.ok.injEq, Prod.mk.injEq] at read
                  simp [← read.2]
                · exact continued read
          · exact continued read

/-- An alias leaves no more than it was read from. -/
theorem length_le_of_readAlias? {text tail rest : List Char}
    (read : readAlias? text = some (tail, rest)) :
    rest.length ≤ text.length := by
  have start := length_dropWhile_le isSpaceOrTab text
  unfold readAlias? at read
  dsimp only at read
  split at read
  · next afterAs found =>
      rw [found] at start
      split at read
      · simp at read
      · simp only [Option.some.injEq, Prod.mk.injEq] at read
        have gap := length_dropWhile_le isSpaceOrTab afterAs
        have name := length_dropWhile_le (fun c => !Text.isBlank c)
          (afterAs.dropWhile isSpaceOrTab)
        rw [read.2] at name
        simp only [List.length_cons] at start
        omega
  · simp at read

/-- A value leaves no more than it was read from. -/
theorem length_le_of_readValue {text value rest : List Char}
    (read : readValue text = .ok (value, rest)) :
    rest.length ≤ text.length := by
  have start := length_dropWhile_le (fun c => !Text.isBlank c) text
  unfold readValue at read
  dsimp only at read
  split at read
  · simp at read
  · split at read
    · next tail left found =>
        have step := length_le_of_readAlias? found
        simp only [Except.ok.injEq, Prod.mk.injEq] at read
        rw [← read.2]
        omega
    · simp only [Except.ok.injEq, Prod.mk.injEq] at read
      rw [← read.2]
      exact start

/-- A body leaves no more than it was read from. -/
theorem length_le_of_readBody {text rest : List Char} {body : Option Body}
    (read : readBody text = .ok (body, rest)) :
    rest.length ≤ text.length := by
  have mapped {source : List Char} {shape : BodyShape}
      {reading : Reading (List Char × List Char)}
      (bound : ∀ inner left,
        reading = .ok (inner, left) → left.length ≤ source.length)
      (read : reading.map
        (fun (inner, left) => (some (Body.mk shape inner), left)) =
          .ok (body, rest)) :
      rest.length ≤ source.length := by
    cases found : reading with
    | error cause => simp [found, Except.map] at read
    | ok pair =>
        obtain ⟨inner, left⟩ := pair
        simp only [found, Except.map, Except.ok.injEq,
          Prod.mk.injEq] at read
        rw [← read.2]
        exact bound inner left found
  unfold readBody at read
  split at read
  · next source =>
      have bound := mapped
        (fun inner left => fun found =>
          Nat.le_of_lt (length_lt_of_readGroup found)) read
      exact Nat.le_succ_of_le bound
  · next source =>
      have bound := mapped
        (fun inner left => fun found =>
          Nat.le_of_lt (length_lt_of_readGroup found)) read
      exact Nat.le_succ_of_le bound
  · next source =>
      have bound := mapped
        (fun inner left => fun found =>
          length_le_of_readValue found) read
      exact Nat.le_succ_of_le bound
  · simp only [Except.ok.injEq, Prod.mk.injEq] at read
    exact Nat.le_of_eq (congrArg List.length read.2.symm)

end Tablewright.Directive
