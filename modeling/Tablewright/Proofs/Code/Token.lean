import Mathlib.Data.List.Forall2
import Tablewright.Proofs.Code.Numeral

namespace Tablewright.Code

/-!
# Tokens of the generated code

The generated code, read from the outside.  `scan` cuts it into marks, quoted
literals and runs of other characters, and fails where a literal does not end.
A statement knows the tokens that it is meant to have; its text has exactly
these tokens if no text that it copies contains a special character.
-/

/-- A token of the generated code. -/
inductive Token where
  /-- A bracket, a comma or a semicolon. -/
  | mark (character : Char)
  /-- A quoted literal, by the text that it is read as. -/
  | literal (text : List Char)
  /-- Other characters without a blank between them: a number, or names with
  the arrows and colons that join them. -/
  | run (text : List Char)
  deriving Repr, DecidableEq

/-- What stands in front of the characters that are still to be scanned. -/
inductive Reading where
  /-- Nothing that goes on. -/
  | gap
  /-- The beginning of a run. -/
  | run (text : List Char)
  /-- The beginning of a literal. -/
  | literal (text : List Char)
  /-- The beginning of a literal and a backslash. -/
  | escape (text : List Char)

/-- The tokens of some code, given what stands in front of it. -/
def scanFrom : Reading → List Char → Option (List Token)
  | .gap, [] => some []
  | .run text, [] => some [.run text]
  | .literal _, [] | .escape _, [] => none
  | .gap, character :: rest =>
      if character = ' ' then scanFrom .gap rest
      else if character = '\'' then scanFrom (.literal []) rest
      else if marks.contains character then
        (scanFrom .gap rest).map (.mark character :: ·)
      else scanFrom (.run [character]) rest
  | .run text, character :: rest =>
      if character = ' ' then (scanFrom .gap rest).map (.run text :: ·)
      else if character = '\'' then
        (scanFrom (.literal []) rest).map (.run text :: ·)
      else if marks.contains character then
        (scanFrom .gap rest).map
          fun tokens => .run text :: .mark character :: tokens
      else scanFrom (.run (text ++ [character])) rest
  | .literal text, character :: rest =>
      if character = '\'' then
        (scanFrom .gap rest).map (.literal text :: ·)
      else if character = '\\' then scanFrom (.escape text) rest
      else scanFrom (.literal (text ++ [character])) rest
  | .escape text, character :: rest =>
      if character = '\'' ∨ character = '\\' then
        scanFrom (.literal (text ++ [character])) rest
      else scanFrom (.literal (text ++ ['\\', character])) rest

/-- The tokens of some code, unless a literal in it does not end. -/
def scan (code : String) : Option (List Token) :=
  scanFrom .gap code.toList

/-- The bracket that closes an opening one. -/
def closing? (character : Char) : Option Char :=
  match character with
  | '(' => some ')'
  | '[' => some ']'
  | _ => none

/-- Whether brackets are closed in their order, given those that are still to
be closed. -/
def balancedFrom : List Char → List Token → Bool
  | expected, [] => expected.isEmpty
  | expected, .mark character :: rest =>
      match closing? character with
      | some closing => balancedFrom (closing :: expected) rest
      | none =>
          if [')', ']'].contains character then
            match expected with
            | [] => false
            | closing :: outer =>
                closing == character && balancedFrom outer rest
          else balancedFrom expected rest
  | expected, _ :: rest => balancedFrom expected rest

/-- Whether all brackets are closed, in their order. -/
def balanced (tokens : List Token) : Bool :=
  balancedFrom [] tokens

/-! ## The tokens of a statement -/

/-- Tokens with commas between them. -/
def separated : List (List Token) → List Token
  | [] => []
  | [tokens] => tokens
  | tokens :: rest => tokens ++ .mark ',' :: separated rest

/-- The tokens of a bracketed list of texts. -/
def bracketedTokens (texts : List String) : List Token :=
  .mark '[' ::
    separated (texts.map fun text => [.literal text.toList]) ++ [.mark ']']

/-- The tokens that an argument is meant to have. -/
def Argument.tokens : Argument → List Token
  | .literal text | .enclosed text => [.literal text.toList]
  | .literals texts | .enclosedList texts => bracketedTokens texts
  | .verbatim code => [.run code.toList]
  | .expression text =>
      [.run "DB::raw".toList, .mark '(', .literal text.toList, .mark ')']

/-- The tokens of a call on a receiver. -/
def Call.tokens (receiver : String) (call : Call) : List Token :=
  .run (receiver ++ "->" ++ call.method).toList :: .mark '(' ::
    separated (call.arguments.map Argument.tokens) ++ [.mark ')']

/-- The tokens that a statement is meant to have. -/
def Statement.tokens : Statement → List Token
  | ⟨[]⟩ => [.run "$table".toList, .mark ';']
  | ⟨first :: rest⟩ =>
      first.tokens "$table" ++ rest.flatMap (Call.tokens "") ++ [.mark ';']

example :
    scan "$table->string('it\\'s', 3);" =
      some (Statement.tokens
        ⟨[⟨"string", [.literal "it's", .verbatim "3"]⟩]⟩) := by
  decide

/-! ## Literals -/

/-- A literal is scanned as it is read. -/
theorem scanFrom_literal
    (text code : List Char) :
    scanFrom (.literal text) code =
      (readQuoted? code).bind fun (read, rest) =>
        (scanFrom .gap rest).map (.literal (text ++ read) :: ·) := by
  fun_induction readQuoted? code generalizing text with
  | case1 => rfl
  | case2 rest => simp [scanFrom]
  | case3 rest inductionHypothesis =>
      simp only [scanFrom, Char.reduceEq, ↓reduceIte, or_true,
        inductionHypothesis]
      cases readQuoted? rest <;> simp
  | case4 rest inductionHypothesis =>
      simp only [scanFrom, Char.reduceEq, ↓reduceIte, true_or,
        inductionHypothesis]
      cases readQuoted? rest <;> simp
  | case5 character rest notQuote notBackslash notEscaped inductionHypothesis =>
      have goesOn :
          scanFrom (.literal text) (character :: rest) =
            scanFrom (.literal (text ++ [character])) rest := by
        by_cases backslash : character = '\\'
        · subst backslash
          -- The backslash is an ordinary one: no quote and no other
          -- backslash follows it.
          cases rest with
          | nil => rfl
          | cons next more =>
              have ordinary : next ≠ '\'' ∧ next ≠ '\\' :=
                ⟨fun same => notEscaped more rfl (by rw [same]),
                  fun same => notBackslash more rfl (by rw [same])⟩
              simp [scanFrom, ordinary]
        · rw [scanFrom, if_neg notQuote, if_neg backslash]
      rw [goesOn, inductionHypothesis, Option.bind_map]
      cases readQuoted? rest <;> simp

/-- A quoted text is read as it is. -/
theorem readQuoted?_flatMap
    (text rest : List Char) :
    readQuoted? (text.flatMap escapeQuoted ++ '\'' :: rest) =
      some (text, rest) := by
  induction text with
  | nil => rfl
  | cons first more inductionHypothesis =>
      rw [List.flatMap_cons, List.append_assoc]
      by_cases backslash : first = '\\'
      · subst backslash
        simp [escapeQuoted, readQuoted?, inductionHypothesis]
      · by_cases quoted : first = '\''
        · subst quoted
          simp [escapeQuoted, readQuoted?, inductionHypothesis]
        · simp only [escapeQuoted, backslash, quoted, ↓reduceIte,
            List.singleton_append]
          rw [readQuoted?]
          · simp [inductionHypothesis]
          · exact quoted
          · rintro _ rfl
            exact (backslash rfl).elim
          · rintro _ rfl
            exact (backslash rfl).elim

/-! ## Code that is scanned piece by piece -/

section Marks

variable {mark : Char} (isMark : mark ∈ marks)

include isMark

theorem ne_of_mem_marks :
    mark ≠ ' ' ∧ mark ≠ '\'' := by
  constructor
  · rintro rfl
    revert isMark
    decide
  · rintro rfl
    revert isMark
    decide

theorem scanFrom_gap_mark
    (rest : List Char) :
    scanFrom .gap (mark :: rest) =
      (scanFrom .gap rest).map (.mark mark :: ·) := by
  obtain ⟨noBlank, noQuote⟩ := ne_of_mem_marks isMark
  rw [scanFrom, if_neg noBlank, if_neg noQuote,
    if_pos (List.contains_iff_mem.mpr isMark)]

/-- A mark ends a run. -/
theorem scanFrom_run_mark
    (text rest : List Char) :
    scanFrom (.run text) (mark :: rest) =
      (scanFrom .gap (mark :: rest)).map (.run text :: ·) := by
  obtain ⟨noBlank, noQuote⟩ := ne_of_mem_marks isMark
  rw [scanFrom_gap_mark isMark, scanFrom, if_neg noBlank, if_neg noQuote,
    if_pos (List.contains_iff_mem.mpr isMark), Option.map_map]
  rfl

end Marks

theorem not_special_iff
    {character : Char} :
    character ∉ specials ↔
      character ≠ ' ' ∧ character ≠ '\'' ∧
        marks.contains character = false := by
  simp only [specials, List.mem_append, List.mem_pair, not_or,
    Bool.eq_false_iff, ne_eq, List.contains_iff_mem]
  tauto

/-- A run goes on as long as no special character stands there. -/
theorem scanFrom_run_append
    (text : List Char)
    {more : List Char}
    (plain : ∀ character ∈ more, character ∉ specials)
    (rest : List Char) :
    scanFrom (.run text) (more ++ rest) =
      scanFrom (.run (text ++ more)) rest := by
  induction more generalizing text with
  | nil => simp
  | cons first more inductionHypothesis =>
      obtain ⟨isFirst, inMore⟩ := List.forall_mem_cons.mp plain
      obtain ⟨noBlank, noQuote, noMark⟩ := not_special_iff.mp isFirst
      rw [List.cons_append, scanFrom, if_neg noBlank, if_neg noQuote,
        noMark, if_neg Bool.false_ne_true, inductionHypothesis _ inMore]
      simp

/-- Some code has some tokens wherever a mark follows it. -/
def Scans (code : List Char) (tokens : List Token) : Prop :=
  ∀ mark ∈ marks, ∀ rest,
    scanFrom .gap (code ++ mark :: rest) =
      (scanFrom .gap (mark :: rest)).map (tokens ++ ·)

namespace Scans

variable {code more : List Char} {tokens others : List Token}

theorem nil : Scans [] [] := by
  intro mark _ rest
  simp

/-- A plain text is one run. -/
theorem run
    {text : List Char}
    (plain : Plain text) :
    Scans text [.run text] := by
  intro mark isMark rest
  obtain ⟨first, others, rfl⟩ := List.exists_cons_of_ne_nil plain.1
  obtain ⟨isFirst, inOthers⟩ := List.forall_mem_cons.mp plain.2
  obtain ⟨noBlank, noQuote, noMark⟩ := not_special_iff.mp isFirst
  rw [List.cons_append, scanFrom, if_neg noBlank, if_neg noQuote, noMark,
    if_neg Bool.false_ne_true, scanFrom_run_append _ inOthers,
    scanFrom_run_mark isMark]
  rfl

/-- A quoted text is one literal. -/
theorem literal
    (text : String) :
    Scans (quote text).toList [.literal text.toList] := by
  intro mark _ rest
  have shape :
      (quote text).toList ++ mark :: rest =
        '\'' :: (text.toList.flatMap escapeQuoted ++
          '\'' :: mark :: rest) := by
    simp [quote, quoteCharacters]
  rw [shape, scanFrom, if_neg (by decide), if_pos rfl, scanFrom_literal,
    readQuoted?_flatMap]
  rfl

/-- A mark is a token by itself. -/
theorem mark
    {first : Char}
    (isMark : first ∈ marks)
    (scans : Scans code tokens) :
    Scans (first :: code) (.mark first :: tokens) := by
  intro mark isNext rest
  rw [List.cons_append, scanFrom_gap_mark isMark, scans mark isNext rest,
    Option.map_map]
  rfl

/-- A blank in front is no token. -/
theorem blank
    (scans : Scans code tokens) :
    Scans (' ' :: code) tokens := by
  intro mark isNext rest
  rw [List.cons_append, scanFrom, if_pos rfl]
  exact scans mark isNext rest

/-- Code that begins with a mark may follow. -/
theorem append
    (front : Scans code tokens)
    {first : Char}
    (isMark : first ∈ marks)
    (behind : Scans (first :: more) others) :
    Scans (code ++ first :: more) (tokens ++ others) := by
  intro mark isNext rest
  have behindHere := behind mark isNext rest
  rw [List.cons_append] at behindHere
  rw [List.append_assoc, List.cons_append, front first isMark, behindHere,
    Option.map_map]
  congr 1
  funext tail
  simp

/-- Code between two marks, in front of other code. -/
theorem between
    {opening closing : Char}
    (isOpening : opening ∈ marks)
    (isClosing : closing ∈ marks)
    (inside : Scans code tokens)
    (behind : Scans more others) :
    Scans (opening :: (code ++ closing :: more))
      (.mark opening :: (tokens ++ .mark closing :: others)) :=
  mark isOpening (inside.append isClosing (mark isClosing behind))

/-- A mark may be the end of the code. -/
theorem finish
    (scans : Scans code tokens)
    {last : Char}
    (isMark : last ∈ marks) :
    scanFrom .gap (code ++ [last]) = some (tokens ++ [.mark last]) := by
  rw [scans last isMark [], scanFrom_gap_mark isMark]
  rfl

end Scans

/-! ## The text of a statement -/

/-- Items with commas between them are scanned one by one. -/
theorem Scans.separated
    {items : List String}
    {groups : List (List Token)}
    (each :
      List.Forall₂ (fun item tokens => Scans item.toList tokens)
        items groups) :
    Scans (", ".intercalate items).toList (separated groups) := by
  induction each with
  | nil => exact nil
  | @cons item tokens items groups scans others inductionHypothesis =>
      cases others with
      | nil =>
          rw [String.intercalate_singleton]
          exact scans
      | cons =>
          rw [String.intercalate_cons_cons, String.toList_append,
            String.toList_append, List.append_assoc]
          exact scans.append (by decide)
            (mark (by decide) inductionHypothesis.blank)

/-- Quoted texts with commas between them. -/
theorem Scans.literals
    (texts : List String) :
    Scans (", ".intercalate (texts.map quote)).toList
      (Code.separated (texts.map fun text => [.literal text.toList])) := by
  refine separated ?_
  exact List.forall₂_map_left_iff.mpr
    (List.forall₂_map_right_iff.mpr
      (List.forall₂_same.mpr fun text _ => literal text))

/-- A bracketed list of quoted texts. -/
theorem Scans.bracketed
    (texts : List String) :
    Scans (bracketed (texts.map quote)).toList (bracketedTokens texts) := by
  have opening : '[' ∈ marks := by decide
  have closing : ']' ∈ marks := by decide
  rw [Code.bracketed, String.toList_append, String.toList_append,
    List.append_assoc]
  exact between opening closing (literals texts) nil

theorem opensCall : '(' ∈ marks := by decide

theorem closesCall : ')' ∈ marks := by decide

/-- Nothing in the text of an argument reaches beyond the argument. -/
def Argument.Contained : Argument → Prop
  | .literal _ | .literals _ | .expression _ => True
  | .verbatim code => Plain code.toList
  | .enclosed _ | .enclosedList _ => False

theorem Argument.Contained.scans
    {argument : Argument}
    (contained : argument.Contained) :
    Scans argument.text.toList argument.tokens := by
  cases argument with
  | literal text => exact .literal text
  | literals texts => exact .bracketed texts
  | enclosed => exact contained.elim
  | enclosedList => exact contained.elim
  | verbatim code => exact .run contained
  | expression text =>
      have raw : Plain "DB::raw".toList := by decide
      have opened :
          "DB::raw(".toList = "DB::raw".toList ++ ['('] := by
        decide
      have closed : ")".toList = [')'] := by decide
      have inside :=
        Scans.between opensCall closesCall (.literal text) .nil
      rw [Argument.text, String.toList_append, String.toList_append,
        opened, closed, List.append_assoc, List.append_assoc,
        List.singleton_append]
      exact (Scans.run raw).append opensCall inside

/-- A call of a plain method with contained arguments. -/
structure Call.Contained (call : Call) : Prop where
  method : Plain call.method.toList
  arguments : ∀ argument ∈ call.arguments, argument.Contained

namespace Call.Contained

variable {call : Call} {receiver : String} {more : List Char}
  {others : List Token}

/-- A call is scanned in front of whatever comes after it. -/
theorem scans_append
    (contained : call.Contained)
    (plain : receiver.toList.any specials.contains = false)
    (behind : Scans more others) :
    Scans ((receiver ++ call.text).toList ++ more)
      (call.tokens receiver ++ others) := by
  have each :
      List.Forall₂ (fun item tokens => Scans item.toList tokens)
        (call.arguments.map Argument.text)
        (call.arguments.map Argument.tokens) :=
    List.forall₂_map_left_iff.mpr
      (List.forall₂_map_right_iff.mpr
        (List.forall₂_same.mpr fun argument member =>
          (contained.arguments argument member).scans))
  have front : Plain (receiver ++ "->" ++ call.method).toList := by
    refine ⟨by simp, ?_⟩
    simp only [String.toList_append, List.mem_append]
    rintro character ((inReceiver | inArrow) | inMethod)
    · exact not_mem_specials plain character inReceiver
    · exact not_mem_specials (by decide) character inArrow
    · exact contained.method.2 character inMethod
  have shape :
      (receiver ++ call.text).toList ++ more =
        (receiver ++ "->" ++ call.method).toList ++
          '(' :: ((", ".intercalate
            (call.arguments.map Argument.text)).toList ++ ')' :: more) := by
    simp [Call.text]
  have scans :=
    (Scans.run front).append opensCall
      (.between opensCall closesCall (.separated each) behind)
  rw [shape]
  simpa [Call.tokens] using scans

end Call.Contained

/-- Calls that follow each other are scanned one by one. -/
theorem scans_callsText
    {calls : List Call}
    (contained : ∀ call ∈ calls, call.Contained) :
    Scans (callsText calls).toList (calls.flatMap (Call.tokens "")) := by
  induction calls with
  | nil => exact .nil
  | cons call rest inductionHypothesis =>
      obtain ⟨isFirst, inRest⟩ := List.forall_mem_cons.mp contained
      have nothing : "".toList.any specials.contains = false := rfl
      have scans :=
        isFirst.scans_append nothing (inductionHypothesis inRest)
      simpa [callsText] using scans

/-- The text of a statement with contained calls has the tokens that it is
meant to have. -/
theorem Statement.scan_text
    {written : Statement}
    (contained : ∀ call ∈ written.calls, call.Contained) :
    scan written.text = some written.tokens := by
  obtain ⟨calls⟩ := written
  have receiver : "$table".toList.any specials.contains = false := by
    decide
  cases calls with
  | nil => rfl
  | cons first rest =>
      obtain ⟨isFirst, inRest⟩ := List.forall_mem_cons.mp contained
      have semicolon : ';' ∈ marks := by decide
      have scans :=
        (isFirst.scans_append receiver (scans_callsText inRest)).finish
          semicolon
      simpa [scan, text, tokens, callsText] using scans

/-! ## Brackets -/

/-- Tokens that close all the brackets that they open. -/
def Neutral (tokens : List Token) : Prop :=
  ∀ expected rest,
    balancedFrom expected (tokens ++ rest) = balancedFrom expected rest

namespace Neutral

variable {tokens others : List Token}

theorem nil : Neutral [] :=
  fun _ _ => rfl

theorem append
    (front : Neutral tokens)
    (behind : Neutral others) :
    Neutral (tokens ++ others) := by
  intro expected rest
  rw [List.append_assoc, front, behind]

theorem run
    (text : List Char) :
    Neutral [.run text] :=
  fun _ _ => rfl

theorem literal
    (text : List Char) :
    Neutral [.literal text] :=
  fun _ _ => rfl

/-- An opening bracket is to be closed next. -/
theorem balancedFrom_opening
    {opening closing : Char}
    (closes : closing? opening = some closing)
    (expected : List Char)
    (rest : List Token) :
    balancedFrom expected (.mark opening :: rest) =
      balancedFrom (closing :: expected) rest := by
  simp [balancedFrom, closes]

/-- A closing bracket closes the last one that is open. -/
theorem balancedFrom_closing
    {opening closing : Char}
    (closes : closing? opening = some closing)
    (expected : List Char)
    (rest : List Token) :
    balancedFrom (closing :: expected) (.mark closing :: rest) =
      balancedFrom expected rest := by
  unfold closing? at closes
  split at closes
  · cases closes
    rfl
  · cases closes
    rfl
  · cases closes

theorem bracketed
    {opening closing : Char}
    (closes : closing? opening = some closing)
    (inside : Neutral tokens) :
    Neutral (.mark opening :: tokens ++ [.mark closing]) := by
  intro expected rest
  rw [List.cons_append, List.cons_append, balancedFrom_opening closes,
    List.append_assoc, inside, List.singleton_append,
    balancedFrom_closing closes]

theorem parenthesised
    (inside : Neutral tokens) :
    Neutral (.mark '(' :: tokens ++ [.mark ')']) :=
  bracketed rfl inside

theorem comma : Neutral [.mark ','] :=
  fun _ _ => rfl

theorem separated
    {groups : List (List Token)}
    (each : ∀ tokens ∈ groups, Neutral tokens) :
    Neutral (separated groups) := by
  fun_induction Code.separated groups with
  | case1 => exact nil
  | case2 tokens => exact each tokens (by simp)
  | case3 tokens rest _ inductionHypothesis =>
      obtain ⟨isFirst, inRest⟩ := List.forall_mem_cons.mp each
      exact isFirst.append (comma.append (inductionHypothesis inRest))

theorem bracketedTokens
    (texts : List String) :
    Neutral (bracketedTokens texts) := by
  refine bracketed rfl (separated ?_)
  rw [List.forall_mem_map]
  exact fun text _ => literal text.toList

theorem argument
    (argument : Argument) :
    Neutral argument.tokens := by
  cases argument with
  | literal text => exact literal text.toList
  | literals texts => exact bracketedTokens texts
  | enclosed text => exact literal text.toList
  | enclosedList texts => exact bracketedTokens texts
  | verbatim code => exact run code.toList
  | expression text =>
      exact (run "DB::raw".toList).append
        (parenthesised (literal text.toList))

theorem call
    (receiver : String)
    (call : Call) :
    Neutral (call.tokens receiver) := by
  refine (run _).append (parenthesised (separated ?_))
  rw [List.forall_mem_map]
  exact fun argument _ => .argument argument

end Neutral

/-- A statement closes all its brackets. -/
theorem Statement.balanced_tokens
    (written : Statement) :
    balanced written.tokens = true := by
  have semicolon : Neutral [.mark ';'] := fun _ _ => rfl
  have neutral : Neutral written.tokens := by
    obtain ⟨calls⟩ := written
    cases calls with
    | nil => exact (Neutral.run "$table".toList).append semicolon
    | cons first rest =>
        refine ((Neutral.call _ first).append ?_).append semicolon
        induction rest with
        | nil => exact .nil
        | cons call more inductionHypothesis =>
            exact (Neutral.call _ call).append inductionHypothesis
  have whole := neutral [] []
  rw [List.append_nil] at whole
  exact whole

end Tablewright.Code
