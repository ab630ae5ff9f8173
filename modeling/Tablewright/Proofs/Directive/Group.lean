import Tablewright.Proofs.Directive.Chunk
import Tablewright.Proofs.Directive.Cursor
import Tablewright.Proofs.Directive.Listing

namespace Tablewright.Directive

/-!
# Closed groups

A body in brackets is read exactly if a closed group stands at the front of
the text: an opening bracket, chunks, and the closing bracket of the same
kind.  The stack of a reader that is within a group says which texts finish
the group: closed texts, each with the closing bracket that is next on the
stack.
-/

/-- An opening bracket and the closing bracket of the same kind. -/
def OneKind (opener closer : Char) : Prop :=
  closerOf? opener = some closer

/-- A closed group: a closed text between two brackets of one kind. -/
def IsGroup (group : List Char) : Prop :=
  ∃ opener closer inner,
    OneKind opener closer ∧
      Closed OneKind inner ∧
      group = opener :: (inner ++ [closer])

/-- What the reader of groups sees in brackets of one kind. -/
theorem of_oneKind
    {opener closer : Char}
    (pair : OneKind opener closer) :
    (isQuote opener = false ∧ isQuote closer = false) ∧
      closerOf? closer = none ∧
      isCloser closer = true := by
  unfold OneKind closerOf? at pair
  split at pair <;> cases pair <;> decide

/-! ## Closed groups are read -/

/-- Within a group, the reader takes chunks as a whole. -/
theorem takesChunks_readGroup :
    TakesChunks OneKind
      (fun stack : Char × List Char => readGroup (stack.1 :: stack.2))
      takeInGroup where
  quoting := fun stack _ _ rest quotes =>
    readGroup_of_quoting quotes (stack.1 :: stack.2) rest
  single := by
    intro stack character rest loose
    obtain ⟨unquoted, unopened, unclosed⟩ := isLoose_eq_true_iff.mp loose
    exact groupPasses_singleton unquoted unopened unclosed _ rest
  brackets := by
    rintro ⟨closer, outer⟩ opener inner pair
    obtain ⟨⟨unquoted, unquotedInner⟩, unopened, closes⟩ := of_oneKind pair
    have opens : closerOf? opener = some inner := pair
    refine ⟨(inner, closer :: outer), fun rest => ?_, fun rest => ?_⟩
    · simp [readGroup, unquoted, opens, Quoting.next_outside unquoted,
        takeInGroup]
    · simp [readGroup, unquotedInner, unopened, closes,
        Quoting.next_outside unquotedInner, takeInGroup]

/-- A closed text is read up to the bracket behind it. -/
theorem readGroup_closed
    {opener closer : Char}
    (pair : OneKind opener closer)
    {inner : List Char}
    (closed : Closed OneKind inner)
    (rest : List Char) :
    readGroup [closer] .outside (inner ++ closer :: rest) =
      .ok (inner, rest) := by
  obtain ⟨⟨_, unquoted⟩, unopened, closes⟩ := of_oneKind pair
  have last :
      readGroup [closer] .outside (closer :: rest) = .ok ([], rest) :=
    GroupPasses.nil.readGroup_eq unquoted unopened closes rest
  have taken :
      readGroup [closer] .outside (inner ++ closer :: rest) =
        inner.foldr takeInGroup
          (readGroup [closer] .outside (closer :: rest)) :=
    takesChunks_readGroup.read_closed closed (closer, []) (closer :: rest)
  rw [taken, foldr_takeInGroup, last]
  simp [Except.map]

/-! ## What is read is a closed group -/

/-- A text that closes the brackets of a stack, the innermost first, with a
closed text in front of each. -/
inductive Closes : List Char → List Char → Prop where
  | nil : Closes [] []
  | cons {closer : Char} {closers inner rest : List Char}
      (closed : Closed OneKind inner)
      (later : Closes closers rest) :
      Closes (closer :: closers) (inner ++ closer :: rest)

namespace Closes

variable {closers text : List Char}

/-- A chunk in front of the next bracket to come. -/
theorem prepend
    {chunk : List Char}
    (isChunk : Chunk OneKind chunk)
    (within : closers ≠ [])
    (closes : Closes closers text) :
    Closes closers (chunk ++ text) := by
  cases closes with
  | nil => exact (within rfl).elim
  | cons closed later =>
      rw [← List.append_assoc]
      exact .cons (closed.prepend isChunk) later

/-- A loose character in front of the next bracket to come. -/
theorem loose
    {character : Char}
    (isLoose : isLoose character = true)
    (within : closers ≠ [])
    (closes : Closes closers text) :
    Closes closers (character :: text) :=
  show Closes closers ([character] ++ text) from
    closes.prepend (.single isLoose) within

/-- An opening bracket, and behind it a text that closes it and then the other
brackets. -/
theorem opened
    {opener closer : Char}
    (pair : OneKind opener closer)
    (within : closers ≠ [])
    (closes : Closes (closer :: closers) text) :
    Closes closers (opener :: text) := by
  cases closes with
  | @cons _ _ inner rest closed later =>
      have shape : opener :: (inner ++ closer :: rest) =
          opener :: (inner ++ [closer]) ++ rest := by
        simp
      rw [shape]
      exact later.prepend (closed.chunk pair) within

/-- With one bracket on the stack, a closed text and this bracket are left. -/
theorem closed_of_singleton
    {closer : Char}
    {inner : List Char}
    (closes : Closes [closer] (inner ++ [closer])) :
    Closed OneKind inner := by
  generalize shape : inner ++ [closer] = text at closes
  cases closes with
  | cons closed later =>
      cases later
      rw [List.append_cancel_right shape]
      exact closed

end Closes

/-- A text that ends a quotation, if the reader is within one, and then closes
the brackets of a stack. -/
inductive Resumes (closers : List Char) : Quoting → List Char → Prop where
  | outside {text : List Char}
      (closes : Closes closers text) :
      Resumes closers .outside text
  | inside {mark : Char} {text rest : List Char}
      (guarded : Guarded mark text)
      (closes : Closes closers rest) :
      Resumes closers (.inside mark) (text ++ mark :: rest)
  | escaped {mark : Char} {text : List Char} (character : Char)
      (resumes : Resumes closers (.inside mark) text) :
      Resumes closers (.escaped mark) (character :: text)

/-- A character within quotation marks, or a mark, in front of a text that
resumes behind it. -/
theorem Resumes.step
    {closers text : List Char}
    {quoting : Quoting}
    {character : Char}
    (quotes : quoting ≠ .outside ∨ isQuote character = true)
    (within : closers ≠ [])
    (resumes : Resumes closers (quoting.next character) text) :
    Resumes closers quoting (character :: text) := by
  cases quoting with
  | outside =>
      have isMark := quotes.resolve_left (by simp)
      rw [Quoting.next_outside_mark isMark] at resumes
      cases resumes with
      | @inside _ text rest guarded closes =>
          have shape : character :: (text ++ character :: rest) =
              quoted character text ++ rest := by
            simp [quoted]
          rw [shape]
          exact .outside (closes.prepend (.quoted isMark guarded) within)
  | inside mark =>
      by_cases backslash : character = '\\'
      · subst backslash
        cases resumes with
        | escaped next inside =>
            cases inside with
            | inside guarded closes =>
                exact .inside (.escape next guarded) closes
      · by_cases ends : character = mark
        · subst ends
          have closed : Quoting.next (.inside character) character =
              .outside := by
            simp [Quoting.next, backslash]
          rw [closed] at resumes
          cases resumes with
          | outside closes => exact .inside .nil closes
        · rw [Quoting.next_inside ⟨ends, backslash⟩] at resumes
          cases resumes with
          | inside guarded closes =>
              exact .inside (.plain ⟨ends, backslash⟩ guarded) closes
  | escaped mark => exact .escaped character resumes

/-- A reading that takes a character takes it in front of what it reads
behind it. -/
theorem exists_of_takeInGroup
    {character : Char}
    {reading : Reading (List Char × List Char)}
    {inner rest : List Char}
    (read : takeInGroup character reading = .ok (inner, rest)) :
    ∃ others, reading = .ok (others, rest) ∧ inner = character :: others := by
  cases reading with
  | error cause => cases read
  | ok pair =>
      obtain ⟨rfl, rfl⟩ := Prod.mk.inj (Except.ok.inj read)
      exact ⟨pair.1, rfl, rfl⟩

/-- Outside quotation marks, a character that is no mark leaves the reader
outside. -/
theorem outside_of_not_quotes
    {quoting : Quoting}
    {character : Char}
    (plain : ¬ (quoting ≠ .outside ∨ isQuote character = true)) :
    quoting = .outside ∧ quoting.next character = .outside := by
  obtain ⟨isOutside, unquoted⟩ := not_or.mp plain
  obtain rfl := not_not.mp isOutside
  exact ⟨rfl, Quoting.next_outside (Bool.eq_false_iff.mpr unquoted)⟩

/-- What is read, with the outermost bracket of the stack behind it, resumes
where the reader stands. -/
theorem resumes_of_readGroup
    {closers : List Char}
    {last : Char}
    {quoting : Quoting}
    {text inner rest : List Char}
    (read : readGroup closers quoting text = .ok (inner, rest))
    (outermost : closers.getLast? = some last) :
    Resumes closers quoting (inner ++ [last]) := by
  have nonempty : closers ≠ [] := by
    rintro rfl
    cases outermost
  -- The cases are the branches of the reader.  A stack that goes on being
  -- read is not empty, so a chunk that ends here has a bracket behind it.
  fun_induction readGroup closers quoting text generalizing inner rest with
  | case1 => cases read
  | case2 closers quoting character tail continueWith quotes =>
      rename_i later
      obtain ⟨others, found, rfl⟩ := exists_of_takeInGroup read
      exact (later closers found outermost nonempty).step quotes nonempty
  | case3 closers quoting character tail continueWith plain closer opens =>
      rename_i later
      obtain ⟨rfl, outside⟩ := outside_of_not_quotes plain
      obtain ⟨others, found, rfl⟩ := exists_of_takeInGroup read
      -- an opening bracket leaves the bottom of the stack as it is
      have deeper : (closer :: closers).getLast? = some last := by
        rw [List.getLast?_cons, outermost]
        rfl
      have resumes := later _ found deeper (List.cons_ne_nil _ _)
      rw [outside] at resumes
      cases resumes with
      | outside closes => exact .outside (closes.opened opens nonempty)
  | case4 => cases read
  | case5 => cases read
  | case6 quoting character tail plain unopened closes expected outer same
      isLast =>
      obtain ⟨rfl, _⟩ := outside_of_not_quotes plain
      obtain rfl := List.isEmpty_iff.mp isLast
      obtain ⟨rfl, rfl⟩ := Prod.mk.inj (Except.ok.inj read)
      obtain rfl := Option.some.inj outermost
      exact .outside (.cons .nil .nil)
  | case7 quoting character tail continueWith plain unopened closes expected
      outer same nested =>
      rename_i later
      obtain ⟨rfl, outside⟩ := outside_of_not_quotes plain
      obtain rfl := not_not.mp same
      obtain ⟨others, found, rfl⟩ := exists_of_takeInGroup read
      -- the next bracket to come, but not the outermost one
      have nonempty : outer ≠ [] := fun none =>
        nested (List.isEmpty_iff.mpr none)
      have outermostOuter : outer.getLast? = some last := by
        rw [← outermost, List.getLast?_cons,
          List.getLast?_eq_getLast_of_ne_nil nonempty]
        rfl
      have resumes := later outer found outermostOuter nonempty
      rw [outside] at resumes
      cases resumes with
      | outside closes => exact .outside (.cons .nil closes)
  | case8 closers quoting character tail continueWith plain unopened
      unclosed =>
      rename_i later
      obtain ⟨rfl, outside⟩ := outside_of_not_quotes plain
      obtain ⟨_, unquoted⟩ := not_or.mp plain
      obtain ⟨others, found, rfl⟩ := exists_of_takeInGroup read
      have loose : isLoose character = true :=
        isLoose_eq_true_iff.mpr ⟨Bool.eq_false_iff.mpr unquoted, unopened,
          Bool.eq_false_iff.mpr unclosed⟩
      have resumes := later closers found outermost nonempty
      rw [outside] at resumes
      cases resumes with
      | outside closes => exact .outside (closes.loose loose nonempty)

/-- The reader of groups reads the closed texts, each with the bracket that
closes the group behind it. -/
theorem readGroup_eq_ok_iff
    {opener closer : Char}
    (pair : OneKind opener closer)
    {text inner rest : List Char} :
    readGroup [closer] .outside text = .ok (inner, rest) ↔
      Closed OneKind inner ∧ text = inner ++ closer :: rest := by
  constructor
  · intro read
    have resumes := resumes_of_readGroup read rfl
    cases resumes with
    | outside closes =>
        exact ⟨closes.closed_of_singleton, eq_of_readGroup read rfl⟩
  · rintro ⟨closed, rfl⟩
    exact readGroup_closed pair closed rest

/-! ## Bodies in brackets -/

/-- A closed group at the front of a text. -/
structure Leads (group text : List Char) : Prop where
  isGroup : IsGroup group
  front : group <+: text

namespace Delimiters

variable {delimiters : Delimiters}

/-- An inner text with its delimiters. -/
def enclose (delimiters : Delimiters) (inner : List Char) : List Char :=
  delimiters.opener :: (inner ++ [delimiters.closer])

theorem oneKind
    (delimiters : Delimiters) :
    OneKind delimiters.opener delimiters.closer := by
  cases delimiters <;> rfl

/-- A body between delimiters is read as a group. -/
theorem readBody_opener
    (rest : List Char) :
    readBody (delimiters.opener :: rest) =
      (readGroup [delimiters.closer] .outside rest).map
        fun (inner, behind) =>
          (some ⟨delimiters.shape, inner⟩, behind) := by
  cases delimiters <;> rfl

/-- The slice between delimiters is the inner text of the group. -/
theorem enclosed?_opener
    (rest : List Char) :
    enclosed? (delimiters.opener :: rest) =
      some ((readGroup [delimiters.closer] .outside rest).map
        Prod.fst) := by
  cases delimiters <;> exact enclosed?_eq rfl rfl rfl rest

/-- A closed text between delimiters is read whatever comes behind it. -/
theorem read_enclose
    {inner : List Char}
    (closed : Closed OneKind inner)
    (behind : List Char) :
    enclosed? (delimiters.enclose inner ++ behind) = some (.ok inner) ∧
      readBody (delimiters.enclose inner ++ behind) =
        .ok (some ⟨delimiters.shape, inner⟩, behind) := by
  have shape : delimiters.enclose inner ++ behind =
      delimiters.opener :: (inner ++ delimiters.closer :: behind) := by
    simp [enclose]
  rw [shape, enclosed?_opener, readBody_opener,
    readGroup_closed delimiters.oneKind closed]
  exact ⟨rfl, rfl⟩

/-- A closed group that leads a text with an opening delimiter ends with the
closing one. -/
theorem exists_enclose
    {group rest : List Char}
    (leads : Leads group (delimiters.opener :: rest)) :
    ∃ inner, Closed OneKind inner ∧ group = delimiters.enclose inner := by
  obtain ⟨⟨opener, closer, inner, pair, closed, rfl⟩, front⟩ := leads
  obtain ⟨rfl, _⟩ := List.cons_prefix_cons.mp front
  obtain rfl := Option.some.inj (pair.symm.trans delimiters.oneKind)
  exact ⟨inner, closed, rfl⟩

/-- The closed group that leads a text is what is read. -/
theorem enclosed?_of_leads
    {inner rest : List Char}
    (closed : Closed OneKind inner)
    (leads : Leads (delimiters.enclose inner) (delimiters.opener :: rest)) :
    enclosed? (delimiters.opener :: rest) = some (.ok inner) := by
  obtain ⟨behind, whole⟩ := leads.front
  rw [← whole]
  exact (read_enclose closed behind).1

/-- If a group is read, it leads the text. -/
theorem exists_leads
    {inner rest behind : List Char}
    (read :
      readGroup [delimiters.closer] .outside rest = .ok (inner, behind)) :
    ∃ group, Leads group (delimiters.opener :: rest) := by
  obtain ⟨closed, rfl⟩ := (readGroup_eq_ok_iff delimiters.oneKind).mp read
  refine ⟨delimiters.enclose inner,
    ⟨_, _, inner, delimiters.oneKind, closed, rfl⟩, behind, ?_⟩
  simp [enclose]

/--
A body between delimiters is read exactly if a closed group leads the text.

For every text that begins with an opening delimiter, and every tag: the slice
between the brackets is found just if some closed group leads the text.  This
group is the only one, it is the inner text with its delimiters, and it is
read whatever comes behind it.  Otherwise the directive is rejected.
-/
theorem read_iff_leads
    {delimiters : Delimiters}
    {text : List Char}
    (begins : text.head? = some delimiters.opener)
    (tag : String) :
    ((∃ inner, enclosed? text = some (.ok inner)) ↔
        ∃ group, Leads group text) ∧
      (∀ group, Leads group text →
        (∀ other, Leads other text → other = group) ∧
          ∃ inner,
            group = delimiters.enclose inner ∧
              ∀ behind,
                enclosed? (group ++ behind) = some (.ok inner) ∧
                  readBody (group ++ behind) =
                    .ok (some ⟨delimiters.shape, inner⟩, behind)) ∧
      ((¬ ∃ group, Leads group text) →
        ∃ message,
          (enclosed? text).map (Reading.forTag tag) =
              some (.error (.directive tag message)) ∧
            Reading.forTag tag (readBody text) =
              .error (.directive tag message)) := by
  obtain ⟨rest, rfl⟩ := List.head?_eq_some_iff.mp begins
  refine ⟨⟨?_, ?_⟩, ?_, ?_⟩
  · rintro ⟨inner, read⟩
    rw [enclosed?_opener] at read
    obtain ⟨pair, found, _⟩ :=
      Outcome.map_eq_ok_iff.mp (Option.some.inj read)
    exact exists_leads found
  · rintro ⟨group, leads⟩
    obtain ⟨inner, closed, rfl⟩ := exists_enclose leads
    exact ⟨inner, enclosed?_of_leads closed leads⟩
  · intro group leads
    obtain ⟨inner, closed, rfl⟩ := exists_enclose leads
    refine ⟨fun other leadsToo => ?_, inner, rfl, read_enclose closed⟩
    -- both groups are read from the same text
    obtain ⟨otherInner, otherClosed, rfl⟩ := exists_enclose leadsToo
    have same := (enclosed?_of_leads otherClosed leadsToo).symm.trans
      (enclosed?_of_leads closed leads)
    rw [Except.ok.inj (Option.some.inj same)]
  · intro unled
    rw [enclosed?_opener, readBody_opener]
    cases found : readGroup [delimiters.closer] .outside rest with
    | ok pair => exact (unled (exists_leads found)).elim
    | error cause => exact ⟨cause.message, rfl, rfl⟩

/-- A text with a list in it, and brackets and a mark within quotes. -/
def nestedText : List Char :=
  "ref: [')\\'', \"(\"], 2".toList

theorem closed_nestedText : Closed OneKind nestedText := by
  have first : Guarded '\'' [')', '\\', '\''] :=
    .plain (by decide) (.escape '\'' .nil)
  have second : Guarded '"' ['('] := .plain (by decide) .nil
  have items : Closed OneKind (quoted '\'' [')', '\\', '\''] ++
      ([',', ' '] ++ (quoted '"' ['('] ++ []))) :=
    .prepend (.quoted rfl first)
      (.loose (by decide) (.prepend (.quoted rfl second) .nil))
  have list : Chunk OneKind ('[' :: (_ ++ [']'])) := items.chunk rfl
  have number : Closed OneKind (", 2".toList ++ []) :=
    .loose (by decide) .nil
  have whole : Closed OneKind ("ref: ".toList ++ _) :=
    .loose (by decide) (number.prepend list)
  exact whole

/-- A nested body is read up to its closing brace and no further, and a body
with brackets of two kinds is rejected. -/
theorem read_iff_leads_nested :
    let text := curly.enclose nestedText ++ " and (\x7d".toList
    let mixed := ['(', 'a', ']']
    (text.head? = some curly.opener ∧
        Leads (curly.enclose nestedText) text ∧
        (∀ other, Leads other text → other = curly.enclose nestedText) ∧
        enclosed? text = some (.ok nestedText) ∧
        readBody text =
          .ok (some ⟨.block, nestedText⟩, " and (\x7d".toList)) ∧
      (mixed.head? = some round.opener ∧
        (¬ ∃ group, Leads group mixed) ∧
        ∃ message,
          Reading.forTag "hidden" (readBody mixed) =
            .error (.directive "hidden" message)) := by
  intro text mixed
  have begins : text.head? = some curly.opener := rfl
  have leads : Leads (curly.enclose nestedText) text :=
    ⟨⟨'{', '}', nestedText, rfl, closed_nestedText, rfl⟩, _, rfl⟩
  obtain ⟨_, found, _⟩ := read_iff_leads begins "hidden"
  obtain ⟨unique, inner, same, read⟩ := found _ leads
  obtain rfl : nestedText = inner := by
    simpa [enclose] using same
  have beginsMixed : mixed.head? = some round.opener := rfl
  obtain ⟨led, _, rejected⟩ := read_iff_leads beginsMixed "hidden"
  have unread : enclosed? mixed =
      some (.error (.unexpectedCloser ']')) := by
    decide
  have unled : ¬ ∃ group, Leads group mixed := fun leads => by
    obtain ⟨inner, readInner⟩ := led.mpr leads
    rw [unread] at readInner
    cases readInner
  obtain ⟨message, _, failed⟩ := rejected unled
  exact ⟨⟨begins, leads, unique, read _⟩, beginsMixed, unled, message,
    failed⟩

end Delimiters

end Tablewright.Directive
