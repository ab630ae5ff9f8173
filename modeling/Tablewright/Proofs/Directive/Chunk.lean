import Tablewright.Proofs.Directive.Quoted

namespace Tablewright.Directive

/-!
# Chunks of a body

A body whose brackets and quotation marks are all closed falls into chunks:
characters that are neither, quoted texts, and groups of chunks between two
brackets that belong together.  A reader that takes characters one by one and
is behind a pair of brackets as it was in front of it takes every chunk as a
whole, however deep it is nested.
-/

/-- Whether a character is neither a bracket nor a quotation mark. -/
def isLoose (character : Char) : Bool :=
  !isQuote character && (closerOf? character).isNone && !isCloser character

theorem isLoose_eq_true_iff
    {character : Char} :
    isLoose character = true ↔
      isQuote character = false ∧
        closerOf? character = none ∧
        isCloser character = false := by
  simp [isLoose, and_assoc]

/-- A chunk of a body, given which brackets belong together. -/
inductive Chunk (pairs : Char → Char → Prop) : List Char → Prop where
  /-- A character that is neither a bracket nor a quotation mark. -/
  | single {character : Char}
      (loose : isLoose character = true) :
      Chunk pairs [character]
  /-- A text in quotation marks. -/
  | quoted {mark : Char} {text : List Char}
      (isMark : isQuote mark = true)
      (guarded : Guarded mark text) :
      Chunk pairs (quoted mark text)
  /-- Chunks between two brackets. -/
  | group {opener closer : Char} {chunks : List (List Char)}
      (pair : pairs opener closer)
      (inside : ∀ chunk ∈ chunks, Chunk pairs chunk) :
      Chunk pairs (opener :: (chunks.flatten ++ [closer]))

/-- A text that falls into chunks: its brackets and quotation marks are
closed. -/
def Closed (pairs : Char → Char → Prop) (text : List Char) : Prop :=
  ∃ chunks : List (List Char),
    (∀ chunk ∈ chunks, Chunk pairs chunk) ∧ text = chunks.flatten

namespace Closed

variable {pairs : Char → Char → Prop} {text : List Char}

theorem nil : Closed pairs [] :=
  ⟨[], by simp, rfl⟩

/-- A chunk in front of a closed text. -/
theorem prepend
    {chunk : List Char}
    (isChunk : Chunk pairs chunk)
    (closed : Closed pairs text) :
    Closed pairs (chunk ++ text) := by
  obtain ⟨chunks, areChunks, rfl⟩ := closed
  exact ⟨chunk :: chunks, List.forall_mem_cons.mpr ⟨isChunk, areChunks⟩,
    rfl⟩

/-- Loose characters in front of a closed text. -/
theorem loose
    {front : List Char}
    (areLoose : front.all isLoose = true)
    (closed : Closed pairs text) :
    Closed pairs (front ++ text) := by
  induction front with
  | nil => exact closed
  | cons character front inductionHypothesis =>
      obtain ⟨isFirst, areOthers⟩ := Bool.and_eq_true_iff.mp areLoose
      have whole : Closed pairs ([character] ++ (front ++ text)) :=
        (inductionHypothesis areOthers).prepend (.single isFirst)
      exact whole

/-- A closed text between brackets that belong together is a chunk. -/
theorem chunk
    (closed : Closed pairs text)
    {opener closer : Char}
    (pair : pairs opener closer) :
    Chunk pairs (opener :: (text ++ [closer])) := by
  obtain ⟨chunks, areChunks, rfl⟩ := closed
  exact .group pair areChunks

end Closed

/-! ## Readers of chunks -/

/-- A reader that takes characters one by one and is behind brackets that
belong together as it was in front of them. -/
structure TakesChunks
    {State Result : Type}
    (pairs : Char → Char → Prop)
    (read : State → Quoting → List Char → Result)
    (take : Char → Result → Result) : Prop where
  quoting :
    ∀ state quoting character rest,
      quoting ≠ .outside ∨ isQuote character = true →
        read state quoting (character :: rest) =
          take character (read state (quoting.next character) rest)
  single :
    ∀ state character rest,
      isLoose character = true →
        read state .outside (character :: rest) =
          take character (read state .outside rest)
  brackets :
    ∀ state opener closer,
      pairs opener closer →
        ∃ within,
          (∀ rest,
            read state .outside (opener :: rest) =
              take opener (read within .outside rest)) ∧
          ∀ rest,
            read within .outside (closer :: rest) =
              take closer (read state .outside rest)

/-- A reader that takes texts as a whole takes them one after another. -/
theorem read_flatten
    {Result : Type}
    {read : List Char → Result}
    {take : Char → Result → Result}
    {texts : List (List Char)}
    (takes :
      ∀ text ∈ texts, ∀ rest,
        read (text ++ rest) = text.foldr take (read rest))
    (rest : List Char) :
    read (texts.flatten ++ rest) = texts.flatten.foldr take (read rest) := by
  induction texts with
  | nil => rfl
  | cons text texts inductionHypothesis =>
      obtain ⟨takesFirst, takesOthers⟩ := List.forall_mem_cons.mp takes
      rw [List.flatten_cons, List.append_assoc, takesFirst,
        inductionHypothesis takesOthers, List.foldr_append]

namespace TakesChunks

variable {State Result : Type} {pairs : Char → Char → Prop}
  {read : State → Quoting → List Char → Result}
  {take : Char → Result → Result}

/-- Chunks are taken as a whole. -/
theorem read_chunk
    (takes : TakesChunks pairs read take)
    {chunk : List Char}
    (isChunk : Chunk pairs chunk)
    (state : State)
    (rest : List Char) :
    read state .outside (chunk ++ rest) =
      chunk.foldr take (read state .outside rest) := by
  induction isChunk generalizing state rest with
  | single loose => exact takes.single state _ rest loose
  | quoted isMark guarded =>
      exact read_quoted (takes.quoting state) isMark guarded rest
  | @group opener closer chunks pair inside inductionHypothesis =>
      obtain ⟨within, opened, closed⟩ :=
        takes.brackets state opener closer pair
      have inner := read_flatten
        (fun chunk member => inductionHypothesis chunk member within)
        (closer :: rest)
      rw [List.cons_append, opened, List.append_assoc,
        List.singleton_append, inner, closed, List.foldr_cons,
        List.foldr_append]
      rfl

/-- A closed text is taken as a whole. -/
theorem read_closed
    (takes : TakesChunks pairs read take)
    {text : List Char}
    (closed : Closed pairs text)
    (state : State)
    (rest : List Char) :
    read state .outside (text ++ rest) =
      text.foldr take (read state .outside rest) := by
  obtain ⟨chunks, areChunks, rfl⟩ := closed
  exact read_flatten
    (fun chunk member => takes.read_chunk (areChunks chunk member) state)
    rest

end TakesChunks

end Tablewright.Directive
