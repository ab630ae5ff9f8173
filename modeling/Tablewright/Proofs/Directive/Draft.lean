import Tablewright.Directive.Content
import Tablewright.Proofs.Failure
import Tablewright.Proofs.Text.Trim

namespace Tablewright.Directive

/-!
# Drafts of polymorphic declarations

The parts of a polymorphic declaration are read one after another, and what
has been read holds the last value under each key.  A declaration is made from
it just if every part can be read and every required key has a text.
-/

/-! ## Keys -/

/-- What an entry of a polymorphic declaration gives. -/
inductive MorphKey where
  | name
  | cardinality
  | model
  | table
  | accessor
  | chain
  | idColumn
  | typeColumn
  deriving Repr, DecidableEq

namespace MorphKey

def all : List MorphKey :=
  [name, cardinality, model, table, accessor, chain, idColumn, typeColumn]

theorem mem_all
    (key : MorphKey) :
    key ∈ all := by
  cases key <;> decide

/-- The names of a key. -/
def names : MorphKey → List String
  | name => ["name"]
  | cardinality => ["type"]
  | model => ["model"]
  | table => ["table"]
  | accessor => ["as"]
  | chain => ["chain"]
  | idColumn => ["id"]
  | typeColumn => ["type_column", "typeColumn"]

/-- No two keys share a name. -/
theorem eq_of_mem_names
    {key other : MorphKey}
    {text : String}
    (isName : text ∈ key.names)
    (isOther : text ∈ other.names) :
    key = other := by
  have apart :
      ∀ key ∈ all, ∀ other ∈ all, ∀ text ∈ key.names,
        text ∈ other.names → key = other := by
    decide
  exact apart key key.mem_all other other.mem_all text isName isOther

end MorphKey

/-! ## The last value under a key -/

/-- The value of the last pair under one of the names. -/
def lastValue? (names : List String) (pairs : List (String × String)) :
    Option String :=
  (pairs.reverse.find? fun pair => names.contains pair.1).map Prod.snd

theorem lastValue?_concat
    (names : List String)
    (pairs : List (String × String))
    (pair : String × String) :
    lastValue? names (pairs ++ [pair]) =
      if pair.1 ∈ names then some pair.2 else lastValue? names pairs := by
  by_cases isNamed : pair.1 ∈ names
  · simp [lastValue?, isNamed]
  · simp [lastValue?, isNamed]

/-- Pairs that agree about a value have it as the last one. -/
theorem lastValue?_eq
    {names : List String}
    {pairs : List (String × String)}
    {value? : Option String}
    (agree : ∀ pair ∈ pairs, pair.1 ∈ names → value? = some pair.2)
    (given : value?.isSome = true → ∃ pair ∈ pairs, pair.1 ∈ names) :
    lastValue? names pairs = value? := by
  unfold lastValue?
  cases found : pairs.reverse.find? fun pair => names.contains pair.1 with
  | none =>
      cases value? with
      | none => rfl
      | some value =>
          obtain ⟨pair, member, isNamed⟩ := given rfl
          have unnamed :=
            List.find?_eq_none.mp found pair (by simpa using member)
          exact (unnamed (by simpa using isNamed)).elim
  | some pair =>
      have isNamed := List.find?_some found
      have member := List.mem_of_find?_eq_some found
      exact (agree pair (by simpa using member) (by simpa using isNamed)).symm

/-! ## Reading entries -/

/-- The pair that a part of a body stands for, as a polymorphic declaration
reads it. -/
def pairOf? (part : List Char) : Option (String × String) :=
  (splitPair? (Text.trim part)).map fun pair =>
    (String.ofList (Text.trim pair.1), plainText pair.2)

/-- A pair with a known key, and with a known cardinality if it gives one. -/
structure Admissible (pair : String × String) : Prop where
  known : ∃ key : MorphKey, pair.1 ∈ key.names
  typed :
    pair.1 ∈ MorphKey.cardinality.names →
      ∃ cardinality, Relation.Cardinality.parse? pair.2 = some cardinality

theorem admissible_iff
    {key : MorphKey}
    {pair : String × String}
    (isNamed : pair.1 ∈ key.names) :
    Admissible pair ↔
      (key = .cardinality →
        ∃ cardinality,
          Relation.Cardinality.parse? pair.2 = some cardinality) := by
  constructor
  · rintro admissible rfl
    exact admissible.typed isNamed
  · intro typed
    exact ⟨⟨key, isNamed⟩, fun isType =>
      typed (MorphKey.eq_of_mem_names isNamed isType)⟩

namespace MorphDraft

/-- What pairs stand for: the last value under each key. -/
def ofPairs (pairs : List (String × String)) : MorphDraft where
  name := lastValue? MorphKey.name.names pairs
  cardinality :=
    (lastValue? MorphKey.cardinality.names pairs).bind
      Relation.Cardinality.parse?
  model := lastValue? MorphKey.model.names pairs
  table := lastValue? MorphKey.table.names pairs
  accessor := lastValue? MorphKey.accessor.names pairs
  chain := lastValue? MorphKey.chain.names pairs
  idColumn := lastValue? MorphKey.idColumn.names pairs
  typeColumn := lastValue? MorphKey.typeColumn.names pairs

/-- A pair under an unknown key is rejected. -/
theorem exists_put_eq_error
    {text : String}
    (unknown : ∀ key : MorphKey, text ∉ key.names)
    (draft : MorphDraft)
    (value : String) :
    ∃ cause, draft.put text value = .error cause := by
  have absent : text ∉ MorphKey.all.flatMap MorphKey.names := by
    simpa using fun key _ => unknown key
  simp only [MorphKey.all, MorphKey.names, List.flatMap_cons,
    List.flatMap_nil, List.mem_append, List.mem_cons, List.not_mem_nil,
    or_false, not_or] at absent
  unfold put
  split <;> simp_all

/-- A further pair is put into what has been read, or rejected. -/
theorem put_eq_ok_iff
    {pairs : List (String × String)}
    {pair : String × String}
    {draft : MorphDraft} :
    (ofPairs pairs).put pair.1 pair.2 = .ok draft ↔
      Admissible pair ∧ draft = ofPairs (pairs ++ [pair]) := by
  obtain ⟨text, value⟩ := pair
  by_cases known : ∃ key : MorphKey, text ∈ key.names
  · obtain ⟨key, isNamed⟩ := known
    rw [admissible_iff isNamed]
    cases key with
    | cardinality =>
        obtain rfl := List.mem_singleton.mp isNamed
        cases parsed : Relation.Cardinality.parse? value <;>
          simp [put, parsed, ofPairs, lastValue?_concat, MorphKey.names,
            eq_comm]
    | typeColumn =>
        rcases List.mem_pair.mp isNamed with rfl | rfl <;>
          simp [put, ofPairs, lastValue?_concat, MorphKey.names, eq_comm]
    | _ =>
        obtain rfl := List.mem_singleton.mp isNamed
        simp [put, ofPairs, lastValue?_concat, MorphKey.names, eq_comm]
  · have unknown := not_exists.mp known
    obtain ⟨cause, failed⟩ :=
      exists_put_eq_error unknown (ofPairs pairs) value
    simp only [failed, reduceCtorEq, false_iff, not_and]
    exact fun admissible => (known admissible.known).elim

/-- The blanks around a part do not belong to it. -/
theorem add_trim
    (draft : MorphDraft)
    (part : List Char) :
    draft.add (Text.trim part) = draft.add part := by
  simp [add, Text.trim_trim]

/-- A further part is passed if it is blank, and else it is a pair. -/
theorem add_eq_ok_iff
    {pairs : List (String × String)}
    {part : List Char}
    {draft : MorphDraft} :
    (ofPairs pairs).add part = .ok draft ↔
      (Text.trim part = [] ∨ (pairOf? part).isSome = true) ∧
        (∀ pair ∈ pairOf? part, Admissible pair) ∧
        draft = ofPairs (pairs ++ (pairOf? part).toList) := by
  unfold add pairOf?
  dsimp only
  by_cases blank : Text.trim part = []
  · simp [blank, splitPair?, eq_comm]
  · have given : (Text.trim part).isEmpty = false := by simpa using blank
    rw [if_neg (by simp [given])]
    cases found : splitPair? (Text.trim part) with
    | none => simp [blank]
    | some pair =>
        obtain ⟨key, value⟩ := pair
        let pair : String × String :=
          (String.ofList (Text.trim key), plainText value)
        have put : (ofPairs pairs).put pair.1 pair.2 = .ok draft ↔ _ :=
          put_eq_ok_iff
        simpa [pair] using put

/-- Parts are read just if each is blank or an admissible pair, and what is
read holds the last value under each key. -/
theorem foldlM_add_eq_ok_iff
    {parts : List (List Char)}
    {draft : MorphDraft} :
    parts.foldlM add {} = .ok draft ↔
      (∀ part ∈ parts,
        Text.trim part = [] ∨ (pairOf? part).isSome = true) ∧
        (∀ pair ∈ parts.filterMap pairOf?, Admissible pair) ∧
        draft = ofPairs (parts.filterMap pairOf?) := by
  induction parts using List.reverseRecOn generalizing draft with
  | nil =>
      have nothing : ({} : MorphDraft) = ofPairs [] := rfl
      rw [List.foldlM_nil, nothing]
      exact ⟨fun same => ⟨by simp, by simp, (Except.ok.inj same).symm⟩,
        fun ⟨_, _, same⟩ => congrArg Except.ok same.symm⟩
  | append_singleton parts part inductionHypothesis =>
      have pairs :
          (parts ++ [part]).filterMap pairOf? =
            parts.filterMap pairOf? ++ (pairOf? part).toList := by
        cases found : pairOf? part <;> simp [found]
      rw [List.foldlM_append, Outcome.bind_eq_ok_iff, pairs]
      simp only [inductionHypothesis, List.foldlM_cons, List.foldlM_nil,
        bind_pure, List.forall_mem_append, List.forall_mem_singleton,
        Option.mem_toList]
      constructor
      · rintro ⟨_, ⟨read, admissible, rfl⟩, added⟩
        obtain ⟨readLast, admissibleLast, same⟩ := add_eq_ok_iff.mp added
        exact ⟨⟨read, readLast⟩, ⟨admissible, admissibleLast⟩, same⟩
      · rintro ⟨⟨read, readLast⟩, ⟨admissible, admissibleLast⟩, same⟩
        exact ⟨_, ⟨read, admissible, rfl⟩,
          add_eq_ok_iff.mpr ⟨readLast, admissibleLast, same⟩⟩

end MorphDraft

/-! ## Declarations -/

/-- The draft from which a declaration is made. -/
def Morph.draft (morph : Morph) : MorphDraft where
  name := some morph.name
  cardinality := some morph.cardinality
  model := some morph.model
  table := morph.table
  accessor := morph.accessor
  chain := morph.chain
  idColumn := morph.idColumn
  typeColumn := morph.typeColumn

theorem requireText_eq_ok_iff
    {key value : String}
    {given : Option String} :
    requireText key given = .ok value ↔ given = some value ∧ value ≠ "" := by
  cases given with
  | none => simp [requireText]
  | some text =>
      by_cases empty : text = ""
      · rw [requireText, if_pos (by simpa using empty)]
        constructor
        · intro read
          cases read
        · rintro ⟨⟨⟩, given⟩
          exact (given empty).elim
      · have isGiven : text.isEmpty = false := by simpa using empty
        simp only [requireText, isGiven, Bool.false_eq_true, ↓reduceIte,
          Except.ok.injEq, Option.some.injEq]
        exact ⟨fun same => ⟨same, same ▸ empty⟩, fun given => given.1⟩

/-- A draft makes a declaration just if it has everything that is required. -/
theorem MorphDraft.finish_eq_ok_iff
    {draft : MorphDraft}
    {morph : Morph} :
    draft.finish = .ok morph ↔
      draft = morph.draft ∧ morph.name ≠ "" ∧ morph.model ≠ "" := by
  unfold finish
  constructor
  · intro finished
    obtain ⟨name, named, finished⟩ := Outcome.bind_eq_ok_iff.mp finished
    obtain ⟨isName, someName⟩ := requireText_eq_ok_iff.mp named
    cases typed : draft.cardinality with
    | none =>
        rw [typed] at finished
        cases finished
    | some cardinality =>
        rw [typed] at finished
        obtain ⟨_, same, finished⟩ := Outcome.bind_eq_ok_iff.mp finished
        obtain rfl := Except.ok.inj same
        obtain ⟨model, modelled, finished⟩ :=
          Outcome.bind_eq_ok_iff.mp finished
        obtain ⟨isModel, someModel⟩ := requireText_eq_ok_iff.mp modelled
        obtain rfl := Except.ok.inj finished
        refine ⟨?_, someName, someModel⟩
        rw [Morph.draft, ← isName, ← isModel, ← typed]
  · rintro ⟨rfl, someName, someModel⟩
    have named :
        requireText "name" morph.draft.name = .ok morph.name :=
      requireText_eq_ok_iff.mpr ⟨rfl, someName⟩
    have modelled :
        requireText "model" morph.draft.model = .ok morph.model :=
      requireText_eq_ok_iff.mpr ⟨rfl, someModel⟩
    rw [named, modelled]
    rfl

/-- The parts in the body of a directive, if it has one. -/
def partsOf (body : Option Body) : List (List Char) :=
  (body.map fun body => splitTopLevel body.text).getD []

/-- A body is read as a declaration just if its parts can be read and have
the last values of the declaration. -/
theorem readMorph_eq_ok_iff
    {body : Body}
    {morph : Morph} :
    readMorph body = .ok morph ↔
      (∀ part ∈ partsOf body,
        Text.trim part = [] ∨ (pairOf? part).isSome = true) ∧
        (∀ pair ∈ (partsOf body).filterMap pairOf?, Admissible pair) ∧
        MorphDraft.ofPairs ((partsOf body).filterMap pairOf?) =
          morph.draft ∧
        morph.name ≠ "" ∧ morph.model ≠ "" := by
  have parts : partsOf body = splitTopLevel body.text := rfl
  simp only [parts, readMorph, Outcome.bind_eq_ok_iff,
    MorphDraft.foldlM_add_eq_ok_iff, MorphDraft.finish_eq_ok_iff]
  constructor
  · rintro ⟨_, ⟨read, admissible, rfl⟩, finished⟩
    exact ⟨read, admissible, finished⟩
  · rintro ⟨read, admissible, finished⟩
    exact ⟨_, ⟨read, admissible, rfl⟩, finished⟩

/-! ## Deficient declarations -/

/-- A part cannot be read, a required key is not given, or there is an unknown
key or an unknown cardinality. -/
inductive Deficient (parts : List (List Char)) : Prop where
  | unreadable
      {part : List Char}
      (member : part ∈ parts)
      (given : Text.trim part ≠ [])
      (unread : pairOf? part = none)
  | lacks
      {key : MorphKey}
      (required : key ∈ [.name, .cardinality, .model])
      (empty :
        ∀ pair ∈ parts.filterMap pairOf?, pair.1 ∈ key.names → pair.2 = "")
  | unknownKey
      {pair : String × String}
      (member : pair ∈ parts.filterMap pairOf?)
      (unknown : ∀ key : MorphKey, pair.1 ∉ key.names)
  | unknownCardinality
      {pair : String × String}
      (member : pair ∈ parts.filterMap pairOf?)
      (typed : pair.1 ∈ MorphKey.cardinality.names)
      (unknown : Relation.Cardinality.parse? pair.2 = none)

theorem exists_of_lastValue?
    {names : List String}
    {pairs : List (String × String)}
    {value : String}
    (last : lastValue? names pairs = some value) :
    ∃ pair ∈ pairs, pair.1 ∈ names ∧ pair.2 = value := by
  obtain ⟨pair, found, same⟩ := Option.map_eq_some_iff.mp last
  have isNamed := List.find?_some found
  have member := List.mem_of_find?_eq_some found
  exact ⟨pair, by simpa using member, by simpa using isNamed, same⟩

/-- The parts of a declaration that is read are not deficient. -/
theorem not_deficient_of_readMorph
    {body : Body}
    {morph : Morph}
    (read : readMorph body = .ok morph) :
    ¬ Deficient (partsOf body) := by
  obtain ⟨readable, admissible, drafted, someName, someModel⟩ :=
    readMorph_eq_ok_iff.mp read
  rintro (⟨member, given, unread⟩ | ⟨required, empty⟩ |
    ⟨member, unknown⟩ | ⟨member, typed, unknown⟩)
  · have isRead := (readable _ member).resolve_left given
    rw [unread] at isRead
    cases isRead
  · simp only [List.mem_cons, List.not_mem_nil, or_false] at required
    rcases required with rfl | rfl | rfl
    · obtain ⟨pair, member, isNamed, same⟩ :=
        exists_of_lastValue? (congrArg MorphDraft.name drafted)
      exact someName (same.symm.trans (empty pair member isNamed))
    · obtain ⟨value, last, parsed⟩ := Option.bind_eq_some_iff.mp
        (congrArg MorphDraft.cardinality drafted)
      obtain ⟨pair, member, isNamed, rfl⟩ := exists_of_lastValue? last
      have unparsed : Relation.Cardinality.parse? "" = none := by decide
      rw [empty pair member isNamed, unparsed] at parsed
      cases parsed
    · obtain ⟨pair, member, isNamed, same⟩ :=
        exists_of_lastValue? (congrArg MorphDraft.model drafted)
      exact someModel (same.symm.trans (empty pair member isNamed))
  · obtain ⟨key, isNamed⟩ := (admissible _ member).known
    exact unknown key isNamed
  · obtain ⟨cardinality, parsed⟩ := (admissible _ member).typed typed
    rw [unknown] at parsed
    cases parsed

end Tablewright.Directive
