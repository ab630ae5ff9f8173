import Tablewright.Json.Shape
import Tablewright.Proofs.Failure
import Tablewright.Proofs.Json.Delivery
import Tablewright.Schema.Writer

namespace Tablewright.Json.Decoder

/-!
# Decoding by shape

What a decoder makes of a value stems from the parts of the value.  A record
keeps whatever holds before its members are read and is kept by each of them,
so what it holds in one place has been there or has been read from a part.
Names, texts, options and sequences are decoded from what they are encoded as.
-/

/-! ## Where decoded contents stem from -/

section Record

variable {ρ : Type} {motive : ρ → Prop} {members : List (Member ρ)}

/-- What every member keeps is kept by an object. -/
theorem readObject_induction
    {given : List (String × Value)}
    {held result : ρ}
    (read : readObject members given held = .ok result)
    (base : motive held)
    (kept :
      ∀ member ∈ members, ∀ part ∈ given.map Prod.snd, ∀ before after,
        motive before → member.read part before = .ok after →
        motive after) :
    motive result := by
  induction given generalizing held with
  | nil =>
      obtain rfl := Except.ok.inj read
      exact base
  | cons first rest inductionHypothesis =>
      have later :
          ∀ member ∈ members, ∀ part ∈ rest.map Prod.snd,
            ∀ before after,
              motive before → member.read part before = .ok after →
              motive after :=
        fun member isMember part inRest =>
          kept member isMember part (List.mem_cons_of_mem _ inRest)
      rw [readObject] at read
      split at read
      · exact inductionHypothesis read base later
      · rename_i member found
        obtain ⟨next, stepped, read⟩ := Outcome.bind_eq_ok_iff.mp read
        exact inductionHypothesis read
          (kept member (List.mem_of_find?_eq_some found) first.2
            List.mem_cons_self held next base stepped)
          later

/-- What every member keeps is kept by an array. -/
theorem readArray_induction
    {expected : String}
    {position : Nat}
    {elements : List Value}
    {held result : ρ}
    (read :
      readArray expected position members elements held = .ok result)
    (base : motive held)
    (kept :
      ∀ member ∈ members, ∀ part ∈ elements, ∀ before after,
        motive before → member.read part before = .ok after →
        motive after) :
    motive result := by
  induction members generalizing position elements held with
  | nil =>
      rw [readArray] at read
      obtain rfl := Except.ok.inj read
      exact base
  | cons member others inductionHypothesis =>
      cases elements with
      | nil =>
          rw [readArray] at read
          split at read
          · cases read
          · exact inductionHypothesis read base
              fun other isMember =>
                kept other (List.mem_cons_of_mem _ isMember)
      | cons first rest =>
          rw [readArray] at read
          obtain ⟨next, stepped, read⟩ := Outcome.bind_eq_ok_iff.mp read
          exact inductionHypothesis read
            (kept member List.mem_cons_self first List.mem_cons_self held
              next base stepped)
            fun other isMember part inRest =>
              kept other (List.mem_cons_of_mem _ isMember) part
                (List.mem_cons_of_mem _ inRest)

/-- What every member keeps is kept by a record. -/
theorem record_induction
    {name : String}
    {start result : ρ}
    {value : Value}
    (decoded : record name members start value = .ok result)
    (base : motive start)
    (kept :
      ∀ member ∈ members, ∀ part ∈ value.parts, ∀ before after,
        motive before → member.read part before = .ok after →
        motive after) :
    motive result := by
  unfold record at decoded
  split at decoded
  · obtain ⟨held, read, rest⟩ := Outcome.bind_eq_ok_iff.mp decoded
    split at rest
    · cases rest
    · obtain rfl := Except.ok.inj rest
      exact readObject_induction read base kept
  · obtain ⟨held, read, rest⟩ := Outcome.bind_eq_ok_iff.mp decoded
    split at rest
    · cases rest
    · obtain rfl := Except.ok.inj rest
      exact readArray_induction read base kept
  · cases decoded

/-- A place of a record holds what it holds at the start, or what a part of the
value has been decoded as, if no member stores anything else there. -/
theorem exists_part_of_record
    {α : Type}
    {decode : Decoder α}
    {place : ρ → α}
    (stores :
      ∀ member ∈ members, ∀ part before after,
        member.read part before = .ok after →
        place after = place before ∨ decode part = .ok (place after))
    {name : String}
    {start result : ρ}
    {value : Value}
    (decoded : record name members start value = .ok result) :
    place result = place start ∨
      ∃ part ∈ value.parts, decode part = .ok (place result) := by
  refine record_induction (motive := fun held =>
    place held = place start ∨
      ∃ part ∈ value.parts, decode part = .ok (place held))
    decoded (Or.inl rfl) ?_
  intro member isMember part inParts before after stems stepped
  rcases stores member isMember part before after stepped with same | stored
  · rw [same]
    exact stems
  · exact Or.inr ⟨part, inParts, stored⟩

end Record

/-- Every content of a sequence is decoded from a part of it. -/
theorem exists_part_of_sequence
    {α : Type}
    {decode : Decoder α}
    {value : Value}
    {contents : List α}
    (decoded : sequence decode value = .ok contents)
    {content : α}
    (member : content ∈ contents) :
    ∃ part ∈ value.parts, decode part = .ok content := by
  unfold sequence at decoded
  split at decoded
  · exact Outcome.exists_of_mem_mapM decoded member
  · cases decoded

/-- A content that is there is decoded from a value that is not null. -/
theorem of_nullable_eq_some
    {α : Type}
    {decode : Decoder α}
    {value : Value}
    {content : α}
    (decoded : nullable decode value = .ok (some content)) :
    value ≠ .null ∧ decode value = .ok content := by
  unfold nullable at decoded
  split at decoded
  · cases decoded
  · rename_i notNull
    obtain ⟨found, made, same⟩ := Outcome.map_eq_ok_iff.mp decoded
    obtain rfl := Option.some.inj same
    exact ⟨notNull, made⟩

/-! ## Decoding what was encoded -/

section Encoded

variable {α : Type} {decode : Decoder α} {encode : α → Value}

/-- An option is decoded from what it is encoded as if its content is and is
not encoded as null. -/
theorem nullable_canonical
    {content : Option α}
    (decodes :
      ∀ given ∈ content, decode (encode given).canonical = .ok given)
    (notNull : ∀ given ∈ content, (encode given).canonical ≠ .null) :
    nullable decode (Value.ofOption encode content).canonical =
      .ok content := by
  cases content with
  | none =>
      rw [Value.ofOption, Value.canonical_null]
      rfl
  | some given =>
      have decoded := decodes given rfl
      have isSome := notNull given rfl
      rw [Value.ofOption]
      unfold nullable
      split
      · rename_i isNull
        exact (isSome isNull).elim
      · rw [decoded]
        rfl

/-- A list is decoded from what it is encoded as if its elements are. -/
theorem sequence_canonical
    {contents : List α}
    (decodes :
      ∀ content ∈ contents,
        decode (encode content).canonical = .ok content) :
    sequence decode (Value.array (contents.map encode)).canonical =
      .ok contents := by
  rw [Value.canonical_array, List.map_map]
  change (contents.map _).mapM decode = .ok contents
  induction contents with
  | nil => rfl
  | cons first rest inductionHypothesis =>
      obtain ⟨decoded, others⟩ := List.forall_mem_cons.mp decodes
      rw [List.map_cons, List.mapM_cons, inductionHypothesis others,
        Function.comp_apply, decoded]
      rfl

/-- A list of any values is decoded as it is. -/
@[simp] theorem sequence_any (values : List Value) :
    sequence any (.array values) = .ok values := by
  change
    values.mapM (fun value => (pure (id value) : Except ShapeFault _)) = _
  rw [List.mapM_pure, List.map_id]
  rfl

@[simp] theorem texts_canonical (contents : List String) :
    sequence text (Value.ofTexts contents).canonical = .ok contents :=
  sequence_canonical fun content _ => by
    rw [Value.canonical_string]
    rfl

@[simp] theorem optionalText_canonical (content : Option String) :
    nullable text (Schema.textJson content).canonical = .ok content :=
  nullable_canonical
    (fun given _ => by
      rw [Value.canonical_string]
      rfl)
    fun given _ isNull => by
      rw [Value.canonical_string] at isNull
      cases isNull

/-- A named variant is decoded from its name if no variant before it has the
same name. -/
theorem variant_canonical
    [DecidableEq α]
    {named : List (String × α)}
    {content : α}
    (found :
      named.lookup (Schema.nameIn named content) = some content) :
    variant named (Schema.namedJson named content).canonical =
      .ok content := by
  rw [Schema.namedJson, Value.canonical_string]
  change variantNamed named (Schema.nameIn named content) = .ok content
  rw [variantNamed, found]

end Encoded

end Tablewright.Json.Decoder
