import Tablewright.Proofs.Json.Extent

namespace Tablewright.Json

/-!
# Values that are delivered

The parser delivers values in canonical form, not nested deeper than it is
willing to read, and with integers in a range that 64 bits can hold.
-/

/-- The integers that are kept exactly. -/
def Number.InRange : Number → Prop
  | .integer value => -Nat.pow 2 63 ≤ value ∧ value < Nat.pow 2 64
  | .double _ => True

namespace Value

/-- A value as the parser delivers it: not nested too deeply, with integers in
range and the members of objects in their order. -/
inductive Delivered : Nat → Value → Prop where
  | null
      {depth : Nat} :
      Delivered depth .null
  | boolean
      {depth : Nat}
      {value : Bool} :
      Delivered depth (.boolean value)
  | number
      {depth : Nat}
      {value : Number}
      (inRange : value.InRange) :
      Delivered depth (.number value)
  | string
      {depth : Nat}
      {text : String} :
      Delivered depth (.string text)
  | array
      {depth : Nat}
      {elements : List Value}
      (each : ∀ element ∈ elements, Delivered depth element) :
      Delivered (depth + 1) (.array elements)
  | object
      {depth : Nat}
      {members : List (String × Value)}
      (each : ∀ member ∈ members, Delivered depth member.2)
      (sorted : MembersSorted members) :
      Delivered (depth + 1) (.object members)

/-- The elements of an array, or the values of the members of an object. -/
def parts : Value → List Value
  | .array elements => elements
  | .object members => members.map Prod.snd
  | _ => []

namespace Delivered

variable {depth : Nat} {value : Value}

/-- A value that is delivered keeps within its depth. -/
theorem within
    (delivered : Delivered depth value) :
    value.Within Number.InRange depth := by
  induction delivered with
  | null => exact .null
  | boolean => exact .boolean
  | number inRange => exact .number inRange
  | string => exact .string
  | array _ inductionHypothesis => exact .array inductionHypothesis
  | object _ _ inductionHypothesis => exact .object inductionHypothesis

/-- A value that is delivered is in canonical form. -/
theorem canonical_eq
    (delivered : Delivered depth value) :
    value.canonical = value := by
  induction delivered with
  | null => exact canonical_null
  | boolean => exact canonical_boolean _
  | number _ => exact canonical_number _
  | string => exact canonical_string _
  | array _ inductionHypothesis =>
      exact canonical_array_of_forall inductionHypothesis
  | object _ sorted inductionHypothesis =>
      exact canonical_object_of_forall inductionHypothesis sorted

/-- A greater depth leaves room as well. -/
theorem mono
    (delivered : Delivered depth value)
    {deeper : Nat}
    (atMost : depth ≤ deeper) :
    Delivered deeper value := by
  induction delivered generalizing deeper with
  | null => exact .null
  | boolean => exact .boolean
  | number inRange => exact .number inRange
  | string => exact .string
  | array _ inductionHypothesis =>
      obtain ⟨room, rfl⟩ := Nat.exists_eq_add_of_lt atMost
      exact .array fun element member =>
        inductionHypothesis element member (by omega)
  | object _ sorted inductionHypothesis =>
      obtain ⟨room, rfl⟩ := Nat.exists_eq_add_of_lt atMost
      exact .object
        (fun member inMembers =>
          inductionHypothesis member inMembers (by omega)) sorted

/-- The parts of a value that is delivered are delivered. -/
theorem of_mem_parts
    (delivered : Delivered (depth + 1) value)
    {part : Value}
    (member : part ∈ value.parts) :
    Delivered depth part := by
  cases delivered with
  | null => cases member
  | boolean => cases member
  | number _ => cases member
  | string => cases member
  | array each => exact each part member
  | object each _ =>
      obtain ⟨held, inMembers, rfl⟩ := List.mem_map.mp member
      exact each held inMembers

end Delivered

end Value

namespace Parser

/-! ## Numbers -/

/-- Collected digits never exceed the limit. -/
theorem significand_foldl_addWhole_le
    (digits : List Char)
    {collected : Collected}
    (atMost : collected.significand ≤ significandLimit) :
    (digits.foldl Collected.addWhole collected).significand ≤
      significandLimit := by
  induction digits generalizing collected with
  | nil => exact atMost
  | cons digit rest inductionHypothesis =>
      refine inductionHypothesis ?_
      unfold Collected.addWhole
      dsimp only
      split
      · exact atMost
      · rename_i room
        rw [Bool.or_eq_true, not_or, decide_eq_true_eq, not_lt] at room
        exact room.2

/-- A number without point and exponent is in range. -/
theorem inRange_of_wholeNumber?
    {negative : Bool}
    {collected : Collected}
    (atMost : collected.significand ≤ significandLimit)
    {number : Number}
    (read : wholeNumber? negative collected = some number) :
    number.InRange := by
  unfold wholeNumber? at read
  dsimp only at read
  split at read
  · obtain ⟨double, _, rfl⟩ := Option.map_eq_some_iff.mp read
    trivial
  · rename_i isInteger
    obtain rfl := Option.some.inj read
    have limit : significandLimit = 2 ^ 64 - 1 := by decide
    rw [limit] at atMost
    cases negative with
    | false =>
        simp only [Number.InRange, Bool.false_eq_true, ↓reduceIte,
          Nat.pow_eq]
        omega
    | true =>
        simp only [Bool.true_and, Bool.or_eq_true, decide_eq_true_eq,
          not_or, Nat.pow_eq, not_lt] at isInteger
        simp only [Number.InRange, ↓reduceIte, Nat.pow_eq]
        omega

/-- A number whose sign has been read is in range. -/
theorem inRange_of_unsignedNumber?
    {negative : Bool}
    {input rest : List Char}
    {number : Number}
    (read : unsignedNumber? negative input = some (number, rest)) :
    number.InRange := by
  unfold unsignedNumber? at read
  split at read
  · cases read
  · rename_i digits behind _ _
    dsimp only at read
    split at read
    · cases read
    · obtain ⟨⟨fraction, afterFraction⟩, _, read⟩ :=
        Option.bind_eq_some_iff.mp read
      obtain ⟨⟨exponent, afterExponent⟩, _, read⟩ :=
        Option.bind_eq_some_iff.mp read
      dsimp only at read
      split at read
      · obtain ⟨whole, isWhole, same⟩ := Option.map_eq_some_iff.mp read
        obtain ⟨rfl, rfl⟩ := Prod.mk.inj same
        exact inRange_of_wholeNumber?
          (significand_foldl_addWhole_le digits (Nat.zero_le _)) isWhole
      · obtain ⟨double, _, same⟩ := Option.map_eq_some_iff.mp read
        obtain ⟨rfl, rfl⟩ := Prod.mk.inj same
        trivial

/-- Every number that is read is in range. -/
theorem inRange_of_number?
    {input rest : List Char}
    {number : Number}
    (read : number? input = some (number, rest)) :
    number.InRange := by
  unfold number? at read
  split at read
  · exact inRange_of_unsignedNumber? read
  · exact inRange_of_unsignedNumber? read

/-! ## Values -/

/-- What the three readers deliver when they have a certain amount of fuel. -/
structure Delivers (fuel : Nat) : Prop where
  value :
    ∀ {depth : Nat} {input rest : List Char} {value : Value},
      value? fuel depth input = some (value, rest) →
      value.Delivered depth
  elements :
    ∀ {depth : Nat} {input rest : List Char} {elements : List Value},
      elements? fuel depth input = some (elements, rest) →
      ∀ element ∈ elements, element.Delivered depth
  members :
    ∀ {depth : Nat} {input rest : List Char}
      {members : List (String × Value)},
      members? fuel depth input = some (members, rest) →
      ∀ member ∈ members, member.2.Delivered depth

namespace Delivers

variable {fuel : Nat} (delivers : Delivers fuel)

include delivers

/-- A value is delivered if its parts are. -/
theorem value_succ
    {depth : Nat}
    {input rest : List Char}
    {value : Value}
    (read : value? (fuel + 1) depth input = some (value, rest)) :
    value.Delivered depth := by
  rw [value?] at read
  split at read
  · obtain ⟨rfl, _⟩ := Prod.mk.inj (Option.some.inj read)
    exact .null
  · obtain ⟨rfl, _⟩ := Prod.mk.inj (Option.some.inj read)
    exact .boolean
  · obtain ⟨rfl, _⟩ := Prod.mk.inj (Option.some.inj read)
    exact .boolean
  · obtain ⟨⟨text, _⟩, _, same⟩ := Option.map_eq_some_iff.mp read
    obtain ⟨rfl, _⟩ := Prod.mk.inj same
    exact .string
  · split at read
    · cases read
    · split at read
      · obtain ⟨rfl, _⟩ := Prod.mk.inj (Option.some.inj read)
        exact .array fun _ member => (List.not_mem_nil member).elim
      · obtain ⟨⟨elements, _⟩, found, same⟩ :=
          Option.map_eq_some_iff.mp read
        obtain ⟨rfl, _⟩ := Prod.mk.inj same
        exact .array (delivers.elements found)
  · split at read
    · cases read
    · split at read
      · obtain ⟨rfl, _⟩ := Prod.mk.inj (Option.some.inj read)
        exact .object (fun _ member => (List.not_mem_nil member).elim)
          List.Pairwise.nil
      · obtain ⟨⟨members, _⟩, found, same⟩ :=
          Option.map_eq_some_iff.mp read
        obtain ⟨rfl, _⟩ := Prod.mk.inj same
        exact .object
          (fun member inSorted =>
            delivers.members found member (mem_sortMembers inSorted))
          (sortMembers_sorted members)
  · obtain ⟨⟨number, _⟩, found, same⟩ := Option.map_eq_some_iff.mp read
    obtain ⟨rfl, _⟩ := Prod.mk.inj same
    exact .number (inRange_of_number? found)

/-- Elements are delivered one after the other. -/
theorem elements_succ
    {depth : Nat}
    {input rest : List Char}
    {elements : List Value}
    (read : elements? (fuel + 1) depth input = some (elements, rest)) :
    ∀ element ∈ elements, element.Delivered depth := by
  rw [elements?] at read
  split at read
  · cases read
  · rename_i first _ found
    have firstDelivered := delivers.value found
    split at read
    · obtain ⟨rfl, _⟩ := Prod.mk.inj (Option.some.inj read)
      simpa using firstDelivered
    · obtain ⟨⟨others, _⟩, more, same⟩ := Option.map_eq_some_iff.mp read
      obtain ⟨rfl, _⟩ := Prod.mk.inj same
      exact List.forall_mem_cons.mpr
        ⟨firstDelivered, delivers.elements more⟩
    · cases read

/-- Members are delivered one after the other. -/
theorem members_succ
    {depth : Nat}
    {input rest : List Char}
    {members : List (String × Value)}
    (read : members? (fuel + 1) depth input = some (members, rest)) :
    ∀ member ∈ members, member.2.Delivered depth := by
  rw [members?] at read
  split at read
  · split at read
    · cases read
    · split at read
      · split at read
        · cases read
        · rename_i value _ found
          have firstDelivered := delivers.value found
          dsimp only at read
          split at read
          · obtain ⟨rfl, _⟩ := Prod.mk.inj (Option.some.inj read)
            simpa using firstDelivered
          · obtain ⟨⟨others, _⟩, more, same⟩ :=
              Option.map_eq_some_iff.mp read
            obtain ⟨rfl, _⟩ := Prod.mk.inj same
            exact List.forall_mem_cons.mpr
              ⟨firstDelivered, delivers.members more⟩
          · cases read
      · cases read
  · cases read

end Delivers

/-- The readers deliver whatever fuel they have. -/
theorem delivers (fuel : Nat) : Delivers fuel := by
  induction fuel with
  | zero =>
      constructor
      · intro _ _ _ _ read
        rw [value?] at read
        cases read
      · intro _ _ _ _ read
        rw [elements?] at read
        cases read
      · intro _ _ _ _ read
        rw [members?] at read
        cases read
  | succ fuel inductionHypothesis =>
      exact ⟨inductionHypothesis.value_succ,
        inductionHypothesis.elements_succ,
        inductionHypothesis.members_succ⟩

end Parser

/-- Every text that is read as a value delivers it. -/
theorem delivered_of_parse?
    {text : String}
    {value : Value}
    (read : parse? text = some value) :
    value.Delivered Parser.depthLimit := by
  unfold parse? at read
  dsimp only at read
  split at read
  · rename_i found
    split at read
    · obtain rfl := Option.some.inj read
      exact (Parser.delivers _).value found
    · cases read
  · cases read

end Tablewright.Json
