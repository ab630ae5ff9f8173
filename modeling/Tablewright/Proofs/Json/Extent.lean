import Tablewright.Proofs.Json.Canonical

namespace Tablewright.Json

/-!
# Extent of values

How deep the arrays and objects of a value are nested, and which numbers it
holds.
-/

namespace Value

/-- A value has at most so many arrays and objects inside each other, and all
of its numbers are good. -/
inductive Within (good : Number → Prop) : Nat → Value → Prop where
  | null
      {depth : Nat} :
      Within good depth .null
  | boolean
      {depth : Nat}
      {value : Bool} :
      Within good depth (.boolean value)
  | number
      {depth : Nat}
      {value : Number}
      (isGood : good value) :
      Within good depth (.number value)
  | string
      {depth : Nat}
      {text : String} :
      Within good depth (.string text)
  | array
      {depth : Nat}
      {elements : List Value}
      (each : ∀ element ∈ elements, Within good depth element) :
      Within good (depth + 1) (.array elements)
  | object
      {depth : Nat}
      {members : List (String × Value)}
      (each : ∀ member ∈ members, Within good depth member.2) :
      Within good (depth + 1) (.object members)

mutual

/-- The numbers in a value. -/
def numbers : Value → List Number
  | .number value => [value]
  | .array elements => numbersOfElements elements
  | .object members => numbersOfMembers members
  | .null => []
  | .boolean _ => []
  | .string _ => []

/-- The numbers in elements. -/
def numbersOfElements : List Value → List Number
  | [] => []
  | first :: rest => first.numbers ++ numbersOfElements rest

/-- The numbers in members. -/
def numbersOfMembers : List (String × Value) → List Number
  | [] => []
  | (_, value) :: rest => value.numbers ++ numbersOfMembers rest

end

/-- The numbers of an element are numbers of the elements. -/
theorem numbers_subset_elements
    {elements : List Value}
    {element : Value}
    (member : element ∈ elements) :
    element.numbers ⊆ numbersOfElements elements := by
  induction elements with
  | nil => cases member
  | cons first rest inductionHypothesis =>
      rw [numbersOfElements]
      rcases List.mem_cons.mp member with rfl | later
      · exact List.subset_append_left _ _
      · exact List.subset_append_of_subset_right _
          (inductionHypothesis later)

/-- The numbers of a member are numbers of the members. -/
theorem numbers_subset_members
    {members : List (String × Value)}
    {member : String × Value}
    (inMembers : member ∈ members) :
    member.2.numbers ⊆ numbersOfMembers members := by
  induction members with
  | nil => cases inMembers
  | cons first rest inductionHypothesis =>
      rw [numbersOfMembers]
      rcases List.mem_cons.mp inMembers with rfl | later
      · exact List.subset_append_left _ _
      · exact List.subset_append_of_subset_right _
          (inductionHypothesis later)

namespace Within

variable {good better : Number → Prop} {depth : Nat} {value : Value}

@[simp] theorem within_null : Within good depth .null := .null

@[simp] theorem within_boolean (flag : Bool) :
    Within good depth (.boolean flag) := .boolean

@[simp] theorem within_string (text : String) :
    Within good depth (.string text) := .string

@[simp] theorem within_array_iff {elements : List Value} :
    Within good (depth + 1) (.array elements) ↔
      ∀ element ∈ elements, Within good depth element :=
  ⟨fun | .array each => each, .array⟩

@[simp] theorem within_object_iff {members : List (String × Value)} :
    Within good (depth + 1) (.object members) ↔
      ∀ member ∈ members, Within good depth member.2 :=
  ⟨fun | .object each => each, .object⟩

/-- Good numbers may turn out to be better ones. -/
theorem improve
    (within : Within good depth value)
    (improved :
      ∀ number ∈ value.numbers, good number → better number) :
    Within better depth value := by
  induction within with
  | null => exact .null
  | boolean => exact .boolean
  | number isGood =>
      exact .number
        (improved _ (by rw [numbers]; exact List.mem_singleton_self _)
          isGood)
  | string => exact .string
  | array _ inductionHypothesis =>
      refine .array fun element member =>
        inductionHypothesis element member fun number inElement =>
          improved number ?_
      rw [numbers]
      exact numbers_subset_elements member inElement
  | object _ inductionHypothesis =>
      refine .object fun member inMembers =>
        inductionHypothesis member inMembers fun number inMember =>
          improved number ?_
      rw [numbers]
      exact numbers_subset_members inMembers inMember

end Within

end Value

end Tablewright.Json
