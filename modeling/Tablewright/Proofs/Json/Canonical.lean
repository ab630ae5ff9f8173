import Mathlib.Data.List.Pairwise
import Mathlib.Data.String.Basic
import Tablewright.Json.Parser

namespace Tablewright.Json

/-!
# Values in canonical form

The parser sorts the members of every object by key and keeps the last of
several with one key.  Sorting in this way at every depth brings any value
into canonical form, and leaves it there.
-/

/-! ## Sorted members -/

/-- Members stand in the order of their keys, which are distinct. -/
def MembersSorted (members : List (String × Value)) : Prop :=
  members.Pairwise fun first later => first.1 < later.1

theorem mem_insertMember
    {key : String}
    {value : Value}
    {members : List (String × Value)}
    {member : String × Value}
    (given : member ∈ insertMember key value members) :
    member = (key, value) ∨ member ∈ members := by
  induction members with
  | nil => exact Or.inl (List.mem_singleton.mp given)
  | cons first rest inductionHypothesis =>
      unfold insertMember at given
      split at given
      · exact (List.mem_cons.mp given)
      · split at given
        · rcases List.mem_cons.mp given with same | later
          · exact Or.inl same
          · exact Or.inr (List.mem_cons_of_mem _ later)
        · rcases List.mem_cons.mp given with rfl | later
          · exact Or.inr List.mem_cons_self
          · exact (inductionHypothesis later).imp_right
              (List.mem_cons_of_mem _)

/-- Inserting a member keeps members sorted. -/
theorem MembersSorted.insertMember
    {members : List (String × Value)}
    (sorted : MembersSorted members)
    (key : String)
    (value : Value) :
    MembersSorted (insertMember key value members) := by
  induction members with
  | nil => exact List.pairwise_singleton _ _
  | cons first rest inductionHypothesis =>
      obtain ⟨above, restSorted⟩ := List.pairwise_cons.mp sorted
      unfold Json.insertMember
      split
      · rename_i before
        refine List.pairwise_cons.mpr ⟨?_, sorted⟩
        intro member inMembers
        rcases List.mem_cons.mp inMembers with rfl | later
        · exact before
        · exact before.trans (above member later)
      · rename_i notBefore
        split
        · rename_i same
          subst same
          exact List.pairwise_cons.mpr ⟨above, restSorted⟩
        · rename_i different
          refine List.pairwise_cons.mpr ⟨?_, inductionHypothesis restSorted⟩
          intro member inMembers
          rcases mem_insertMember inMembers with rfl | later
          · exact lt_of_le_of_ne (not_lt.mp notBefore) (Ne.symm different)
          · exact above member later

/-- A member behind all others is put at the end. -/
theorem insertMember_of_last
    {key : String}
    {value : Value}
    {members : List (String × Value)}
    (last : ∀ member ∈ members, member.1 < key) :
    insertMember key value members = members ++ [(key, value)] := by
  induction members with
  | nil => rfl
  | cons first rest inductionHypothesis =>
      have before := last first List.mem_cons_self
      unfold insertMember
      rw [if_neg before.not_gt, if_neg before.ne',
        inductionHypothesis fun member inRest =>
          last member (List.mem_cons_of_mem _ inRest),
        List.cons_append]

theorem sortMembers_sorted
    (members : List (String × Value)) :
    MembersSorted (sortMembers members) := by
  have kept :
      ∀ (more held : List (String × Value)),
        MembersSorted held →
        MembersSorted
          (more.foldl
            (fun sorted member => insertMember member.1 member.2 sorted)
            held) := by
    intro more
    induction more with
    | nil => exact fun held sorted => sorted
    | cons first rest inductionHypothesis =>
        exact fun held sorted =>
          inductionHypothesis _ (sorted.insertMember first.1 first.2)
  exact kept members [] List.Pairwise.nil

theorem mem_sortMembers
    {members : List (String × Value)}
    {member : String × Value}
    (given : member ∈ sortMembers members) :
    member ∈ members := by
  have traced :
      ∀ (more held : List (String × Value)),
        member ∈
            more.foldl
              (fun sorted member => insertMember member.1 member.2 sorted)
              held →
        member ∈ held ∨ member ∈ more := by
    intro more
    induction more with
    | nil => exact fun held inHeld => Or.inl inHeld
    | cons first rest inductionHypothesis =>
        intro held inHeld
        rcases inductionHypothesis _ inHeld with inserted | later
        · rcases mem_insertMember inserted with rfl | before
          · exact Or.inr List.mem_cons_self
          · exact Or.inl before
        · exact Or.inr (List.mem_cons_of_mem _ later)
  exact (traced members [] given).resolve_left (List.not_mem_nil)

/-- Sorted members need no sorting. -/
theorem sortMembers_of_sorted
    {members : List (String × Value)}
    (sorted : MembersSorted members) :
    sortMembers members = members := by
  have appended :
      ∀ (more held : List (String × Value)),
        MembersSorted (held ++ more) →
        more.foldl
            (fun sorted member => insertMember member.1 member.2 sorted)
            held =
          held ++ more := by
    intro more
    induction more with
    | nil => simp
    | cons first rest inductionHypothesis =>
        intro held sorted
        have last :=
          (List.pairwise_append.mp sorted).2.2
        rw [List.foldl_cons,
          insertMember_of_last fun member inHeld =>
            last member inHeld first List.mem_cons_self]
        rw [inductionHypothesis _ (by simpa using sorted)]
        simp
  exact appended members [] sorted

/-! ## Canonical values -/

namespace Value

mutual

/-- The value with the members of all objects sorted. -/
def canonical : Value → Value
  | .array elements => .array (canonicalElements elements)
  | .object members => .object (sortMembers (canonicalMembers members))
  | .null => .null
  | .boolean value => .boolean value
  | .number value => .number value
  | .string text => .string text

/-- The canonical forms of elements. -/
def canonicalElements : List Value → List Value
  | [] => []
  | first :: rest => first.canonical :: canonicalElements rest

/-- The canonical forms of members, in their order. -/
def canonicalMembers : List (String × Value) → List (String × Value)
  | [] => []
  | (key, value) :: rest =>
      (key, value.canonical) :: canonicalMembers rest

end

theorem canonicalElements_eq_map
    (elements : List Value) :
    canonicalElements elements = elements.map canonical := by
  induction elements with
  | nil => rw [canonicalElements, List.map_nil]
  | cons first rest inductionHypothesis =>
      rw [canonicalElements, inductionHypothesis, List.map_cons]

theorem canonicalMembers_eq_map
    (members : List (String × Value)) :
    canonicalMembers members =
      members.map fun member => (member.1, member.2.canonical) := by
  induction members with
  | nil => rw [canonicalMembers, List.map_nil]
  | cons first rest inductionHypothesis =>
      rw [canonicalMembers, inductionHypothesis, List.map_cons]

@[simp]
theorem canonical_null : null.canonical = null := by
  rw [canonical]

@[simp]
theorem canonical_boolean (value : Bool) :
    (boolean value).canonical = boolean value := by
  rw [canonical]

@[simp]
theorem canonical_number (value : Number) :
    (number value).canonical = number value := by
  rw [canonical]

@[simp]
theorem canonical_string (text : String) :
    (string text).canonical = string text := by
  rw [canonical]

theorem canonical_array (elements : List Value) :
    (array elements).canonical = array (elements.map canonical) := by
  rw [canonical, canonicalElements_eq_map]

@[simp]
theorem canonical_object (members : List (String × Value)) :
    (object members).canonical =
      object (sortMembers
        (members.map fun member => (member.1, member.2.canonical))) := by
  rw [canonical, canonicalMembers_eq_map]

/-- An array of canonical elements is canonical. -/
theorem canonical_array_of_forall
    {elements : List Value}
    (each : ∀ element ∈ elements, element.canonical = element) :
    (array elements).canonical = array elements := by
  rw [canonical_array, List.map_congr_left each, List.map_id']

/-- An object of canonical members in their order is canonical. -/
theorem canonical_object_of_forall
    {members : List (String × Value)}
    (each : ∀ member ∈ members, member.2.canonical = member.2)
    (sorted : MembersSorted members) :
    (object members).canonical = object members := by
  have same :
      (members.map fun member => (member.1, member.2.canonical)) =
        members := by
    conv_rhs => rw [← List.map_id' members]
    refine List.map_congr_left fun member inMembers => ?_
    rw [each member inMembers]
  rw [canonical_object, same, sortMembers_of_sorted sorted]

end Value

end Tablewright.Json
