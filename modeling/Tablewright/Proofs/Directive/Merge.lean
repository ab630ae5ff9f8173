import Tablewright.Directive.Content

namespace Tablewright.Directive

/-!
# Merging directive sets

The directives of two texts are put together by kind: lists grow, flags stay
up, a class, a name or a scope is replaced, structured values are combined,
and comments are joined.  Reading one more directive merges the set that holds
nothing but that directive.
-/

/-- Two comments on one line. -/
def joinComments (line next : String) : String :=
  line ++ " " ++ next

/-- The directives of a text and those of a later text. -/
def Set.merge (first second : Set) : Set where
  fillable := first.fillable.merge List.append second.fillable
  hidden := first.hidden.merge List.append second.hidden
  guarded := first.guarded.merge List.append second.guarded
  eager := first.eager.merge List.append second.eager
  ignored := first.ignored || second.ignored
  cast := first.cast.merge Structured.merge second.cast
  typeHint := first.typeHint.merge Structured.merge second.typeHint
  traits := first.traits ++ second.traits
  interfaces := first.interfaces ++ second.interfaces
  observer := second.observer.or first.observer
  factory := second.factory.or first.factory
  parent := second.parent.or first.parent
  pivot := first.pivot || second.pivot
  pivotAlias := second.pivotAlias.or first.pivotAlias
  timestamps := first.timestamps || second.timestamps
  morphs := first.morphs ++ second.morphs
  localScope := second.localScope.or first.localScope
  silentScope := second.silentScope.or first.silentScope
  others := first.others ++ second.others
  comment := first.comment.merge joinComments second.comment

/-! ## The algebra of merging -/

instance : Std.Associative joinComments where
  assoc _ _ _ := by simp [joinComments, String.append_assoc]

instance : Std.Associative Structured.merge where
  assoc _ _ _ := by simp [Structured.merge, Option.or_assoc]

instance associative_appendTexts :
    Std.Associative (@List.append String) where
  assoc := List.append_assoc

namespace Set

variable (set : Set)

theorem merge_empty : set.merge {} = set := by
  cases set
  simp [merge]

theorem merge_assoc
    (first second third : Set) :
    (first.merge second).merge third =
      first.merge (second.merge third) := by
  simp only [merge, Std.Associative.assoc]

end Set

/-! ## Reading one more directive -/

/-- The names of a list directive are appended. -/
theorem extendList_eq_merge
    (names : Option (List String))
    (body : Option Body) :
    extendList names body =
      names.merge List.append (extendList none body) := by
  cases names with
  | none => simp [extendList]
  | some names => simp [extendList]

/-- A structured directive is combined with those before it. -/
theorem mergeStructured_eq_merge
    (held : Option Structured)
    (added : Structured) :
    mergeStructured held added =
      held.merge Structured.merge (some added) := by
  cases held with
  | none => rfl
  | some held => rfl

/-- What a reading leads to is changed when the reading is over. -/
theorem Reading.map_bind
    {α β γ : Type}
    (first : Reading α)
    (second : α → Reading β)
    (change : β → γ) :
    (first >>= second).map change =
      first >>= fun value => (second value).map change := by
  cases first with
  | error cause => rfl
  | ok value => rfl

namespace Set

/-- Reading a directive merges the set that holds nothing else. -/
theorem add_eq_map_merge
    (set : Set)
    (tag : String)
    (body : Option Body) :
    set.add tag body = (add {} tag body).map set.merge := by
  have accepted :
      ∀ added : Set,
        (.ok added : Reading Set).map set.merge = .ok (set.merge added) :=
    fun added => rfl
  have returned :
      ∀ added : Set,
        (pure added : Reading Set).map set.merge =
          pure (set.merge added) :=
    fun added => rfl
  unfold add
  split
  all_goals
    simp only [Reading.map_bind, accepted, returned]
    simp [-bind_pure_comp, merge, extendList_eq_merge set.fillable,
      extendList_eq_merge set.hidden, extendList_eq_merge set.guarded,
      extendList_eq_merge set.eager, mergeStructured_eq_merge]

/-- A directive is read into merged sets as it is read into the later one. -/
theorem add_merge
    (first second : Set)
    (tag : String)
    (body : Option Body) :
    (first.merge second).add tag body =
      (second.add tag body).map first.merge := by
  rw [add_eq_map_merge (first.merge second), add_eq_map_merge second]
  cases add {} tag body with
  | error cause => rfl
  | ok added => exact congrArg Except.ok (merge_assoc first second added)

end Set

end Tablewright.Directive
