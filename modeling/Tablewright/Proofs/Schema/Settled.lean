import Tablewright.Proofs.Json.Delivery
import Tablewright.Proofs.Json.Shape

namespace Tablewright.Schema

/-!
# What loading settles

Everything in a document that has been loaded is typed but its defaults, which
hold values as they have been delivered.  A default is a literal only if it is
not null and has not been recognized as a generator.
-/

open Json Json.Decoder

/-- A default as it has been loaded; its values are nested two levels less
deeply than the default if it is a generator. -/
def DefaultValue.Settled (depth : Nat) : DefaultValue → Prop
  | .literal value =>
      value ≠ .null ∧
        value.Delivered (depth + 2) ∧
        DefaultValue.ofJson value = .literal value
  | .generator _ arguments =>
      ∀ value ∈ arguments, value.Delivered depth

/-- The default of a field is as it has been loaded. -/
def Field.Settled (depth : Nat) (field : Field) : Prop :=
  ∀ given ∈ field.defaultValue, given.Settled depth

/-- All defaults of a model are as they have been loaded. -/
def Model.Settled (depth : Nat) (model : Model) : Prop :=
  ∀ field ∈ model.fields, field.Settled depth

/-- All defaults of a document are as they have been loaded. -/
def Document.Settled (depth : Nat) (document : Document) : Prop :=
  ∀ model ∈ document.models, model.Settled depth

/-! ## Where the untyped contents are stored -/

/-- Every member of a generated default leaves the arguments as they are or
stores what it has been read as. -/
theorem Generated.read_arguments
    (member : Member Generated)
    (isMember : member ∈ Generated.members)
    (part : Value)
    (before after : Generated)
    (stepped : member.read part before = .ok after) :
    after.arguments = before.arguments ∨
      sequence any part = .ok after.arguments := by
  simp only [Generated.members, List.mem_cons, List.not_mem_nil, or_false]
    at isMember
  rcases isMember with rfl | rfl
  all_goals
    obtain ⟨content, decoded, rfl⟩ := Outcome.map_eq_ok_iff.mp stepped
    first
    | exact Or.inl rfl
    | exact Or.inr decoded

/-- Every member of a field leaves the default as it is or stores what it has
been read as. -/
theorem Field.read_defaultValue
    (member : Member Field)
    (isMember : member ∈ Field.members)
    (part : Value)
    (before after : Field)
    (stepped : member.read part before = .ok after) :
    after.defaultValue = before.defaultValue ∨
      nullable (fun value => .ok (DefaultValue.ofJson value)) part =
        .ok after.defaultValue := by
  simp only [Field.members, List.mem_cons, List.not_mem_nil, or_false]
    at isMember
  rcases isMember with rfl | rfl | rfl | rfl | rfl | rfl | rfl | rfl | rfl |
    rfl | rfl | rfl | rfl | rfl | rfl | rfl | rfl
  all_goals
    obtain ⟨content, decoded, rfl⟩ := Outcome.map_eq_ok_iff.mp stepped
    first
    | exact Or.inl rfl
    | exact Or.inr decoded

/-- Every member of a model leaves the fields as they are or stores what it has
been read as. -/
theorem Model.read_fields
    (member : Member Model)
    (isMember : member ∈ Model.members)
    (part : Value)
    (before after : Model)
    (stepped : member.read part before = .ok after) :
    after.fields = before.fields ∨
      sequence Field.ofJson part = .ok after.fields := by
  simp only [Model.members, List.mem_cons, List.not_mem_nil, or_false]
    at isMember
  rcases isMember with rfl | rfl | rfl | rfl | rfl | rfl
  all_goals
    obtain ⟨content, decoded, rfl⟩ := Outcome.map_eq_ok_iff.mp stepped
    first
    | exact Or.inl rfl
    | exact Or.inr decoded

/-- Every member of a document leaves the models as they are or stores what it
has been read as. -/
theorem Document.read_models
    (member : Member Document)
    (isMember : member ∈ Document.members)
    (part : Value)
    (before after : Document)
    (stepped : member.read part before = .ok after) :
    after.models = before.models ∨
      sequence Model.ofJson part = .ok after.models := by
  simp only [Document.members, List.mem_cons, List.not_mem_nil, or_false]
    at isMember
  rcases isMember with rfl | rfl
  all_goals
    obtain ⟨content, decoded, rfl⟩ := Outcome.map_eq_ok_iff.mp stepped
    first
    | exact Or.inl rfl
    | exact Or.inr decoded

/-! ## Loading settles the defaults -/

section Loading

variable {depth : Nat} {value : Value}

/-- A value that is not null is loaded as a settled default. -/
theorem DefaultValue.settled_ofJson
    (delivered : value.Delivered (depth + 2))
    (notNull : value ≠ .null) :
    (DefaultValue.ofJson value).Settled depth := by
  cases shape :
      record "struct GeneratorDefault" Generated.members {} value with
  | error fault =>
      have literal : DefaultValue.ofJson value = .literal value := by
        rw [DefaultValue.ofJson, shape]
      rw [literal]
      exact ⟨notNull, delivered, literal⟩
  | ok generated =>
      rw [DefaultValue.ofJson, shape]
      intro argument isArgument
      rcases exists_part_of_record Generated.read_arguments shape with
        same | ⟨part, inParts, decoded⟩
      · rw [same] at isArgument
        cases isArgument
      · obtain ⟨inner, inPart, made⟩ :=
          exists_part_of_sequence decoded isArgument
        obtain rfl := Except.ok.inj made
        exact (delivered.of_mem_parts inParts).of_mem_parts inPart

/-- Fields are loaded with settled defaults. -/
theorem Field.settled_of_ofJson
    (delivered : value.Delivered (depth + 3))
    {field : Field}
    (loaded : Field.ofJson value = .ok field) :
    field.Settled depth := by
  intro given isGiven
  rcases exists_part_of_record Field.read_defaultValue loaded with
    same | ⟨part, inParts, decoded⟩
  · rw [same] at isGiven
    cases isGiven
  · rw [Option.mem_def.mp isGiven] at decoded
    obtain ⟨notNull, made⟩ := of_nullable_eq_some decoded
    obtain rfl := Except.ok.inj made
    exact DefaultValue.settled_ofJson (delivered.of_mem_parts inParts)
      notNull

/-- Models are loaded with settled defaults. -/
theorem Model.settled_of_ofJson
    (delivered : value.Delivered (depth + 5))
    {model : Model}
    (loaded : Model.ofJson value = .ok model) :
    model.Settled depth := by
  intro field inFields
  rcases exists_part_of_record Model.read_fields loaded with
    same | ⟨part, inParts, decoded⟩
  · rw [same] at inFields
    cases inFields
  · obtain ⟨inner, inPart, made⟩ :=
      exists_part_of_sequence decoded inFields
    exact Field.settled_of_ofJson
      ((delivered.of_mem_parts inParts).of_mem_parts inPart) made

/-- Documents are loaded with settled defaults. -/
theorem Document.settled_of_ofJson
    (delivered : value.Delivered (depth + 7))
    {document : Document}
    (loaded : Document.ofJson value = .ok document) :
    document.Settled depth := by
  intro model inModels
  rcases exists_part_of_record Document.read_models loaded with
    same | ⟨part, inParts, decoded⟩
  · rw [same] at inModels
    cases inModels
  · obtain ⟨inner, inPart, made⟩ :=
      exists_part_of_sequence decoded inModels
    exact Model.settled_of_ofJson
      ((delivered.of_mem_parts inParts).of_mem_parts inPart) made

/-- What is wrapped is delivered if the wrapper is. -/
theorem delivered_unwrap
    (delivered : value.Delivered (depth + 1)) :
    (unwrap value).Delivered (depth + 1) := by
  unfold unwrap
  cases found : value.member? "datamodel" with
  | none => exact delivered
  | some inner =>
      refine (delivered.of_mem_parts ?_).mono (Nat.le_succ depth)
      unfold Value.member? at found
      split at found
      · obtain ⟨before, after, rfl, _⟩ := List.lookup_eq_some_iff.mp found
        simp [Value.parts]
      · cases found

end Loading

end Tablewright.Schema
