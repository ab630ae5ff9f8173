import Tablewright.Proofs.Json.ReadBack
import Tablewright.Proofs.Schema.Settled

namespace Tablewright.Schema

/-!
# Documents that are saved and loaded

A document that has been loaded is written to a text that is loaded as the
same document.  The parts of a document are decoded from what they are encoded
as, and no part is nested more deeply than the one that it was loaded from, so
that the text is not too deep for the parser.
-/

open Json Json.Decoder

/-! ## Decoding what was encoded -/

section Decoding

-- A record is decoded by sorting its keys, which are literals, and reading one
-- member after the other.  `String.lt_iff_ltb` is left out below, since keys
-- are compared by evaluation only as long as the comparison is not rewritten.
attribute [local simp] record readObject required defaulted sortMembers
  insertMember Except.map Except.bind text flag

variable {depth : Nat}

/-- A default is decoded from what it is encoded as. -/
theorem DefaultValue.ofJson_canonical
    {given : DefaultValue}
    (settled : given.Settled depth) :
    DefaultValue.ofJson given.toJson.canonical = given := by
  cases given with
  | literal value =>
      obtain ⟨_, delivered, literal⟩ := settled
      rw [DefaultValue.toJson, delivered.canonical_eq, literal]
  | generator name arguments =>
      have kept :
          (Value.array arguments).canonical = .array arguments :=
        Value.canonical_array_of_forall fun value member =>
          (settled value member).canonical_eq
      simp [-String.lt_iff_ltb, DefaultValue.toJson, DefaultValue.ofJson,
        Generated.members, kept]

/-- A default is not encoded as null. -/
theorem DefaultValue.canonical_ne_null
    {given : DefaultValue}
    (settled : given.Settled depth) :
    given.toJson.canonical ≠ .null := by
  cases given with
  | literal value =>
      obtain ⟨notNull, delivered, _⟩ := settled
      rw [DefaultValue.toJson, delivered.canonical_eq]
      exact notNull
  | generator name arguments =>
      rw [DefaultValue.toJson, Value.canonical_object]
      exact Value.noConfusion

/-- A native type is decoded from what it is encoded as. -/
theorem NativeType.ofJson_canonical (native : NativeType) :
    NativeType.ofJson native.toJson.canonical = .ok native := by
  simp [NativeType.toJson, Value.canonical_array, NativeType.ofJson, tuple,
    readArray, NativeType.members]

/-- A kind of fields is decoded from its name. -/
theorem FieldKind.variant_canonical (kind : FieldKind) :
    variant FieldKind.named (namedJson FieldKind.named kind).canonical =
      .ok kind :=
  Decoder.variant_canonical (by cases kind <;> rfl)

/-- A kind of indexes is decoded from its name. -/
theorem IndexKind.variant_canonical (kind : IndexKind) :
    variant IndexKind.named (namedJson IndexKind.named kind).canonical =
      .ok kind :=
  Decoder.variant_canonical (by cases kind <;> rfl)

/-- An optional action is decoded from its name. -/
theorem optionalAction_canonical (action : Option Column.Action) :
    nullable (variant Column.Action.named)
        (Value.ofOption (namedJson Column.Action.named) action).canonical =
      .ok action :=
  nullable_canonical
    (fun given _ => Decoder.variant_canonical (by cases given <;> rfl))
    fun given _ isNull => by
      rw [namedJson, Value.canonical_string] at isNull
      cases isNull

/-- A field is decoded from what it is encoded as. -/
theorem Field.ofJson_canonical
    {field : Field}
    (settled : field.Settled depth) :
    Field.ofJson field.toJson.canonical = .ok field := by
  have kind := FieldKind.variant_canonical field.kind
  have native :
      nullable NativeType.ofJson
          (Value.ofOption NativeType.toJson field.nativeType).canonical =
        .ok field.nativeType :=
    nullable_canonical (fun given _ => given.ofJson_canonical)
      fun given _ isNull => by
        rw [NativeType.toJson, Value.canonical_array] at isNull
        cases isNull
  have default :
      nullable (fun value => .ok (DefaultValue.ofJson value))
          (Value.ofOption DefaultValue.toJson
            field.defaultValue).canonical =
        .ok field.defaultValue :=
    nullable_canonical
      (fun given isGiven => by
        rw [DefaultValue.ofJson_canonical (settled given isGiven)])
      fun given isGiven =>
        DefaultValue.canonical_ne_null (settled given isGiven)
  have onDelete := optionalAction_canonical field.onDelete
  have onUpdate := optionalAction_canonical field.onUpdate
  simp [-String.lt_iff_ltb, Field.ofJson, Field.toJson, Field.members, kind,
    native, default, onDelete, onUpdate]

/-- A primary key is decoded from what it is encoded as. -/
theorem PrimaryKey.ofJson_canonical (key : PrimaryKey) :
    PrimaryKey.ofJson key.toJson.canonical = .ok key := by
  simp [-String.lt_iff_ltb, PrimaryKey.ofJson, PrimaryKey.toJson,
    PrimaryKey.members]

/-- An index is decoded from what it is encoded as. -/
theorem Index.ofJson_canonical (index : Index) :
    Index.ofJson index.toJson.canonical = .ok index := by
  have kind := IndexKind.variant_canonical index.kind
  have fields :
      sequence Index.fieldOfJson
          (Value.array (index.fields.map fun name =>
            .object [("name", .string name)])).canonical =
        .ok index.fields :=
    sequence_canonical fun name _ => by simp [Index.fieldOfJson]
  simp [-String.lt_iff_ltb, Index.ofJson,
    Index.toJson, Index.members, kind, fields]

/-- A model is decoded from what it is encoded as. -/
theorem Model.ofJson_canonical
    {model : Model}
    (settled : model.Settled depth) :
    Model.ofJson model.toJson.canonical = .ok model := by
  have fields :
      sequence Field.ofJson
          (Value.array (model.fields.map Field.toJson)).canonical =
        .ok model.fields :=
    sequence_canonical fun field member =>
      Field.ofJson_canonical (settled field member)
  have primaryKey :
      nullable PrimaryKey.ofJson
          (Value.ofOption PrimaryKey.toJson model.primaryKey).canonical =
        .ok model.primaryKey :=
    nullable_canonical (fun key _ => key.ofJson_canonical)
      fun key _ isNull => by
        rw [PrimaryKey.toJson, Value.canonical_object] at isNull
        cases isNull
  have indexes :
      sequence Index.ofJson
          (Value.array (model.indexes.map Index.toJson)).canonical =
        .ok model.indexes :=
    sequence_canonical fun index _ => index.ofJson_canonical
  simp [-String.lt_iff_ltb, Model.ofJson,
    Model.toJson, Model.members, fields, primaryKey, indexes]

/-- A value of an enumeration is decoded from what it is encoded as. -/
theorem EnumValue.ofJson_canonical (value : EnumValue) :
    EnumValue.ofJson value.toJson.canonical = .ok value := by
  simp [-String.lt_iff_ltb, EnumValue.ofJson, EnumValue.toJson]

/-- An enumeration is decoded from what it is encoded as. -/
theorem Enumeration.ofJson_canonical (enumeration : Enumeration) :
    Enumeration.ofJson enumeration.toJson.canonical = .ok enumeration := by
  have values :
      sequence EnumValue.ofJson
          (Value.array
            (enumeration.values.map EnumValue.toJson)).canonical =
        .ok enumeration.values :=
    sequence_canonical fun value _ => value.ofJson_canonical
  simp [-String.lt_iff_ltb, Enumeration.ofJson,
    Enumeration.toJson, values]

/-- A document is decoded from what it is encoded as. -/
theorem Document.ofJson_canonical
    {document : Document}
    (settled : document.Settled depth) :
    Document.ofJson document.toJson.canonical = .ok document := by
  have models :
      sequence Model.ofJson
          (Value.array (document.models.map Model.toJson)).canonical =
        .ok document.models :=
    sequence_canonical fun model member =>
      Model.ofJson_canonical (settled model member)
  have enums :
      sequence Enumeration.ofJson
          (Value.array
            (document.enums.map Enumeration.toJson)).canonical =
        .ok document.enums :=
    sequence_canonical fun enumeration _ => enumeration.ofJson_canonical
  simp [-String.lt_iff_ltb, Document.ofJson, Document.toJson,
    Document.members, models, enums]

/-- What a document is encoded as is not taken for a wrapper. -/
theorem Document.unwrap_canonical (document : Document) :
    unwrap document.toJson.canonical = document.toJson.canonical := by
  simp [-String.lt_iff_ltb, Document.toJson, unwrap, Value.member?,
    List.lookup_cons]

end Decoding

/-! ## The extent of what was encoded -/

section Extent

variable {good : Number → Prop} {depth : Nat}

@[simp] theorem within_ofTexts (texts : List String) :
    (Value.ofTexts texts).Within good (depth + 1) := by
  simp [Value.ofTexts]

@[simp] theorem within_namedJson
    {α : Type}
    [DecidableEq α]
    (named : List (String × α))
    (content : α) :
    (namedJson named content).Within good depth := .string

theorem within_ofOption
    {α : Type}
    {encode : α → Value}
    {content : Option α}
    (within : ∀ given ∈ content, (encode given).Within good depth) :
    (Value.ofOption encode content).Within good depth := by
  cases content with
  | none => exact .null
  | some given => exact within given rfl

@[simp] theorem within_textJson (text : Option String) :
    (textJson text).Within good depth :=
  within_ofOption fun _ _ => .string

@[simp] theorem NativeType.within_toJson (native : NativeType) :
    native.toJson.Within good (depth + 2) := by
  simp [NativeType.toJson]

/-- A default keeps within the depth of what it was loaded from. -/
theorem DefaultValue.within_toJson
    {given : DefaultValue}
    (settled : given.Settled depth) :
    given.toJson.Within Number.InRange (depth + 2) := by
  cases given with
  | literal value => exact settled.2.1.within
  | generator name arguments =>
      simpa [DefaultValue.toJson] using
        fun value member => (settled value member).within

/-- A field keeps within the depth of what it was loaded from. -/
theorem Field.within_toJson
    {field : Field}
    (settled : field.Settled depth) :
    field.toJson.Within Number.InRange (depth + 3) := by
  have native :
      (Value.ofOption NativeType.toJson field.nativeType).Within
        Number.InRange (depth + 2) :=
    within_ofOption fun given _ => given.within_toJson
  have default :
      (Value.ofOption DefaultValue.toJson field.defaultValue).Within
        Number.InRange (depth + 2) :=
    within_ofOption fun given isGiven =>
      DefaultValue.within_toJson (settled given isGiven)
  have onDelete :
      (Value.ofOption (namedJson Column.Action.named)
        field.onDelete).Within Number.InRange (depth + 2) :=
    within_ofOption fun _ _ => .string
  have onUpdate :
      (Value.ofOption (namedJson Column.Action.named)
        field.onUpdate).Within Number.InRange (depth + 2) :=
    within_ofOption fun _ _ => .string
  simp [Field.toJson, native, default, onDelete, onUpdate]

@[simp] theorem PrimaryKey.within_toJson (key : PrimaryKey) :
    key.toJson.Within good (depth + 2) := by
  simp [PrimaryKey.toJson]

@[simp] theorem Index.within_toJson (index : Index) :
    index.toJson.Within good (depth + 3) := by
  simp [Index.toJson]

/-- A model keeps within the depth of what it was loaded from. -/
theorem Model.within_toJson
    {model : Model}
    (settled : model.Settled depth) :
    model.toJson.Within Number.InRange (depth + 5) := by
  have fields :
      ∀ field ∈ model.fields,
        field.toJson.Within Number.InRange (depth + 3) :=
    fun field member => Field.within_toJson (settled field member)
  have primaryKey :
      (Value.ofOption PrimaryKey.toJson model.primaryKey).Within
        Number.InRange (depth + 4) :=
    within_ofOption fun key _ => key.within_toJson
  simpa [Model.toJson, primaryKey] using fields

@[simp] theorem EnumValue.within_toJson (value : EnumValue) :
    value.toJson.Within good (depth + 1) := by
  simp [EnumValue.toJson]

@[simp] theorem Enumeration.within_toJson (enumeration : Enumeration) :
    enumeration.toJson.Within good (depth + 3) := by
  simp [Enumeration.toJson]

/-- A document keeps within the depth of what it was loaded from. -/
theorem Document.within_toJson
    {document : Document}
    (settled : document.Settled depth) :
    document.toJson.Within Number.InRange (depth + 7) := by
  have models :
      ∀ model ∈ document.models,
        model.toJson.Within Number.InRange (depth + 5) :=
    fun model member => Model.within_toJson (settled model member)
  simpa [Document.toJson] using models

end Extent

/-! ## Saving and loading -/

/-- What a text is loaded as is settled, with all the room that the parser
leaves. -/
theorem Document.settled_of_load
    {text : String}
    {document : Document}
    (loaded : Document.load text = .ok document) :
    document.Settled 120 := by
  unfold Document.load at loaded
  split at loaded
  · cases loaded
  · rename_i value parsed
    have delivered : (unwrap value).Delivered (120 + 7) :=
      delivered_unwrap (delivered_of_parse? parsed)
    refine Document.settled_of_ofJson delivered ?_
    cases decoded : Document.ofJson (unwrap value) with
    | error fault =>
        rw [decoded] at loaded
        cases loaded
    | ok found =>
        rw [decoded] at loaded
        obtain rfl := Except.ok.inj loaded
        rfl

/-- A document that has been loaded is loaded again from the text that it is
saved as, given that every double in it is read back from its digits. -/
theorem Document.load_text
    {text : String}
    {document : Document}
    (loaded : Document.load text = .ok document)
    (exactDoubles :
      ∀ double, .double double ∈ document.toJson.numbers →
        (Number.double double).ReadsBack) :
    Document.load document.text = .ok document := by
  have settled := Document.settled_of_load loaded
  have within :
      document.toJson.Within Number.ReadsBack Parser.depthLimit := by
    refine (Document.within_toJson settled).improve ?_
    intro number inDocument inRange
    cases number with
    | integer value => exact Number.readsBack_integer inRange
    | double double => exact exactDoubles double inDocument
  have parsed := parse?_pretty within
  rw [Document.load, Document.text, parsed]
  change (Document.ofJson (unwrap document.toJson.canonical)).mapError _ =
    .ok document
  rw [document.unwrap_canonical, Document.ofJson_canonical settled]
  rfl

/-- A wrapped document whose records are given as arrays and as an object. -/
def readingText : String :=
  "\x7b\"datamodel\": [[[\"Reading\", null, null, [" ++
  "[\"scale\", null, \"scalar\", \"Float\", null, " ++
  "true, false, false, false, false, 0.5], " ++
  "\x7b\"type\": \"Int\", \"name\": \"id\", \"kind\": \"scalar\", " ++
  "\"default\": [\"sequence\", [7]]\x7d]]]]\x7d"

/-- The document of `readingText`: the first default is a literal, the second
one is a generator. -/
def readingDocument : Document :=
  { models :=
      [ { name := "Reading"
          fields :=
            [ { Field.scalar "scale" "Float" with
                defaultValue :=
                  some (.literal (.number (.double ⟨false, 2 ^ 52, -53⟩))) },
              { Field.scalar "id" "Int" with
                isRequired := false
                defaultValue :=
                  some (.generator "sequence" [.number (.integer 7)]) } ]
        } ] }

/-- The document is loaded from a text that is not what it is saved as, and
from the text that it is saved as. -/
theorem Document.load_text_reading :
    Document.load readingText = .ok readingDocument ∧
      (∀ double, .double double ∈ readingDocument.toJson.numbers →
        (Number.double double).ReadsBack) ∧
      Document.load readingDocument.text = .ok readingDocument := by
  have loaded : Document.load readingText = .ok readingDocument := by
    decide +kernel
  have numbers :
      readingDocument.toJson.numbers =
        [.double ⟨false, 2 ^ 52, -53⟩, .integer 7] := by
    decide +kernel
  have exactDoubles :
      ∀ double, .double double ∈ readingDocument.toJson.numbers →
        (Number.double double).ReadsBack := by
    intro double member
    rw [numbers] at member
    obtain rfl : double = ⟨false, 2 ^ 52, -53⟩ := by simpa using member
    unfold Number.ReadsBack
    decide +kernel
  exact ⟨loaded, exactDoubles, Document.load_text loaded exactDoubles⟩

end Tablewright.Schema
