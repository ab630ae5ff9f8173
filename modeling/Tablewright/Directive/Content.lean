import Tablewright.Directive.Set
import Tablewright.Directive.Body

namespace Tablewright.Directive

/-!
# Content of directives

What the body of each directive means, and how one directive changes the
set.
-/

/-- A part of a body as a string without blanks and quotes around it. -/
def plainText (part : List Char) : String :=
  String.ofList (unquote part)

/-- Whether a body holds nothing but blanks. -/
def Body.isBlank (body : Body) : Bool :=
  body.text.all Text.isBlank

/-- A body that must be there and must not be blank. -/
def requireBody (body : Option Body) : Reading Body :=
  match body with
  | some body =>
      if body.isBlank then .error .missingValue else .ok body
  | none => .error .missingValue

/-- The names in a list body. -/
def listedNames (body : Body) : List String :=
  ((splitTopLevel body.text).map plainText).filter
    (fun name => !name.isEmpty)

/-- A list directive adds its names; without a body it only makes the list
present. -/
def extendList (names : Option (List String)) (body : Option Body) :
    Option (List String) :=
  some (names.getD [] ++ (body.map listedNames).getD [])

/-- A class reference, with its alias after the word `as`. -/
def readReference (text : List Char) : ClassReference :=
  let raw := unquote text
  match Text.cutFirst? [' ', 'a', 's', ' '] raw with
  | some (path, name) =>
      { path := String.ofList (Text.trim path)
        alternative := some (String.ofList (Text.trim name)) }
  | none => { path := String.ofList raw }

/-- The class references of a body. -/
def readReferences (body : Body) : List ClassReference :=
  ((splitTopLevel body.text).filter
    (fun part => !part.all Text.isBlank)).map readReference

/-- Add one part of a structured body. -/
def addStructured (structured : Structured) (part : List Char) :
    Reading Structured :=
  let part := Text.trim part
  if part.isEmpty then .ok structured
  else
    match splitPair? part with
    | some (key, value) =>
        let key := plainText key
        if key.isEmpty then .error .emptyKey
        else
          .ok { structured with
            entries := structured.entries ++ [(key, plainText value)] }
    | none => .ok { structured with value := some (plainText part) }

/-- A structured body: a single value, or entries. -/
def readStructured (body : Option Body) : Reading Structured := do
  let body ← requireBody body
  if body.shape = .value then
    return { value := some (plainText body.text) }
  else
    (splitTopLevel body.text).foldlM addStructured {}

/-- Add one part of a scope. -/
def addScope (scope : Scope) (part : List Char) : Reading Scope :=
  match plainText part with
  | "migrations" | "migration" => .ok { scope with migrations := true }
  | "models" | "model" => .ok { scope with models := true }
  | "" => .ok scope
  | other => .error (.unknownScope other)

/-- A scope; without a body it is everywhere. -/
def readScope (body : Option Body) : Reading Scope :=
  match body with
  | none => .ok Scope.everywhere
  | some body =>
      if body.isBlank then .ok Scope.everywhere
      else (splitTopLevel body.text).foldlM addScope ⟨false, false⟩

/-- The keys of a polymorphic declaration that have been read. -/
structure MorphDraft where
  name : Option String := none
  cardinality : Option Relation.Cardinality := none
  model : Option String := none
  table : Option String := none
  accessor : Option String := none
  chain : Option String := none
  idColumn : Option String := none
  typeColumn : Option String := none
  deriving Repr, DecidableEq

/-- Add one key of a polymorphic declaration. -/
def MorphDraft.put (draft : MorphDraft) (key value : String) :
    Reading MorphDraft :=
  match key with
  | "name" => .ok { draft with name := some value }
  | "type" =>
      match Relation.Cardinality.parse? value with
      | some cardinality =>
          .ok { draft with cardinality := some cardinality }
      | none => .error (.unknownCardinality value)
  | "model" => .ok { draft with model := some value }
  | "table" => .ok { draft with table := some value }
  | "as" => .ok { draft with accessor := some value }
  | "chain" => .ok { draft with chain := some value }
  | "id" => .ok { draft with idColumn := some value }
  | "type_column" | "typeColumn" =>
      .ok { draft with typeColumn := some value }
  | "" => .error .emptyKey
  | other => .error (.unknownKey other)

/-- Add one part of a polymorphic declaration. -/
def MorphDraft.add (draft : MorphDraft) (part : List Char) :
    Reading MorphDraft :=
  let part := Text.trim part
  if part.isEmpty then .ok draft
  else
    match splitPair? part with
    | none => .error (.notAnEntry (String.ofList part))
    | some (key, value) =>
        draft.put (String.ofList (Text.trim key)) (plainText value)

/-- A text that must be given and must not be empty. -/
def requireText (key : String) (value : Option String) : Reading String :=
  match value with
  | some text =>
      if text.isEmpty then .error (.missingKey key) else .ok text
  | none => .error (.missingKey key)

/-- The declaration, once its required keys are there. -/
def MorphDraft.finish (draft : MorphDraft) : Reading Morph := do
  let name ← requireText "name" draft.name
  let cardinality ←
    match draft.cardinality with
    | some cardinality => .ok cardinality
    | none => .error (.missingKey "type")
  let model ← requireText "model" draft.model
  return {
    name := name
    cardinality := cardinality
    model := model
    table := draft.table
    accessor := draft.accessor
    chain := draft.chain
    idColumn := draft.idColumn
    typeColumn := draft.typeColumn
  }

/-- A polymorphic declaration. -/
def readMorph (body : Body) : Reading Morph := do
  let draft ← (splitTopLevel body.text).foldlM MorphDraft.add {}
  draft.finish

/-- The name that the junction record has on the accessor. -/
def readPivotAlias (body : Body) : Reading String :=
  let name := plainText body.text
  if name.isEmpty then .error .missingAlias else .ok name

/-- Combine a structured directive with an earlier one of its kind. -/
def mergeStructured (held : Option Structured) (added : Structured) :
    Option Structured :=
  match held with
  | some held => some (held.merge added)
  | none => some added

/-- One directive added to a set. -/
def Set.add (set : Set) (tag : String) (body : Option Body) :
    Reading Set :=
  match tag with
  | "fillable" =>
      .ok { set with fillable := extendList set.fillable body }
  | "hidden" => .ok { set with hidden := extendList set.hidden body }
  | "guarded" => .ok { set with guarded := extendList set.guarded body }
  | "with" => .ok { set with eager := extendList set.eager body }
  | "ignore" => .ok { set with ignored := true }
  | "pivot" => .ok { set with pivot := true }
  | "withTimestamps" => .ok { set with timestamps := true }
  | "cast" => do
      let added ← readStructured body
      return { set with cast := mergeStructured set.cast added }
  | "type" => do
      let added ← readStructured body
      return { set with typeHint := mergeStructured set.typeHint added }
  | "trait" => do
      let body ← requireBody body
      return { set with traits := set.traits ++ readReferences body }
  | "implements" => do
      let body ← requireBody body
      return { set with
        interfaces := set.interfaces ++ readReferences body }
  | "observer" => do
      let body ← requireBody body
      return { set with observer := some (readReference body.text) }
  | "factory" => do
      let body ← requireBody body
      return { set with factory := some (readReference body.text) }
  | "extend" | "extends" => do
      let body ← requireBody body
      return { set with parent := some (readReference body.text) }
  | "pivotAlias" => do
      let body ← requireBody body
      let name ← readPivotAlias body
      return { set with pivotAlias := some name }
  | "morph" => do
      let body ← requireBody body
      let morph ← readMorph body
      return { set with morphs := set.morphs ++ [morph] }
  | "local" => do
      let scope ← readScope body
      return { set with localScope := some scope }
  | "silent" => do
      let scope ← readScope body
      return { set with silentScope := some scope }
  | other =>
      .ok { set with
        others := set.others ++
          [(other, body.map fun body =>
            String.ofList (Text.trim body.text))] }

end Tablewright.Directive
