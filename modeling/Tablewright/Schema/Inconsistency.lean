import Tablewright.Schema.Document

namespace Tablewright.Schema

/-!
# Inconsistencies

How a schema document can contradict itself in a way that stops the
compilation of a model.
-/

/-- A contradiction in a document. -/
inductive Inconsistency where
  | unknownTarget (field target : String)
  | noCounterpart (field target : String)
  | unknownMorphTarget (name target : String)
  | keyWithoutField (column : String)
  deriving Repr, DecidableEq

/-- The wording of a contradiction. -/
def Inconsistency.message : Inconsistency → String
  | .unknownTarget field target =>
      "relation field '" ++ field ++ "' targets unknown model '" ++
        target ++ "'"
  | .noCounterpart field target =>
      "relation field '" ++ field ++ "' has no counterpart on '" ++
        target ++ "'"
  | .unknownMorphTarget name target =>
      "@morph '" ++ name ++ "' targets unknown model '" ++ target ++ "'"
  | .keyWithoutField column =>
      "primary key column '" ++ column ++ "' has no field"

/-- The failure of a model with a contradiction. -/
def Inconsistency.failure (model : String) (fault : Inconsistency) :
    Failure :=
  .schemaInconsistency model fault.message

/-- A value that must be there, or else the contradiction. -/
def Inconsistency.orFail (model : String) (fault : Inconsistency)
    (value : Option α) : Outcome α :=
  match value with
  | some value => .ok value
  | none => .error (fault.failure model)

/-- The model that a relation field refers to. -/
def Document.targetOf (document : Document) (model : String)
    (field : Field) : Outcome Model :=
  (Inconsistency.unknownTarget field.name field.typeName).orFail model
    (document.model? field.typeName)

end Tablewright.Schema
