import Tablewright.Schema.Model

namespace Tablewright.Schema

/-!
# Schema documents

A document holds the models and enumerations that are compiled together.
-/

/-- A value of an enumeration. -/
structure EnumValue where
  name : String
  /-- The stored value, when it is not the name. -/
  dbName : Option String := none
  deriving Repr, DecidableEq

/-- The stored value. -/
def EnumValue.stored (value : EnumValue) : String :=
  value.dbName.getD value.name

/-- An enumeration. -/
structure Enumeration where
  name : String
  values : List EnumValue := []
  deriving Repr, DecidableEq

/-- The models and enumerations of a schema. -/
structure Document where
  models : List Model := []
  enums : List Enumeration := []
  deriving Repr, DecidableEq

namespace Document

/-- Append a model. -/
def withModel (document : Document) (model : Model) : Document :=
  { document with models := document.models ++ [model] }

/-- Append an enumeration. -/
def withEnum (document : Document) (name : String)
    (values : List String) : Document :=
  { document with
    enums := document.enums ++
      [{ name := name
         values := values.map (fun value => { name := value }) }] }

/-- The first model with a name. -/
def model? (document : Document) (name : String) : Option Model :=
  document.models.find? (fun model => model.name == name)

/-- The first model with a name, which has to exist. -/
def requireModel (document : Document) (name : String) : Outcome Model :=
  match document.model? name with
  | some model => .ok model
  | none => .error (.modelNotFound name)

/-- The first enumeration with a name. -/
def enum? (document : Document) (name : String) : Option Enumeration :=
  document.enums.find? (fun enumeration => enumeration.name == name)

/-- The stored values of an enumeration; none if it is unknown. -/
def enumValues (document : Document) (name : String) : List String :=
  ((document.enum? name).map
    (fun enumeration => enumeration.values.map EnumValue.stored)).getD []

end Document

end Tablewright.Schema
