import Tablewright.ModelClass.Basic
import Tablewright.Relation.Stored
import Tablewright.Directive.Stored

namespace Tablewright

/-!
# Stored form of model classes

A model class is stored as JSON with every member in declaration order.
-/

open Json Schema Directive

/-- An attribute in stored form. -/
def Attribute.toStored (held : Attribute) : Value :=
  .object
    [ ("column", .string held.column),
      ("field", .string held.field),
      ("php_type", .string held.typeName),
      ("nullable", .boolean held.nullable),
      ("cast", textJson held.cast),
      ("fillable", .boolean held.fillable),
      ("hidden", .boolean held.hidden),
      ("guarded", .boolean held.guarded),
      ("comment", textJson held.comment) ]

namespace ModelClass

/-- The stored members of a model class in order, its relations being
written in a given way. -/
def storedMembers (relationToStored : Relation.Definition → Value)
    (modelClass : ModelClass) : List (String × Value) :=
  [ ("class_name", .string modelClass.className),
    ("table", .string modelClass.table),
    ("primary_key", .ofTexts modelClass.primaryKey),
    ("incrementing", .boolean modelClass.incrementing),
    ("key_type", .string modelClass.keyType),
    ("timestamps", .boolean modelClass.timestamps),
    ("soft_deletes", .boolean modelClass.softDeletes),
    ("properties", .array (modelClass.attributes.map Attribute.toStored)),
    ("relations", .array (modelClass.relations.map relationToStored)),
    ("fillable", .ofTexts modelClass.fillable),
    ("hidden", .ofTexts modelClass.hidden),
    ("guarded", .ofTexts modelClass.guarded),
    ("with", .ofTexts modelClass.eager),
    ("casts", .array (modelClass.casts.map pairToStored)),
    ("traits", .array (modelClass.traits.map ClassReference.toStored)),
    ("implements",
      .array (modelClass.interfaces.map ClassReference.toStored)),
    ("observer", .ofOption ClassReference.toStored modelClass.observer),
    ("factory", .ofOption ClassReference.toStored modelClass.factory),
    ("extends", .ofOption ClassReference.toStored modelClass.parent),
    ("comment", textJson modelClass.comment),
    ("silent", .boolean modelClass.silent) ]

/-- A model class in stored form. -/
def toStored (modelClass : ModelClass) : Value :=
  .object (modelClass.storedMembers Relation.Definition.toStored)

end ModelClass

end Tablewright
