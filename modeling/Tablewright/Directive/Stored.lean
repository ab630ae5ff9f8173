import Tablewright.Directive.Set
import Tablewright.Schema.Writer

namespace Tablewright.Directive

/-!
# Stored form of directives

A directive set is stored as JSON with every member in declaration order.
-/

open Json Schema

/-- A class reference in stored form. -/
def ClassReference.toStored (reference : ClassReference) : Value :=
  .object
    [ ("path", .string reference.path),
      ("alias", textJson reference.alternative) ]

/-- An entry of a structured value in stored form. -/
def pairToStored (entry : String × String) : Value :=
  .array [.string entry.1, .string entry.2]

/-- A structured value in stored form. -/
def Structured.toStored (structured : Structured) : Value :=
  .object
    [ ("value", textJson structured.value),
      ("entries", .array (structured.entries.map pairToStored)) ]

/-- A scope in stored form. -/
def Scope.toStored (scope : Scope) : Value :=
  .object
    [ ("migrations", .boolean scope.migrations),
      ("models", .boolean scope.models) ]

/-- A polymorphic declaration in stored form. -/
def Morph.toStored (morph : Morph) : Value :=
  .object
    [ ("name", .string morph.name),
      ("cardinality", .string morph.cardinality.name),
      ("model", .string morph.model),
      ("table", textJson morph.table),
      ("alias", textJson morph.accessor),
      ("chain", textJson morph.chain),
      ("id", textJson morph.idColumn),
      ("type_column", textJson morph.typeColumn) ]

/-- A tag of another tool in stored form. -/
def otherToStored (entry : String × Option String) : Value :=
  .array [.string entry.1, textJson entry.2]

/-- A directive set in stored form. -/
def Set.toStored (set : Set) : Value :=
  .object
    [ ("fillable", .ofOption .ofTexts set.fillable),
      ("hidden", .ofOption .ofTexts set.hidden),
      ("guarded", .ofOption .ofTexts set.guarded),
      ("with", .ofOption .ofTexts set.eager),
      ("ignore", .boolean set.ignored),
      ("cast", .ofOption Structured.toStored set.cast),
      ("type_hint", .ofOption Structured.toStored set.typeHint),
      ("traits", .array (set.traits.map ClassReference.toStored)),
      ("implements", .array (set.interfaces.map ClassReference.toStored)),
      ("observer", .ofOption ClassReference.toStored set.observer),
      ("factory", .ofOption ClassReference.toStored set.factory),
      ("extends", .ofOption ClassReference.toStored set.parent),
      ("pivot", .boolean set.pivot),
      ("pivot_alias", textJson set.pivotAlias),
      ("with_timestamps", .boolean set.timestamps),
      ("morphs", .array (set.morphs.map Morph.toStored)),
      ("local", .ofOption Scope.toStored set.localScope),
      ("silent", .ofOption Scope.toStored set.silentScope),
      ("other", .array (set.others.map otherToStored)),
      ("comment", textJson set.comment) ]

end Tablewright.Directive
