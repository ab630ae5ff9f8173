import Tablewright.Settings
import Tablewright.Schema.Inconsistency
import Tablewright.Directive.Parse

namespace Tablewright

/-!
# Compilation context

What every stage of a compilation shares: the document, the settings, and
the directives of all models and fields, read once so that a malformed one
stops the compilation before anything is produced.
-/

open Schema

/-- The directives of a field, by the names of its model and itself. -/
structure FieldEntry where
  model : String
  field : String
  directives : Directive.Set
  deriving Repr, DecidableEq

/-- The directives of a model, by its name. -/
structure ModelEntry where
  model : String
  directives : Directive.Set
  deriving Repr, DecidableEq

/-- The shared inputs of a compilation. Later entries stand first. -/
structure Context where
  document : Document
  settings : Settings
  modelEntries : List ModelEntry
  fieldEntries : List FieldEntry
  deriving Repr, DecidableEq

namespace Context

/-- Whether a set says anything at all. -/
def isNoteworthy (directives : Directive.Set) : Bool :=
  !directives.isEmpty || directives.comment.isSome

/-- Read the directives of a field. -/
def addField (model : String) (context : Context) (field : Field) :
    Outcome Context := do
  let directives ← Directive.Set.ofDocumentation field.documentation
  if isNoteworthy directives then
    return { context with
      fieldEntries :=
        ⟨model, field.name, directives⟩ :: context.fieldEntries }
  else return context

/-- Read the directives of a model and its fields. -/
def addModel (context : Context) (model : Model) : Outcome Context := do
  let directives ← Directive.Set.ofDocumentation model.documentation
  let context :=
    if isNoteworthy directives then
      { context with
        modelEntries :=
          ⟨model.name, directives⟩ :: context.modelEntries }
    else context
  model.fields.foldlM (addField model.name) context

/-- Read all directives of a document. -/
def ofDocument (document : Document) (settings : Settings) :
    Outcome Context :=
  document.models.foldlM addModel ⟨document, settings, [], []⟩

/-- The directives of a model; none for an unknown model. -/
def modelDirectives (context : Context) (model : String) :
    Directive.Set :=
  ((context.modelEntries.find?
    (fun entry => entry.model == model)).map
      ModelEntry.directives).getD {}

/-- The directives of a field; none for an unknown field. -/
def fieldDirectives (context : Context) (model field : String) :
    Directive.Set :=
  ((context.fieldEntries.find?
    (fun entry => entry.model == model && entry.field == field)).map
      FieldEntry.directives).getD {}

end Context

end Tablewright
