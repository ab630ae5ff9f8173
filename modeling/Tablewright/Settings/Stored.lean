import Tablewright.Settings
import Tablewright.Schema.Writer
import Tablewright.Toml.Parser
import Tablewright.Toml.Writer

namespace Tablewright

/-!
# Stored form of settings

Settings are stored as TOML or as JSON. What they leave out keeps its
default, and entries that are not known are ignored.
-/

open Json Json.Decoder

/-- The text of an item. -/
def Toml.Item.text? : Toml.Item → Option String
  | .text value => some value
  | _ => none

/-- The texts of an array. -/
def Toml.Item.texts? : Toml.Item → Option (List String)
  | .array elements => elements.mapM text?
  | _ => none

/-- The truth value of an item. -/
def Toml.Item.flag? : Toml.Item → Option Bool
  | .boolean value => some value
  | _ => none

/-- Read an entry of a table; the start value stays if it is missing. -/
def Toml.read? (entries : List (String × Toml.Item)) (key : String)
    (read : Toml.Item → Option α) (start : α) : Option α :=
  match entries.lookup key with
  | none => some start
  | some item => read item

namespace MorphEndings

/-- Endings in stored form. -/
def toStored (endings : MorphEndings) : Value :=
  .object
    [ ("id_suffix", .string endings.idEnding),
      ("type_suffix", .string endings.typeEnding) ]

/-- Read endings from JSON. -/
def ofStored : Decoder MorphEndings :=
  record "struct MorphEndings"
    [ defaulted "id_suffix" text
        (fun held ending => { held with idEnding := ending }),
      defaulted "type_suffix" text
        (fun held ending => { held with typeEnding := ending }) ]
    {}

/-- Read endings from a table, or from an array that gives them in order. A
moment has no entries that are known. -/
def ofToml? : Toml.Item → Option MorphEndings
  | .table _ entries => do
      let start : MorphEndings := {}
      let idEnding ←
        Toml.read? entries "id_suffix" Toml.Item.text? start.idEnding
      let typeEnding ←
        Toml.read? entries "type_suffix" Toml.Item.text? start.typeEnding
      return ⟨idEnding, typeEnding⟩
  | .array [] | .moment _ => some {}
  | .array [idItem] => do
      let idEnding ← idItem.text?
      return { idEnding := idEnding }
  | .array (idItem :: typeItem :: _) => do
      let idEnding ← idItem.text?
      let typeEnding ← typeItem.text?
      return ⟨idEnding, typeEnding⟩
  | _ => none

end MorphEndings

namespace Settings

/-- Settings in stored form. -/
def toStored (settings : Settings) : Value :=
  .object
    [ ("morph", settings.morph.toStored),
      ("relation_suffixes", .ofTexts settings.identifierEndings),
      ("implicit_pivots", .boolean settings.implicitPivots) ]

/-- Read settings from JSON. -/
def ofStored : Decoder Settings :=
  record "struct Settings"
    [ defaulted "morph" MorphEndings.ofStored
        (fun held endings => { held with morph := endings }),
      defaulted "relation_suffixes" (sequence text)
        (fun held endings => { held with identifierEndings := endings }),
      defaulted "implicit_pivots" flag
        (fun held given => { held with implicitPivots := given }) ]
    {}

/-- Read settings from the entries of a document. -/
def ofEntries? (entries : List (String × Toml.Item)) : Option Settings := do
  let start : Settings := {}
  let morph ←
    Toml.read? entries "morph" MorphEndings.ofToml? start.morph
  let endings ←
    Toml.read? entries "relation_suffixes" Toml.Item.texts?
      start.identifierEndings
  let implicitPivots ←
    Toml.read? entries "implicit_pivots" Toml.Item.flag?
      start.implicitPivots
  return ⟨morph, endings, implicitPivots⟩

/-- Read settings from TOML and check them. -/
def load (text : String) : Outcome Settings :=
  match Toml.parse? text with
  | some (.table _ entries) =>
      match ofEntries? entries with
      | some settings => settings.validate.map (fun _ => settings)
      | none => .error .malformedToml
  | _ => .error .malformedToml

/-- The TOML of settings. -/
def text (settings : Settings) : String :=
  Toml.assignment "relation_suffixes"
      (Toml.quotedArray settings.identifierEndings) ++
    Toml.assignment "implicit_pivots" (toString settings.implicitPivots) ++
    "\n[morph]\n" ++
    Toml.assignment "id_suffix" (Toml.quoted settings.morph.idEnding) ++
    Toml.assignment "type_suffix" (Toml.quoted settings.morph.typeEnding)

end Settings

end Tablewright
