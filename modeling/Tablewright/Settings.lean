import Tablewright.Relation.Options
import Tablewright.Failure

namespace Tablewright

/-!
# Settings

The settings of a compilation: how relations and discriminator columns are
named, and whether junction tables are added for implicit many-to-many
relations.
-/

/-- How discriminator columns end. -/
structure MorphEndings where
  idEnding : String := "_id"
  typeEnding : String := "_type"
  deriving Repr, DecidableEq

/-- The settings of a compilation. -/
structure Settings where
  morph : MorphEndings := {}
  identifierEndings : List String := ["Id", "_id", "ID"]
  implicitPivots : Bool := true
  deriving Repr, DecidableEq

/-- What makes settings unusable. -/
inductive SettingsFault where
  | emptyMorphEnding
  | equalMorphEndings
  | emptyIdentifierEnding
  deriving Repr, DecidableEq

/-- The wording of a settings fault. -/
def SettingsFault.message : SettingsFault → String
  | .emptyMorphEnding => "morph suffixes must not be empty"
  | .equalMorphEndings => "morph id and type suffixes must differ"
  | .emptyIdentifierEnding => "relation suffixes must not be empty"

namespace Settings

/-- The first thing that makes the settings unusable. -/
def fault? (settings : Settings) : Option SettingsFault :=
  if settings.morph.idEnding.isEmpty ||
      settings.morph.typeEnding.isEmpty then
    some .emptyMorphEnding
  else if settings.morph.idEnding = settings.morph.typeEnding then
    some .equalMorphEndings
  else if settings.identifierEndings.any String.isEmpty then
    some .emptyIdentifierEnding
  else none

/-- Fail if the settings are unusable. -/
def validate (settings : Settings) : Outcome Unit :=
  match settings.fault? with
  | none => .ok ()
  | some fault => .error (.invalidSettings fault.message)

/-- Set how discriminator columns end. -/
def withMorphEndings (settings : Settings) (id type : String) : Settings :=
  { settings with morph := ⟨id, type⟩ }

/-- Set the endings of identifier fields. -/
def withIdentifierEndings (settings : Settings) (endings : List String) :
    Settings :=
  { settings with identifierEndings := endings }

/-- Add no junction tables. -/
def withoutImplicitPivots (settings : Settings) : Settings :=
  { settings with implicitPivots := false }

/-- The naming options of relations. -/
def options (settings : Settings) : Relation.Options :=
  { identifierEndings := settings.identifierEndings
    morphIdEnding := settings.morph.idEnding
    morphTypeEnding := settings.morph.typeEnding }

end Settings

end Tablewright
