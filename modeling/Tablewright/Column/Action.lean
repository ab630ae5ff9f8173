import Tablewright.Code.Call

namespace Tablewright.Column

/-!
# Referential actions

What happens to a referring row when the row it refers to is deleted or its
key is changed.
-/

/-- An action of a foreign key. -/
inductive Action where
  | cascade
  | setNull
  | restrict
  | noAction
  | setDefault
  deriving Repr, DecidableEq

namespace Action

/-- Every action with the name it has in stored documents. -/
def named : List (String × Action) :=
  [ ("Cascade", .cascade), ("SetNull", .setNull),
    ("Restrict", .restrict), ("NoAction", .noAction),
    ("SetDefault", .setDefault) ]

/-- The keywords of the action in a data definition. -/
def keywords : Action → String
  | .cascade => "CASCADE"
  | .setNull => "SET NULL"
  | .restrict => "RESTRICT"
  | .noAction => "NO ACTION"
  | .setDefault => "SET DEFAULT"

/-- The call that declares the action for deletions. -/
def onDelete : Action → Code.Call
  | .cascade => ⟨"cascadeOnDelete", []⟩
  | .setNull => ⟨"nullOnDelete", []⟩
  | .restrict => ⟨"restrictOnDelete", []⟩
  | .noAction => ⟨"noActionOnDelete", []⟩
  | .setDefault => ⟨"onDelete", [.literal "set default"]⟩

/-- The call that declares the action for key changes. -/
def onUpdate : Action → Code.Call
  | .cascade => ⟨"cascadeOnUpdate", []⟩
  | .setNull => ⟨"nullOnUpdate", []⟩
  | .restrict => ⟨"restrictOnUpdate", []⟩
  | .noAction => ⟨"noActionOnUpdate", []⟩
  | .setDefault => ⟨"onUpdate", [.literal "set default"]⟩

end Action

end Tablewright.Column
