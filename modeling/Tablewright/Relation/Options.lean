import Tablewright.Naming.Convention

namespace Tablewright.Relation

/-!
# Naming options of relations

Which endings of a field name do not belong to its accessor, and how the
discriminator columns of a polymorphic relation end.
-/

/-- The naming options. -/
structure Options where
  /-- Endings of identifier fields. -/
  identifierEndings : List String := ["Id", "_id", "ID"]
  morphIdEnding : String := "_id"
  morphTypeEnding : String := "_type"
  deriving Repr, DecidableEq

/-- The accessor of a field. -/
def Options.accessorName (options : Options) (fieldName : String) :
    String :=
  Naming.camel (Naming.stripEnding options.identifierEndings fieldName)

end Tablewright.Relation
