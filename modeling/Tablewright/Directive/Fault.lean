import Tablewright.Failure

namespace Tablewright.Directive

/-!
# Directive faults

Why a directive is rejected, with the wording for each cause.
-/

/-- What is wrong with the body of a directive. -/
inductive Cause where
  | unexpectedCloser (closer : Char)
  | unbalanced
  | noValueAfterColon
  | missingValue
  | missingAlias
  | emptyKey
  | unknownScope (name : String)
  | notAnEntry (part : String)
  | unknownCardinality (spelling : String)
  | unknownKey (key : String)
  | missingKey (key : String)
  deriving Repr, DecidableEq

/-- The wording of a cause. -/
def Cause.message : Cause → String
  | .unexpectedCloser closer =>
      "unexpected '" ++ closer.toString ++ "' in body"
  | .unbalanced => "unbalanced brackets"
  | .noValueAfterColon => "missing value after ':'"
  | .missingValue => "missing value"
  | .missingAlias => "missing alias"
  | .emptyKey => "empty key in structured body"
  | .unknownScope name => "unknown scope '" ++ name ++ "'"
  | .notAnEntry part =>
      "expected 'key: value', found '" ++ part ++ "'"
  | .unknownCardinality spelling =>
      "unknown type '" ++ spelling ++ "'"
  | .unknownKey key => "unknown key '" ++ key ++ "'"
  | .missingKey key => "missing '" ++ key ++ "'"

/-- The failure of a directive with a given tag. -/
def Cause.failure (tag : String) (cause : Cause) : Failure :=
  .directive tag cause.message

/-- An interpretation of a body that may be rejected. -/
abbrev Reading (α : Type) : Type := Except Cause α

/-- Attribute a rejection to the directive with a given tag. -/
def Reading.forTag (tag : String) (reading : Reading α) : Outcome α :=
  reading.mapError (Cause.failure tag)

end Tablewright.Directive
