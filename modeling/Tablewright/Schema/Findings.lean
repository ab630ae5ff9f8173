import Tablewright.Schema.Validation
import Tablewright.Schema.Writer

namespace Tablewright.Schema

/-!
# Stored form of findings

The findings of a validation as JSON, each with its code and its wording.
-/

open Json

/-- Every error code with the name it has in stored reports. -/
def ErrorCode.named : List (String × ErrorCode) :=
  [ ("DuplicateModelName", .duplicateModelName),
    ("DuplicateFieldName", .duplicateFieldName),
    ("UnknownRelationTarget", .unknownRelationTarget),
    ("UnknownRelationField", .unknownRelationField),
    ("UnknownEnum", .unknownEnum),
    ("UnknownIndexField", .unknownIndexField),
    ("MalformedDirective", .malformedDirective) ]

/-- Every warning code with the name it has in stored reports. -/
def WarningCode.named : List (String × WarningCode) :=
  [("NoPrimaryKey", .noPrimaryKey)]

/-- A finding as JSON, with the text that is shown to a user. -/
def Finding.toStored [DecidableEq κ] (named : List (String × κ))
    (display : Finding κ → String) (finding : Finding κ) : Value :=
  .object
    [ ("code", namedJson named finding.code),
      ("model", .string finding.model),
      ("message", .string finding.message),
      ("display", .string (display finding)) ]

/-- The members of a report in its stored form. -/
def Report.storedMembers (report : Report) : List (String × Value) :=
  [ ("valid", .boolean report.isValid),
    ("has_errors", .boolean (!report.errors.isEmpty)),
    ("has_warnings", .boolean (!report.warnings.isEmpty)),
    ("errors", .array (report.errors.map
      (Finding.toStored ErrorCode.named Finding.errorText))),
    ("warnings", .array (report.warnings.map
      (Finding.toStored WarningCode.named Finding.warningText))) ]

end Tablewright.Schema
