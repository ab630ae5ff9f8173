namespace Tablewright.Column

/-!
# Column kinds

The vocabulary of column types. Every kind except `relation` is created by a
builder method; `relation` marks a relation field, which is no column.
-/

/-- What a column holds. -/
inductive Kind where
  | tinyInteger
  | smallInteger
  | mediumInteger
  | integer
  | bigInteger
  | decimal
  | float
  | double
  | boolean
  | char
  | string
  | tinyText
  | text
  | mediumText
  | longText
  | date
  | time
  | timeTz
  | dateTime
  | dateTimeTz
  | timestamp
  | timestampTz
  | year
  | uuid
  | ulid
  | json
  | jsonb
  | enumeration
  | binary
  | relation
  deriving Repr, DecidableEq

namespace Kind

/-- Every kind with the name it has in stored documents. -/
def named : List (String × Kind) :=
  [ ("tiny_integer", .tinyInteger), ("small_integer", .smallInteger),
    ("medium_integer", .mediumInteger), ("integer", .integer),
    ("big_integer", .bigInteger), ("decimal", .decimal),
    ("float", .float), ("double", .double), ("boolean", .boolean),
    ("char", .char), ("string", .string), ("tiny_text", .tinyText),
    ("text", .text), ("medium_text", .mediumText),
    ("long_text", .longText), ("date", .date), ("time", .time),
    ("time_tz", .timeTz), ("date_time", .dateTime),
    ("date_time_tz", .dateTimeTz), ("timestamp", .timestamp),
    ("timestamp_tz", .timestampTz), ("year", .year), ("uuid", .uuid),
    ("ulid", .ulid), ("json", .json), ("jsonb", .jsonb),
    ("enum", .enumeration), ("binary", .binary),
    ("relation", .relation) ]

/-- The builder method that creates a column of this kind. -/
def builderMethod? : Kind → Option String
  | .tinyInteger => some "tinyInteger"
  | .smallInteger => some "smallInteger"
  | .mediumInteger => some "mediumInteger"
  | .integer => some "integer"
  | .bigInteger => some "bigInteger"
  | .decimal => some "decimal"
  | .float => some "float"
  | .double => some "double"
  | .boolean => some "boolean"
  | .char => some "char"
  | .string => some "string"
  | .tinyText => some "tinyText"
  | .text => some "text"
  | .mediumText => some "mediumText"
  | .longText => some "longText"
  | .date => some "date"
  | .time => some "time"
  | .timeTz => some "timeTz"
  | .dateTime => some "dateTime"
  | .dateTimeTz => some "dateTimeTz"
  | .timestamp => some "timestamp"
  | .timestampTz => some "timestampTz"
  | .year => some "year"
  | .uuid => some "uuid"
  | .ulid => some "ulid"
  | .json => some "json"
  | .jsonb => some "jsonb"
  | .enumeration => some "enum"
  | .binary => some "binary"
  | .relation => none

/-- The builder method for an auto-incrementing integer. -/
def incrementsMethod? : Kind → Option String
  | .tinyInteger => some "tinyIncrements"
  | .smallInteger => some "smallIncrements"
  | .mediumInteger => some "mediumIncrements"
  | .integer => some "increments"
  | .bigInteger => some "bigIncrements"
  | _ => none

/-- Whether the kind is an integer of some width. -/
def isInteger (kind : Kind) : Bool :=
  kind.incrementsMethod?.isSome

/-- Whether the kind is a timestamp. -/
def isTimestamp : Kind → Bool
  | .timestamp | .timestampTz => true
  | _ => false

/-- Whether the kind carries a time zone. -/
def isTimezoneAware : Kind → Bool
  | .timeTz | .dateTimeTz | .timestampTz => true
  | _ => false

/-- Whether the kind holds text. -/
def isText : Kind → Bool
  | .char | .string | .tinyText | .text | .mediumText | .longText => true
  | _ => false

/-- Whether the kind holds a date or a time. -/
def isTemporal : Kind → Bool
  | .date | .time | .timeTz | .dateTime | .dateTimeTz | .timestamp
  | .timestampTz | .year => true
  | _ => false

/-- Whether the kind marks a relation field. -/
def isRelation : Kind → Bool
  | .relation => true
  | _ => false

/-- The kind as shown to a user. -/
def display (kind : Kind) : String :=
  kind.builderMethod?.getD "relation"

/-- The attribute type that a column of this kind has on a model. -/
def attributeType : Kind → String
  | .tinyInteger | .smallInteger | .mediumInteger | .integer
  | .bigInteger => "int"
  | .float | .double => "float"
  | .boolean => "bool"
  | .json | .jsonb => "array"
  | .date | .dateTime | .dateTimeTz | .timestamp | .timestampTz =>
      "\\Illuminate\\Support\\Carbon"
  | _ => "string"

end Kind

end Tablewright.Column
