import Tablewright.Decimal.Double

namespace Tablewright.Json

/-!
# JSON values

Integers between -2^63 and 2^64 - 1 are kept exactly and every other number
is a double. An object is the list of its members; the members that the
parser delivers are sorted by key and have distinct keys, while a document
that is about to be written keeps the order of its declaration.
-/

/-- A number of a JSON text. -/
inductive Number where
  | integer (value : Int)
  | double (value : Decimal.Double)
  deriving Repr, DecidableEq

/-- A JSON value. -/
inductive Value where
  | null
  | boolean (value : Bool)
  | number (value : Number)
  | string (text : String)
  | array (elements : List Value)
  | object (members : List (String × Value))
  deriving Repr

namespace Value

mutual

/-- Equality of values is decidable. -/
def decideEq (left right : Value) : Decidable (left = right) :=
  match left, right with
  | .null, .null => isTrue rfl
  | .boolean a, .boolean b =>
      if same : a = b then isTrue (congrArg _ same)
      else isFalse (fun equal => same (Value.boolean.inj equal))
  | .number a, .number b =>
      if same : a = b then isTrue (congrArg _ same)
      else isFalse (fun equal => same (Value.number.inj equal))
  | .string a, .string b =>
      if same : a = b then isTrue (congrArg _ same)
      else isFalse (fun equal => same (Value.string.inj equal))
  | .array a, .array b =>
      match decideEqList a b with
      | isTrue same => isTrue (congrArg _ same)
      | isFalse differ =>
          isFalse (fun equal => differ (Value.array.inj equal))
  | .object a, .object b =>
      match decideEqMembers a b with
      | isTrue same => isTrue (congrArg _ same)
      | isFalse differ =>
          isFalse (fun equal => differ (Value.object.inj equal))
  | .null, .boolean _ | .null, .number _ | .null, .string _
  | .null, .array _ | .null, .object _
  | .boolean _, .null | .boolean _, .number _ | .boolean _, .string _
  | .boolean _, .array _ | .boolean _, .object _
  | .number _, .null | .number _, .boolean _ | .number _, .string _
  | .number _, .array _ | .number _, .object _
  | .string _, .null | .string _, .boolean _ | .string _, .number _
  | .string _, .array _ | .string _, .object _
  | .array _, .null | .array _, .boolean _ | .array _, .number _
  | .array _, .string _ | .array _, .object _
  | .object _, .null | .object _, .boolean _ | .object _, .number _
  | .object _, .string _ | .object _, .array _ =>
      isFalse (fun equal => by cases equal)

/-- Equality of element lists is decidable. -/
def decideEqList (left right : List Value) : Decidable (left = right) :=
  match left, right with
  | [], [] => isTrue rfl
  | [], _ :: _ => isFalse (fun equal => by cases equal)
  | _ :: _, [] => isFalse (fun equal => by cases equal)
  | a :: restA, b :: restB =>
      match decideEq a b, decideEqList restA restB with
      | isTrue same, isTrue sameRest =>
          isTrue (by rw [same, sameRest])
      | isFalse differ, _ =>
          isFalse (fun equal => differ (List.cons.inj equal).1)
      | _, isFalse differ =>
          isFalse (fun equal => differ (List.cons.inj equal).2)

/-- Equality of member lists is decidable. -/
def decideEqMembers (left right : List (String × Value)) :
    Decidable (left = right) :=
  match left, right with
  | [], [] => isTrue rfl
  | [], _ :: _ => isFalse (fun equal => by cases equal)
  | _ :: _, [] => isFalse (fun equal => by cases equal)
  | (keyA, a) :: restA, (keyB, b) :: restB =>
      if sameKey : keyA = keyB then
        match decideEq a b, decideEqMembers restA restB with
        | isTrue same, isTrue sameRest =>
            isTrue (by rw [sameKey, same, sameRest])
        | isFalse differ, _ =>
            isFalse (fun equal =>
              differ (Prod.mk.inj (List.cons.inj equal).1).2)
        | _, isFalse differ =>
            isFalse (fun equal => differ (List.cons.inj equal).2)
      else
        isFalse (fun equal =>
          sameKey (Prod.mk.inj (List.cons.inj equal).1).1)

end

instance : DecidableEq Value := decideEq

/-- The value of a member of an object. -/
def member? (key : String) : Value → Option Value
  | .object members => members.lookup key
  | _ => none

/-- The text of a string value. -/
def text? : Value → Option String
  | .string text => some text
  | _ => none

/-- A list of strings. -/
def ofTexts (texts : List String) : Value :=
  .array (texts.map .string)

/-- A value that may be absent, which is written as null. -/
def ofOption (encode : α → Value) : Option α → Value
  | none => .null
  | some value => encode value

/-- A natural number. -/
def ofNat (number : Nat) : Value :=
  .number (.integer number)

/-- An object with further members at its end. -/
def extend (value : Value) (more : List (String × Value)) : Value :=
  match value with
  | .object members => .object (members ++ more)
  | other => other

/-- Whether a value is null. -/
def isNull : Value → Bool
  | .null => true
  | _ => false

/-- An object without its null members. -/
def withoutNulls : Value → Value
  | .object members =>
      .object (members.filter (fun member => !member.2.isNull))
  | value => value

/-- An object with a change made to the values of some keys. -/
def mapMembers (keys : List String) (change : Value → Value) :
    Value → Value
  | .object members =>
      .object (members.map (fun (key, value) =>
        (key, if keys.contains key then change value else value)))
  | value => value

end Value

/-- Put a member into a list sorted by key; a member of the same key is
replaced. -/
def insertMember (key : String) (value : Value) :
    List (String × Value) → List (String × Value)
  | [] => [(key, value)]
  | (first, held) :: rest =>
      if key < first then (key, value) :: (first, held) :: rest
      else if key = first then (key, value) :: rest
      else (first, held) :: insertMember key value rest

/-- Sort members by key, the last of several with one key winning. -/
def sortMembers (members : List (String × Value)) :
    List (String × Value) :=
  members.foldl
    (fun sorted member => insertMember member.1 member.2 sorted) []

end Tablewright.Json
