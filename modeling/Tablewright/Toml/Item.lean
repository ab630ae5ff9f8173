namespace Tablewright.Toml

/-!
# TOML items

A document is a table of items. A table remembers how it came about, since
that decides whether a later line may still add to it: a table that was only
implied by a longer header may be opened once, a table that was made by
dotted keys may only be extended by dotted keys, and an inline table is
closed.
-/

/-- How a table came about. -/
inductive Origin where
  /-- It is the document, or a header opened it. -/
  | opened
  /-- A header of a table inside it was met first. -/
  | implied
  /-- A dotted key made it. -/
  | dotted
  /-- It was written between braces. -/
  | inline
  deriving Repr, DecidableEq

/-- An item of a document. -/
inductive Item where
  | text (value : String)
  | integer (value : Int)
  /-- A floating point number as it is written. -/
  | float (written : String)
  | boolean (value : Bool)
  /-- A date, a time, or both, as it is written. -/
  | moment (written : String)
  | array (elements : List Item)
  | table (origin : Origin) (entries : List (String × Item))
  /-- The tables of repeated double-bracket headers. -/
  | tables (elements : List Item)
  deriving Repr

namespace Item

/-- Replace the entry of a key, or append one. -/
def put (key : String) (item : Item) :
    List (String × Item) → List (String × Item)
  | [] => [(key, item)]
  | (first, held) :: rest =>
      if first = key then (key, item) :: rest
      else (first, held) :: put key item rest

/-- What a path leads on to: the entry itself, or the last of several
tables. -/
def current? : Item → Option Item
  | .table origin entries => some (.table origin entries)
  | .tables elements => elements.getLast?
  | _ => none

/-- Put a changed table back where a path has led on to it. -/
def withCurrent (changed : Item) : Item → Item
  | .tables elements => .tables (elements.dropLast ++ [changed])
  | _ => changed

/-- Whether a path of a header, or of a dotted key, may lead through a
table. -/
def admits (byKey : Bool) : Item → Bool
  | .table .inline _ => false
  | .table .opened _ => !byKey
  | _ => true

/-- Follow the next key of a path: the table it leads to, and the entry to
put back once that table has changed. -/
def step? (byKey : Bool) (key : String)
    (entries : List (String × Item)) : Option (Item × (Item → Item)) :=
  match entries.lookup key with
  | none => some (.table (if byKey then .dotted else .implied) [], id)
  | some held =>
      match held with
      | .tables elements =>
          elements.getLast?.map
            (fun last => (last, fun changed =>
              withCurrent changed (.tables elements)))
      | .table origin entries =>
          if admits byKey held then some (.table origin entries, id)
          else none
      | _ => none

/-- Change the table at the end of a path; tables that are missing on the
way are made. -/
def change? (byKey : Bool)
    (change : Origin → List (String × Item) → Option Item) :
    List String → Item → Option Item
  | [], .table origin entries => change origin entries
  | key :: path, .table origin entries => do
      let (child, restore) ← step? byKey key entries
      let changed ← change? byKey change path child
      return .table origin (put key (restore changed) entries)
  | _, _ => none

/-- Add the entry of a key to a table that dotted keys have led to. -/
def insert? (isDirect : Bool) (key : String) (item : Item)
    (origin : Origin) (entries : List (String × Item)) : Option Item :=
  if (origin == .dotted) == isDirect then none
  else if (entries.lookup key).isSome then none
  else some (.table origin (entries ++ [(key, item)]))

/-- Add the entry of a dotted key, given as its path and its last part. -/
def assign? (table : Item) (path : List String) (key : String)
    (item : Item) : Option Item :=
  change? true (insert? path.isEmpty key item) path table

/-- Open the table of a header. -/
def openTable? (root : Item) (path : List String) (key : String) :
    Option Item :=
  change? false
    (fun origin entries =>
      match entries.lookup key with
      | none =>
          some (.table origin (put key (.table .opened []) entries))
      | some (.table .implied held) =>
          some (.table origin (put key (.table .opened held) entries))
      | some _ => none)
    path root

/-- Append a table for a double-bracket header. -/
def appendTable? (root : Item) (path : List String) (key : String) :
    Option Item :=
  change? false
    (fun origin entries =>
      match entries.lookup key with
      | none =>
          some (.table origin
            (put key (.tables [.table .opened []]) entries))
      | some (.tables elements) =>
          some (.table origin
            (put key (.tables (elements ++ [.table .opened []])) entries))
      | some _ => none)
    path root

/-- Add the entry of a dotted key to the table that was opened last. -/
def assignAt? (root : Item) (opened path : List String) (key : String)
    (item : Item) : Option Item :=
  change? false
    (fun origin entries =>
      assign? (.table origin entries) path key item)
    opened root

end Item

end Tablewright.Toml
