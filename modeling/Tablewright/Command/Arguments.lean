import Tablewright.Preview.Listing

namespace Tablewright.Command

/-!
# Command line arguments

The first argument that is not an option names what to list, and its own
arguments follow. Options that do not belong to a listing may stand on either
side of its name, once on each. An option takes its value from the next
argument or behind an equals sign; it is checked when the next argument has
been recognised, so an argument that is not known is reported first.
-/

/-- Why arguments cannot be used, or what they ask for instead. -/
inductive UsageFault where
  | help
  | version
  | helpForNothing
  | unknownArgument
  | unknownListing
  | noListing
  | noSchema
  | unusableValue
  | needlessValue
  | repeated
  deriving Repr, DecidableEq

/-- What is to be listed. -/
inductive Listing where
  | migrations
  | models
  | check
  deriving Repr, DecidableEq

/-- Every listing by its name. -/
def Listing.named : List (String × Listing) :=
  [("migrations", .migrations), ("models", .models), ("check", .check)]

/-- What an argument gives a value to. -/
inductive Slot where
  | config
  | format
  | verbose
  | noColor
  | selection
  | schema
  | help
  | version
  deriving Repr, DecidableEq

/-- Whether the slot needs a value. -/
def Slot.takesValue : Slot → Bool
  | .config | .format | .selection | .schema => true
  | _ => false

/-- Every output format by its name. -/
def formats : List (String × Preview.Format) :=
  [("text", .text), ("json", .json)]

/-- Whether a value can be used. -/
def Slot.accepts (slot : Slot) (value : String) : Bool :=
  match slot with
  | .config | .schema => !value.isEmpty
  | .format => (formats.lookup value).isSome
  | _ => true

/-- The slot of a long option, in front of a listing or behind it. -/
def longSlot? (listing : Option Listing) (name : String) : Option Slot :=
  match name, listing with
  | "config", _ => some .config
  | "format", _ => some .format
  | "verbose", _ => some .verbose
  | "no-color", _ => some .noColor
  | "help", _ => some .help
  | "version", none => some .version
  | "table", some .migrations => some .selection
  | "model", some .models => some .selection
  | _, _ => none

/-- The slot of a short option, in front of a listing or behind it. -/
def shortSlot? (listing : Option Listing) (letter : Char) : Option Slot :=
  match letter, listing with
  | 'c', _ => some .config
  | 'v', _ => some .verbose
  | 'h', _ => some .help
  | 'V', none => some .version
  | _, _ => none

/-- The arguments read so far on one side of the listing. -/
structure Reading where
  given : List (Slot × String) := []
  /-- A slot whose value is not checked yet, or is still to come. -/
  pending : Option (Slot × Option String) := none
  /-- Whether two dashes have ended the options. -/
  ended : Bool := false
  deriving Repr, DecidableEq

namespace Reading

/-- The value of a slot. -/
def value? (reading : Reading) (slot : Slot) : Option String :=
  reading.given.lookup slot

/-- Whether a slot has a value. -/
def has (reading : Reading) (slot : Slot) : Bool :=
  (reading.value? slot).isSome

/-- Whether a slot has a value or is about to get one. -/
def isTaken (reading : Reading) (slot : Slot) : Bool :=
  reading.has slot || reading.pending.any (fun held => held.1 == slot)

/-- Whether an option waits for its value. -/
def isWaiting (reading : Reading) : Bool :=
  match reading.pending with
  | some (_, none) => true
  | _ => false

/-- Give a slot its value. -/
def store (reading : Reading) (slot : Slot) (value : String) :
    Except UsageFault Reading :=
  if reading.has slot then .error .repeated
  else if slot.accepts value then
    .ok { reading with given := reading.given ++ [(slot, value)] }
  else .error .unusableValue

/-- Check the value that is pending. -/
def settle (reading : Reading) : Except UsageFault Reading :=
  match reading.pending with
  | none => .ok reading
  | some (_, none) => .error .unusableValue
  | some (slot, some value) =>
      { reading with pending := none }.store slot value

/-- Read an option with the value that is attached to it, if any. -/
def readSlot (reading : Reading) (slot : Slot) (attached : Option String) :
    Except UsageFault Reading := do
  let reading ← reading.settle
  match slot, attached with
  | .help, _ => .error .help
  | .version, _ => .error .version
  | slot, some value => reading.store slot value
  | slot, none =>
      if slot.takesValue then
        return { reading with pending := some (slot, none) }
      else reading.store slot "true"

/-- Read a long option. -/
def readLong (listing : Option Listing) (reading : Reading)
    (name : String) (attached : Option String) :
    Except UsageFault Reading :=
  match longSlot? listing name with
  | none => .error .unknownArgument
  | some slot =>
      if attached.isSome && !slot.takesValue then .error .needlessValue
      else reading.readSlot slot attached

/-- The value attached to a short option; an equals sign in front of it is
dropped. -/
def attachedValue? : List Char → Option String
  | [] => none
  | '=' :: value => some (String.ofList value)
  | value => some (String.ofList value)

/-- Read short options that share one dash. -/
def readShort (listing : Option Listing) (reading : Reading) :
    List Char → Except UsageFault Reading
  | [] => .ok reading
  | letter :: rest =>
      match shortSlot? listing letter with
      | none => .error .unknownArgument
      | some slot =>
          if slot.takesValue then
            reading.readSlot slot (attachedValue? rest)
          else
            (reading.readSlot slot none).bind fun reading =>
              reading.readShort listing rest

/-- Read an argument that is no option. -/
def readPlain (listing : Option Listing) (reading : Reading)
    (argument : String) : Except UsageFault Reading := do
  if reading.isWaiting && !reading.ended then
    return { reading with
      pending := reading.pending.map (fun held => (held.1, some argument)) }
  else
    match listing with
    | none =>
        if reading.ended &&
            ("help" :: Listing.named.map Prod.fst).contains argument then
          .error .unknownArgument
        else .error .unknownListing
    | some _ =>
        if reading.isTaken .schema then .error .unknownArgument
        else
          let reading ← reading.settle
          return { reading with pending := some (.schema, some argument) }

end Reading

/-- The name of a long option and the value behind its equals sign. -/
def longParts? (argument : String) : Option (String × Option String) :=
  match argument.toList with
  | '-' :: '-' :: rest =>
      match Text.cutFirst? ['='] rest with
      | some (name, value) =>
          some (String.ofList name, some (String.ofList value))
      | none => some (String.ofList rest, none)
  | _ => none

/-- The letters of short options. -/
def shortLetters? (argument : String) : Option (List Char) :=
  match argument.toList with
  | '-' :: letter :: rest => some (letter :: rest)
  | _ => none

/-- Read one argument. -/
def readArgument (listing : Option Listing) (reading : Reading)
    (argument : String) : Except UsageFault Reading :=
  if reading.ended then reading.readPlain listing argument
  else if argument = "--" then .ok { reading with ended := true }
  else
    match longParts? argument, shortLetters? argument with
    | some (name, attached), _ => reading.readLong listing name attached
    | none, some letters => reading.readShort listing letters
    | none, none => reading.readPlain listing argument

/-- Read the arguments behind a listing. -/
def readAll (listing : Listing) (arguments : List String) :
    Except UsageFault Reading := do
  let reading ← arguments.foldlM (readArgument (some listing)) {}
  let reading ← reading.settle
  if reading.has .schema then return reading else .error .noSchema

/-- What a request for help ends in: the help of a listing, or of no
listing that is known. -/
def helpOn (names : List String) : UsageFault :=
  match names with
  | [] => .help
  | [name] =>
      if ("help" :: Listing.named.map Prod.fst).contains name then .help
      else .unknownListing
  | _ => .unknownListing

/-- What the arguments ask for. -/
structure Invocation where
  listing : Listing
  schema : String
  /-- The table or model to list, if not all are wanted. -/
  selection : Option String
  config : Option String
  format : Preview.Format
  verbose : Bool
  palette : Preview.Palette
  deriving Repr, DecidableEq

/-- Combine what was read in front of a listing and behind it. -/
def Invocation.ofReadings (listing : Listing) (front behind : Reading) :
    Invocation :=
  let value (slot : Slot) := (behind.value? slot).or (front.value? slot)
  { listing := listing
    schema := (behind.value? .schema).getD ""
    selection := behind.value? .selection
    config := value .config
    format := ((value .format).bind (fun name => formats.lookup name)).getD .text
    verbose := (value .verbose).isSome
    palette := if (value .noColor).isSome then .plain else .colored }

/-- Read arguments from those in front of the listing on. -/
def readFront (reading : Reading) :
    List String → Except UsageFault Invocation
  | [] => do
      let reading ← reading.settle
      if reading.given.isEmpty then .error .helpForNothing
      else .error .noListing
  | argument :: rest =>
      let free := !reading.ended && !reading.isWaiting
      if free && argument == "help" then .error (helpOn rest)
      else
        match if free then Listing.named.lookup argument else none with
        | some listing => do
            let behind ← readAll listing rest
            let front ← reading.settle
            return Invocation.ofReadings listing front behind
        | none =>
            (readArgument none reading argument).bind
              (fun reading => readFront reading rest)

/-- Read the arguments of a command. -/
def Invocation.ofArguments (arguments : List String) :
    Except UsageFault Invocation :=
  readFront {} arguments

end Tablewright.Command
