import Tablewright.Proofs.Directive.Listing
import Tablewright.Proofs.Directive.Plain

namespace Tablewright.Directive

/-!
# Entries

A structured body is a list of entries, each a key and a value in single
quotes.  An entry with a bare key is read exactly.  The reader of pairs stops
at a quotation mark, so an entry whose key is quoted becomes the bare value of
the directive as a whole.
-/

/-! ## Written entries -/

/-- How a key is written. -/
inductive KeyStyle where
  | bare
  | single
  | double
  deriving Repr, DecidableEq

namespace KeyStyle

/-- The quotation mark around a key. -/
def mark? : KeyStyle → Option Char
  | bare => none
  | single => some '\''
  | double => some '"'

/-- A key as it is written. -/
def write (style : KeyStyle) (key : String) : String :=
  match style.mark? with
  | none => key
  | some mark => mark.toString ++ key ++ mark.toString

variable {style : KeyStyle} {mark : Char}

theorem isQuote_of_mark?
    (marked : style.mark? = some mark) :
    isQuote mark = true := by
  cases style <;> cases marked <;> rfl

theorem toList_write
    (marked : style.mark? = some mark)
    (key : String) :
    (style.write key).toList = quoted mark key.toList := by
  simp [write, marked, quoted]

end KeyStyle

/-- A key with a value, which is written in single quotes. -/
structure Entry where
  style : KeyStyle := .bare
  key : String
  value : String
  deriving Repr, DecidableEq

namespace Entry

/-- An entry as it is written. -/
def written (entry : Entry) : String :=
  entry.style.write entry.key ++ ": '" ++ entry.value ++ "'"

/-- The key with the value. -/
def pair (entry : Entry) : String × String :=
  (entry.key, entry.value)

/-- Whether the key stands without quotation marks. -/
def isBare (entry : Entry) : Bool :=
  entry.style.mark?.isNone

/-- The key is a name, and the value has neither single quotes nor
backslashes. -/
structure Writable (entry : Entry) : Prop where
  named : entry.key ≠ ""
  inName :
    ∀ character ∈ entry.key.toList, isNameCharacter character = true
  quotable : Quotable '\'' entry.value.toList

instance (entry : Entry) : Decidable entry.Writable :=
  decidable_of_iff
    (entry.key ≠ "" ∧
      entry.key.toList.all isNameCharacter = true ∧
      Quotable '\'' entry.value.toList)
    (by
      simp only [List.all_eq_true]
      exact
        ⟨fun ⟨named, inName, quotable⟩ => ⟨named, inName, quotable⟩,
          fun writable =>
            ⟨writable.named, writable.inName, writable.quotable⟩⟩)

/-- The whole entry as one value: its text, without the quotation marks at
its ends if they are equal. -/
def unsplit (entry : Entry) : String :=
  match entry.style with
  | .single => entry.key ++ "': '" ++ entry.value
  | _ => entry.written

/-- What an entry stands for when it is read. -/
def reading (entry : Entry) : Structured :=
  if entry.isBare then { entries := [entry.pair] }
  else { value := some entry.unsplit }

theorem toList_written
    (entry : Entry) :
    entry.written.toList =
      (entry.style.write entry.key).toList ++
        ([':', ' '] ++ quoted '\'' entry.value.toList) := by
  simp [written, quoted]

/-- The reader of pairs does not get behind a quoted key. -/
theorem splitPair?_of_quoted
    {entry : Entry}
    (isQuoted : entry.isBare = false) :
    splitPair? entry.written.toList = none := by
  obtain ⟨mark, marked⟩ := Option.isSome_iff_exists.mp
    (Option.isNone_eq_false_iff.mp isQuoted)
  rw [toList_written, KeyStyle.toList_write marked]
  exact splitPair?_quoted (KeyStyle.isQuote_of_mark? marked) _ _

namespace Writable

variable {entry : Entry} (writable : entry.Writable)

include writable

theorem isPathCharacter
    {character : Char}
    (member : character ∈ entry.key.toList) :
    isPathCharacter character = true :=
  isPathCharacter_of_isNameCharacter (writable.inName character member)

theorem unmarked_key : Unmarked entry.key.toList :=
  unmarked_of_isPathCharacter fun _ => writable.isPathCharacter

theorem quotable_key
    {mark : Char}
    (isMark : isQuote mark = true) :
    Quotable mark entry.key.toList := by
  constructor
  · apply not_mem_of_isNameCharacter writable.inName
    rcases isQuote_eq_true_iff.mp isMark with rfl | rfl <;> decide
  · exact not_mem_of_isNameCharacter writable.inName (by decide)

/-- The readers of groups and of parts pass a key. -/
theorem passes_key :
    GroupPasses (entry.style.write entry.key).toList ∧
      PartPasses (entry.style.write entry.key).toList := by
  cases marked : entry.style.mark? with
  | none =>
      have same : entry.style.write entry.key = entry.key := by
        simp [KeyStyle.write, marked]
      rw [same]
      exact ⟨groupPasses_of_unmarked writable.unmarked_key,
        partPasses_of_unmarked writable.unmarked_key⟩
  | some mark =>
      have isMark := KeyStyle.isQuote_of_mark? marked
      have guarded := (writable.quotable_key isMark).guarded
      rw [KeyStyle.toList_write marked]
      exact ⟨groupPasses_quoted isMark guarded,
        partPasses_quoted isMark guarded⟩

/-- The readers of groups and of parts pass an entry. -/
theorem passes :
    GroupPasses entry.written.toList ∧ PartPasses entry.written.toList := by
  have colon : Unmarked [':', ' '] := by decide
  have guarded := writable.quotable.guarded
  obtain ⟨groupKey, partKey⟩ := writable.passes_key
  rw [toList_written]
  exact ⟨groupKey.append ((groupPasses_of_unmarked colon).append
      (groupPasses_quoted rfl guarded)),
    partKey.append ((partPasses_of_unmarked colon).append
      (partPasses_quoted rfl guarded))⟩

theorem unpadded_name : Text.Unpadded entry.key.toList :=
  Text.unpadded_of_unblank fun _ member =>
    unblank_of_isPathCharacter (writable.isPathCharacter member)

/-- There are no blanks around a key. -/
theorem unpadded_key :
    Text.Unpadded (entry.style.write entry.key).toList ∧
      (entry.style.write entry.key).toList ≠ [] := by
  cases marked : entry.style.mark? with
  | none =>
      have same : entry.style.write entry.key = entry.key := by
        simp [KeyStyle.write, marked]
      rw [same]
      exact ⟨writable.unpadded_name, by simpa using writable.named⟩
  | some mark =>
      rw [KeyStyle.toList_write marked]
      exact ⟨unpadded_quoted (KeyStyle.isQuote_of_mark? marked) _,
        List.cons_ne_nil _ _⟩

/-- There are no blanks around an entry. -/
theorem trim_written :
    Text.trim entry.written.toList = entry.written.toList := by
  obtain ⟨unpadded, given⟩ := writable.unpadded_key
  have unpaddedValue : Text.Unpadded (quoted '\'' entry.value.toList) :=
    unpadded_quoted rfl _
  have whole := unpadded.append unpaddedValue given
    (List.cons_ne_nil _ _) [':', ' ']
  rw [List.append_assoc, ← toList_written] at whole
  exact Text.trim_of_unpadded whole

/-- An entry with a bare key is cut behind its key. -/
theorem splitPair?_written
    (bare : entry.isBare = true) :
    splitPair? entry.written.toList =
      some (entry.key.toList, ' ' :: quoted '\'' entry.value.toList) := by
  have same : entry.style.write entry.key = entry.key := by
    simp [KeyStyle.write, Option.isNone_iff_eq_none.mp bare]
  rw [toList_written, same]
  exact splitPair?_append writable.unmarked_key
    (not_mem_of_isNameCharacter writable.inName (by decide)) (by simp)

/-- An entry with a quoted key is one value. -/
theorem plainText_of_quoted
    (isQuoted : entry.isBare = false) :
    plainText entry.written.toList = entry.unsplit := by
  cases style : entry.style with
  | bare => simp [isBare, style, KeyStyle.mark?] at isQuoted
  | single =>
      have whole :
          entry.written.toList =
            [] ++ quoted '\''
              (entry.key ++ "': '" ++ entry.value).toList := by
        simp [written, style, KeyStyle.write, KeyStyle.mark?, quoted]
      rw [whole, plainText_quoted [] (by simp) rfl]
      simp [unsplit, style]
  | double =>
      have starts : entry.written.toList.head? = some '"' := by
        simp [written, style, KeyStyle.write, KeyStyle.mark?]
      have stops : entry.written.toList.getLast? = some '\'' := by
        simp [written, List.getLast?_cons]
      have same : unquote entry.written.toList = entry.written.toList := by
        simp [unquote, writable.trim_written, isEnclosedBy, starts, stops]
      rw [plainText, same, String.ofList_toList]
      simp [unsplit, style]

/-- A written entry is read into a structured value. -/
theorem addStructured_written
    (structured : Structured) :
    addStructured structured entry.written.toList =
      .ok (structured.merge entry.reading) := by
  have given : entry.written.toList.isEmpty = false := by
    simp [written]
  unfold addStructured
  simp only [writable.trim_written, given, Bool.false_eq_true, ↓reduceIte]
  cases bare : entry.isBare with
  | true =>
      have keyed : plainText entry.key.toList = entry.key := by
        rw [plainText, unquote_of_unmarked writable.unmarked_key
          writable.unpadded_name, String.ofList_toList]
      have valued :
          plainText (' ' :: quoted '\'' entry.value.toList) = entry.value :=
        plainText_quoted [' '] (List.forall_mem_singleton.mpr rfl) rfl
          entry.value
      simp [writable.splitPair?_written bare, keyed, valued, writable.named,
        reading, bare, Structured.merge, pair]
  | false =>
      simp [splitPair?_of_quoted bare,
        writable.plainText_of_quoted bare, reading, bare, Structured.merge]

end Writable

end Entry

/-! ## Bodies of entries -/

/-- Entries with commas and spaces between them. -/
def writtenEntries (entries : List Entry) : String :=
  ", ".intercalate (entries.map Entry.written)

section Body

variable {entries : List Entry}

theorem toList_writtenEntries :
    (writtenEntries entries).toList =
      [',', ' '].intercalate
        (entries.map fun entry => entry.written.toList) := by
  rw [writtenEntries, String.toList_intercalate, List.map_map]
  rfl

/-- Written entries are passed as a group. -/
theorem groupPasses_writtenEntries
    (writable : ∀ entry ∈ entries, entry.Writable) :
    GroupPasses (writtenEntries entries).toList := by
  rw [toList_writtenEntries]
  apply groupPasses_separated
  intro part member
  obtain ⟨entry, isEntry, rfl⟩ := List.mem_map.mp member
  exact (writable entry isEntry).passes.1

/-- A body of entries is not blank. -/
theorem requireBody_writtenEntries
    (given : entries ≠ [])
    (shape : BodyShape) :
    requireBody (some ⟨shape, (writtenEntries entries).toList⟩) =
      .ok ⟨shape, (writtenEntries entries).toList⟩ := by
  have colon : ':' ∈ (writtenEntries entries).toList := by
    rw [toList_writtenEntries]
    cases entries with
    | nil => exact (given rfl).elim
    | cons entry others => cases others <;> simp [Entry.written]
  have unblank :
      Body.isBlank ⟨shape, (writtenEntries entries).toList⟩ = false := by
    apply List.all_eq_false.mpr
    exact ⟨':', colon, by decide⟩
  simp [requireBody, unblank]

/-- What reads the parts of a body without the blanks around them reads the
entries one after another. -/
theorem foldlM_writtenEntries
    {α : Type}
    {step : α → List Char → Reading α}
    (trims : ∀ state part, step state (Text.trim part) = step state part)
    (given : entries ≠ [])
    (writable : ∀ entry ∈ entries, entry.Writable)
    (start : α) :
    (splitTopLevel (writtenEntries entries).toList).foldlM step start =
      entries.foldlM (fun state entry => step state entry.written.toList)
        start := by
  have trimmed :
      ∀ parts : List (List Char),
        (parts.map Text.trim).foldlM step start =
          parts.foldlM step start := by
    intro parts
    simp only [List.foldlM_map, trims]
  have passes :
      ∀ part ∈ entries.map fun entry => entry.written.toList,
        PartPasses part := by
    intro part member
    obtain ⟨entry, isEntry, rfl⟩ := List.mem_map.mp member
    exact (writable entry isEntry).passes.2
  rw [toList_writtenEntries, ← trimmed,
    map_trim_splitTopLevel (by simpa using given) passes, trimmed,
    List.foldlM_map]

end Body

/-! ## Structured bodies -/

/-- What entries stand for together: the bare ones in order, and as the value
the last one that is not bare. -/
def Structured.ofEntries (entries : List Entry) : Structured :=
  { value :=
      (entries.filter fun entry => !entry.isBare).getLast?.map Entry.unsplit
    entries := (entries.filter Entry.isBare).map Entry.pair }

/-- A structured value holds entries as they were given: all of them in
order, nothing besides, and under each key the value that came first. -/
structure Structured.Decodes
    (structured : Structured)
    (entries : List Entry) : Prop where
  entries_eq : structured.entries = entries.map Entry.pair
  value_eq : structured.value = none
  get?_eq :
    ∀ before entry after,
      entries = before ++ entry :: after →
      (∀ other ∈ before, other.key ≠ entry.key) →
      structured.get? entry.key = some entry.value

/-- The first of some entries is read before the others. -/
theorem Structured.ofEntries_cons
    (entry : Entry)
    (entries : List Entry) :
    ofEntries (entry :: entries) =
      entry.reading.merge (ofEntries entries) := by
  cases bare : entry.isBare with
  | true => simp [ofEntries, Entry.reading, merge, bare]
  | false =>
      cases last :
          (entries.filter fun entry => !entry.isBare).getLast? with
      | none =>
          simp [ofEntries, Entry.reading, merge, bare, List.getLast?_cons,
            last]
      | some later =>
          simp [ofEntries, Entry.reading, merge, bare, List.getLast?_cons,
            last]

/-- The blanks around a part do not belong to it. -/
theorem addStructured_trim
    (structured : Structured)
    (part : List Char) :
    addStructured structured (Text.trim part) =
      addStructured structured part := by
  simp [addStructured, Text.trim_trim]

/-- Entries are read into a structured value one after another. -/
theorem foldlM_addStructured
    {entries : List Entry}
    (writable : ∀ entry ∈ entries, entry.Writable)
    (start : Structured) :
    entries.foldlM
        (fun state entry => addStructured state entry.written.toList)
        start =
      .ok (start.merge (.ofEntries entries)) := by
  induction entries generalizing start with
  | nil => simp [Structured.ofEntries, Structured.merge]; rfl
  | cons entry entries inductionHypothesis =>
      have added := (writable entry List.mem_cons_self).addStructured_written
        start
      have later := inductionHypothesis
        (fun other member => writable other (List.mem_cons_of_mem _ member))
        (start.merge entry.reading)
      have associative : Std.Associative Structured.merge := inferInstance
      rw [List.foldlM_cons, added, Structured.ofEntries_cons,
        ← associative.assoc]
      exact later

/-- Entries are decoded exactly if all of their keys are bare. -/
theorem Structured.decodes_ofEntries_iff
    {entries : List Entry} :
    (ofEntries entries).Decodes entries ↔
      ∀ entry ∈ entries, entry.isBare = true := by
  constructor
  · intro decodes entry member
    have none : entries.filter (fun entry => !entry.isBare) = [] := by
      simpa [ofEntries] using decodes.value_eq
    simpa using List.filter_eq_nil_iff.mp none entry member
  · intro bare
    have all : entries.filter Entry.isBare = entries :=
      List.filter_eq_self.mpr bare
    have pairs : (ofEntries entries).entries = entries.map Entry.pair :=
      congrArg (List.map Entry.pair) all
    refine ⟨pairs, by simpa [ofEntries] using bare, ?_⟩
    rintro before entry after shape new
    have absent : (before.map Entry.pair).lookup entry.key = none := by
      apply List.lookup_eq_none_iff.mpr
      rintro pair member
      obtain ⟨other, inFront, rfl⟩ := List.mem_map.mp member
      simpa [Entry.pair] using Ne.symm (new other inFront)
    rw [get?, pairs, shape, List.map_append, List.lookup_append, absent]
    simp [Entry.pair]

/-- A directive whose body is structured. -/
inductive Mapping where
  | cast
  | typeHint
  deriving Repr, DecidableEq

namespace Mapping

/-- The tag of a directive. -/
def tag : Mapping → String
  | cast => "cast"
  | typeHint => "type"

/-- The set that holds what a directive says and nothing else. -/
def only (mapping : Mapping) (structured : Structured) : Set :=
  match mapping with
  | cast => { cast := some structured }
  | typeHint => { typeHint := some structured }

/-- A directive puts what its body says into the set. -/
theorem add_tag
    (mapping : Mapping)
    {body : Option Body}
    {structured : Structured}
    (read : readStructured body = .ok structured) :
    Set.add {} mapping.tag body = .ok (mapping.only structured) := by
  cases mapping <;> simp [tag, Set.add, read, only, mergeStructured]

end Mapping

namespace Set

/--
Structured bodies are read exactly, up to the entries whose keys are quoted.

For both directives with a structured body and all entries that can be
written, the bare entries are decoded in order, and the last entry with a
quoted key becomes the bare value of the directive.  So all entries are
decoded just if all keys are bare.
-/
theorem parse_entries_iff
    (mapping : Mapping)
    {entries : List Entry}
    (given : entries ≠ [])
    (writable : ∀ entry ∈ entries, entry.Writable) :
    ∃ structured : Structured,
      parse
          ("@" ++ mapping.tag ++ "\x7b" ++ writtenEntries entries ++
            "\x7d") =
        .ok (mapping.only structured) ∧
        structured.entries =
          (entries.filter Entry.isBare).map Entry.pair ∧
        structured.value =
          (entries.filter fun entry => !entry.isBare).getLast?.map
            Entry.unsplit ∧
        (structured.Decodes entries ↔
          ∀ entry ∈ entries, entry.isBare = true) := by
  let body : Body := ⟨.block, (writtenEntries entries).toList⟩
  let afterTag : List Char :=
    '{' :: ((writtenEntries entries).toList ++ ['}'])
  have whole : isTag mapping.tag.toList = true := by
    cases mapping <;> decide
  have stops :
      ∀ character ∈ afterTag.head?,
        Text.isWordCharacter character = false := by
    rintro character ⟨⟩
    decide
  have bodied : readBody afterTag = .ok (some body, []) :=
    Delimiters.curly.readBody_eq (groupPasses_writtenEntries writable) []
  have read : readStructured (some body) = .ok (.ofEntries entries) := by
    have parts := foldlM_writtenEntries addStructured_trim given writable {}
    rw [foldlM_addStructured writable] at parts
    have empty : ({} : Structured).merge (.ofEntries entries) =
        .ofEntries entries := by
      simp [Structured.merge]
    rw [empty] at parts
    unfold readStructured
    rw [requireBody_writtenEntries given]
    exact parts
  have added := mapping.add_tag read
  have uncommented :
      { mapping.only (.ofEntries entries) with comment := none } =
        mapping.only (.ofEntries entries) := by
    cases mapping <;> rfl
  refine ⟨.ofEntries entries, ?_, rfl, rfl,
    Structured.decodes_ofEntries_iff⟩
  rw [← uncommented]
  refine parse_tag ?_ whole stops bodied added rfl
  simp [afterTag]

/-- The types of two columns, one of them under a quoted key. -/
def priceEntries : List Entry :=
  [{ key := "price_net", value := "decimal:2, \x7bsigned\x7d" },
    { style := .double, key := "tags", value := "array" },
    { key := "größe", value := "" }]

/-- Of the three entries, only the two with bare keys are decoded. -/
theorem parse_entries_iff_prices :
    priceEntries ≠ [] ∧
      (∀ entry ∈ priceEntries, entry.Writable) ∧
      ∃ structured : Structured,
        parse
            ("@" ++ Mapping.typeHint.tag ++ "\x7b" ++
              writtenEntries priceEntries ++ "\x7d") =
          .ok (Mapping.typeHint.only structured) ∧
          structured.entries =
            [("price_net", "decimal:2, \x7bsigned\x7d"), ("größe", "")] ∧
          structured.value = some "\"tags\": 'array'" ∧
          ¬ structured.Decodes priceEntries := by
  have given : priceEntries ≠ [] := by decide
  have writable : ∀ entry ∈ priceEntries, entry.Writable := by
    decide +kernel
  obtain ⟨structured, parsed, bare, value, decodes⟩ :=
    parse_entries_iff .typeHint given writable
  refine ⟨given, writable, structured, parsed, bare.trans (by decide),
    value.trans (by decide), ?_⟩
  rw [decodes]
  decide

/-- A single entry with a quoted key is not decoded. -/
theorem exists_entries_not_decoded :
    parse "@cast\x7b'price': 'decimal:2'\x7d" =
        .ok { cast := some { value := some "price': 'decimal:2" } } ∧
      ¬ ∀ (mapping : Mapping) (entries : List Entry),
        entries ≠ [] →
        (∀ entry ∈ entries, entry.Writable) →
        ∃ structured : Structured,
          parse
              ("@" ++ mapping.tag ++ "\x7b" ++ writtenEntries entries ++
                "\x7d") =
            .ok (mapping.only structured) ∧
            structured.Decodes entries := by
  have parsed :
      parse "@cast\x7b'price': 'decimal:2'\x7d" =
        .ok { cast := some { value := some "price': 'decimal:2" } } := by
    decide +kernel
  refine ⟨parsed, fun decoded => ?_⟩
  obtain ⟨structured, read, decodes⟩ :=
    decoded .cast
      [{ style := .single, key := "price", value := "decimal:2" }]
      (by decide) (by decide +kernel)
  have same := Except.ok.inj (parsed.symm.trans read)
  have value := decodes.value_eq
  obtain rfl := Option.some.inj (congrArg Set.cast same)
  cases value

end Set

end Tablewright.Directive
