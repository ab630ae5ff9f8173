import Tablewright.Proofs.Rule.Frame
import Tablewright.Proofs.Rule.Placed

namespace Tablewright

/-!
# What the built-in rules copy into a line

Each rule but three quotes what it writes.  Those for timestamps and soft
deletes copy the arguments of their column, and plain creation copies the
arguments that can be read as numbers.  `Statement.Copies` says this of one
statement; a statement is sound just if what it copies are numbers of the
generated code.
-/

open Code

namespace Code

/-- The text of a statement is read as the statement, and every text in it is
placed. -/
structure Statement.Sound (table : Table) (written : Statement) : Prop where
  scanned : scan written.text = some written.tokens
  balanced : balanced written.tokens = true
  placed : ∀ call ∈ written.calls, call.Placed table

/-- A line is a sound statement. -/
def Line.Sound (table : Table) : Line → Prop
  | .statement written => written.Sound table
  | .verbatim _ => False

/-- A statement of placed calls, but for some texts that it copies. -/
structure Statement.Copies
    (table : Table)
    (copied : List String)
    (written : Statement) : Prop where
  starts : written.calls ≠ []
  methods : ∀ call ∈ written.calls, call.method ∈ migrationMethods
  placed :
    ∀ call ∈ written.calls, ∀ argument ∈ call.arguments,
      argument.Placed table call.method ∨
        ∃ code ∈ copied, argument = .verbatim code
  copies :
    ∀ code ∈ copied, ∃ call ∈ written.calls,
      call.method ≠ "default" ∧ .verbatim code ∈ call.arguments

namespace Statement

/-- Placed calls copy nothing. -/
theorem Copies.of_placed
    {table : Table}
    {written : Statement}
    (starts : written.calls ≠ [])
    (placed : ∀ call ∈ written.calls, call.Placed table) :
    written.Copies table [] where
  starts := starts
  methods := fun call member => (placed call member).method
  placed := fun call member argument inCall =>
    Or.inl ((placed call member).arguments argument inCall)
  copies := fun _ absent => (List.not_mem_nil absent).elim

namespace Copies

variable {table : Table} {copied : List String} {written : Statement}

/-- A statement keeps copying the same if the table has further texts. -/
theorem mono
    (made : written.Copies table copied)
    {more : Table}
    (texts : table.texts ⊆ more.texts)
    (numerals : table.numerals ⊆ more.numerals) :
    written.Copies more copied where
  starts := made.starts
  methods := made.methods
  placed := fun call member argument inCall =>
    (made.placed call member argument inCall).imp_left
      (·.mono texts numerals)
  copies := made.copies

/-- A statement is sound just if what it copies are numbers. -/
theorem sound_iff
    (made : written.Copies table copied)
    (taken : ∀ code ∈ copied, code ∈ table.numerals) :
    written.Sound table ↔
      ∀ code ∈ copied, isNumeral code.toList = true := by
  constructor
  · intro sound code member
    obtain ⟨call, inCalls, noDefault, inArguments⟩ :=
      made.copies code member
    exact ((sound.placed call inCalls).arguments _ inArguments).isNumeral
      noDefault
  · intro numerals
    have placed : ∀ call ∈ written.calls, call.Placed table := by
      intro call inCalls
      refine ⟨made.methods call inCalls, ?_⟩
      intro argument inArguments
      rcases made.placed call inCalls argument inArguments with
          placed | ⟨code, member, rfl⟩
      · exact placed
      · exact .number (numerals code member) (taken code member)
    exact ⟨scan_text fun call member => (placed call member).contained,
      balanced_tokens written, placed⟩

/-- A statement is made on the table and ends with a semicolon. -/
theorem opens_and_closes
    (made : written.Copies table copied) :
    "$table->".toList <+: written.text.toList ∧
      [';'] <:+ written.text.toList := by
  obtain ⟨calls⟩ := written
  obtain ⟨first, rest, rfl⟩ := List.exists_cons_of_ne_nil made.starts
  constructor
  · simp [Statement.text, callsText, Call.text]
  · rw [Statement.text, String.toList_append]
    exact List.suffix_append _ _

end Copies

end Statement

end Code

/-! ## What a rule copies -/

/-- The arguments of a column that the rule of a given name copies into its
line. -/
def Column.copied (rule : String) (column : Column) : List String :=
  if ["timestamps_tz", "timestamps", "soft_deletes_tz",
      "soft_deletes"].contains rule then
    column.arguments
  else if rule = "structural" ∧ column.kind ≠ .enumeration ∧
      column.isMarker = false then
    column.arguments.filter (fun argument => isNumber argument.toList)
  else []

/-- The arguments that a contribution to the resolution of a table copies. -/
def Table.copied (table : Table) (contribution : Contribution) :
    List String :=
  ((contribution.position.bind table.column?).map
    (Column.copied contribution.rule)).getD []

/-- What is copied are arguments of the column. -/
theorem Column.copied_subset
    (rule : String)
    (column : Column) :
    column.copied rule ⊆ column.arguments := by
  unfold copied
  split
  · exact List.Subset.refl _
  · split
    · exact List.filter_subset_self _
    · exact List.nil_subset _

/-- A later state of a column has the same arguments to copy. -/
theorem Column.Later.copied_eq
    {before after : Column}
    (later : Later before after)
    (rule : String) :
    after.copied rule = before.copied rule := by
  simp only [copied, later.arguments_eq, later.kind_eq, later.isMarker_eq]

/-- A later state of a table has the same arguments to copy. -/
theorem Table.Later.copied_eq
    {before after : Table}
    (later : Later before after)
    (contribution : Contribution) :
    after.copied contribution = before.copied contribution := by
  unfold copied
  cases contribution.position with
  | none => rfl
  | some position =>
      have related := later.columns position
      simp only [Option.bind_some]
      generalize before.column? position = start at related ⊢
      generalize after.column? position = finish at related ⊢
      cases related with
      | none => rfl
      | some changed => simp [changed.copied_eq]

/-- The name of the rule that renders a column. -/
def ruleName (chosen : Option Shorthand) : String :=
  (chosen.map Shorthand.name).getD "structural"

namespace Table

variable {table : Table} {position : Nat} {column : Column}
variable {chosen : Option Shorthand} {rendering : Rendering}

/-- The rule that renders a column is the shorthand that recognises it. -/
theorem Rendered.name_eq
    (rendered : Rendered table position column chosen rendering)
    (held : table.column? position = some column)
    (context : RuleContext) :
    (RuleSet.standard.ruleFor context table position).name =
      ruleName chosen := by
  cases chosen with
  | some shorthand =>
      rw [RuleSet.ruleFor_standard_of_test
        (rendered.test_eq_true held)]
      rfl
  | none =>
      have unclaimed :
          ∀ shorthand : Shorthand,
            shorthand.test table position = false := by
        cases rendered with
        | constraint _ unclaimed => exact unclaimed
        | plain _ unclaimed => exact unclaimed
      rw [RuleSet.ruleFor_standard_of_unclaimed unclaimed]
      rfl

/-- An argument of plain creation is placed, or it is copied. -/
theorem placed_or_copied_of_mem_builderArguments
    (held : table.column? position = some column)
    (isColumn : column.isMarker = false)
    (method : String)
    {argument : Argument}
    (member : argument ∈ column.builderArguments) :
    argument.Placed table method ∨
      ∃ code ∈ column.copied "structural", argument = .verbatim code := by
  unfold Column.builderArguments at member
  split at member
  · rw [List.mem_singleton.mp member]
    exact Or.inl (.literals fun text inValues =>
      Column.taken_ownTexts held (by simp [Column.ownTexts, inValues]))
  · rename_i notEnumeration
    obtain ⟨width, inArguments, rfl⟩ := List.mem_map.mp member
    unfold widthArgument
    split
    · rename_i number
      refine Or.inr ⟨width, ?_, rfl⟩
      simp [Column.copied, notEnumeration, isColumn, inArguments, number]
    · exact Or.inl (.literal
        (Column.taken_ownTexts held
          (by simp [Column.ownTexts, inArguments])))

/-- What plain creation copies stands among its arguments. -/
theorem verbatim_mem_builderArguments
    {code : String}
    (member : code ∈ column.copied "structural") :
    .verbatim code ∈ column.builderArguments := by
  simp only [Column.copied, List.contains_eq_mem] at member
  rw [if_neg (by decide)] at member
  split at member
  · rename_i shape
    obtain ⟨inArguments, number⟩ := List.mem_filter.mp member
    rw [Column.builderArguments, if_neg shape.2.1]
    exact List.mem_map.mpr
      ⟨code, inArguments, by rw [widthArgument, if_pos number]⟩
  · cases member

/-- The plain creation of a column copies the arguments that can be read as
numbers. -/
theorem copies_creation?
    (fit : table.NumbersFit)
    (held : table.column? position = some column)
    (isColumn : column.isMarker = false)
    {written : Statement}
    (creates : column.creation? = some written) :
    written.Copies table (column.copied "structural") := by
  obtain ⟨method, has, rfl⟩ := Option.map_eq_some_iff.mp creates
  have known : method ∈ migrationMethods := by
    simp [migrationMethods,
      Column.Kind.mem_columnMethods_of_builderMethod? has]
  have noDefault : method ≠ "default" := by
    rintro rfl
    exact absurd (Column.Kind.mem_columnMethods_of_builderMethod? has)
      (by decide)
  have modifiers :
      ∀ call ∈ column.integerCalls ++ column.modifierCalls,
        call.Placed table := by
    intro call member
    rcases List.mem_append.mp member with integer | modifier
    · exact Column.placed_integerCalls call integer
    · exact Column.placed_modifierCalls held fit call modifier
  have name :
      (Argument.literal column.name).Placed table method :=
    .literal (Column.taken_name held)
  refine ⟨List.cons_ne_nil _ _, ?_, ?_, ?_⟩
  · exact List.forall_mem_cons.mpr
      ⟨known, fun call member => (modifiers call member).method⟩
  · refine List.forall_mem_cons.mpr ⟨?_, fun call member argument inCall =>
      Or.inl ((modifiers call member).arguments argument inCall)⟩
    exact List.forall_mem_cons.mpr ⟨Or.inl name, fun argument member =>
      placed_or_copied_of_mem_builderArguments held isColumn method member⟩
  · intro code member
    exact ⟨_, List.mem_cons_self, noDefault,
      List.mem_cons_of_mem _ (verbatim_mem_builderArguments member)⟩

/-- A call that copies texts behind placed arguments. -/
theorem copies_call
    {method : String}
    (front : List Argument)
    {codes : List String}
    (known : method ∈ migrationMethods)
    (noDefault : method ≠ "default")
    (placed : ∀ argument ∈ front, argument.Placed table method) :
    (⟨[⟨method, front ++ codes.map .verbatim⟩]⟩ : Statement).Copies
      table codes := by
  refine ⟨List.cons_ne_nil _ _, by simpa using known, ?_, ?_⟩
  · simp only [List.forall_mem_cons, List.not_mem_nil, false_imp_iff,
      implies_true, and_true]
    intro argument member
    rcases List.mem_append.mp member with inFront | copied
    · exact Or.inl (placed argument inFront)
    · obtain ⟨code, inCodes, rfl⟩ := List.mem_map.mp copied
      exact Or.inr ⟨code, inCodes, rfl⟩
  · intro code member
    refine ⟨_, List.mem_singleton_self _, noDefault, ?_⟩
    exact List.mem_append_right _ (List.mem_map.mpr ⟨code, member, rfl⟩)

/-- A call for soft deletes names its column only in front of arguments. -/
theorem copies_softDeletes
    {method : String}
    (known : method ∈ migrationMethods)
    (noDefault : method ≠ "default")
    (name : "deleted_at" ∈ table.texts)
    (codes : List String) :
    (⟨[⟨method,
      if codes.isEmpty then []
      else .literal "deleted_at" :: codes.map .verbatim⟩]⟩ :
        Statement).Copies table codes := by
  cases codes with
  | nil => exact copies_call [] known noDefault (by simp)
  | cons first rest =>
      exact copies_call [.literal "deleted_at"] known noDefault
        (List.forall_mem_singleton.mpr (.literal name))

/-- The names in an owning key are texts of the table. -/
theorem taken_of_owningKey?
    (held : table.column? position = some column)
    {key : ForeignKey}
    (owning : column.owningKey? = some key) :
    ∀ text ∈ key.texts, text ∈ table.texts := by
  have keyed := (Column.owningKey?_eq_some_iff.mp owning).1
  intro text member
  exact mem_texts_of_column? held
    (List.mem_append_right _ (by simpa [keyed] using member))

/-- The base of a pair stands in front of `_id` in the name of its first
column. -/
theorem name_of_morphPair?
    {family : MorphFamily}
    {pair : MorphPair}
    {idColumn : Column}
    (found : table.morphPair? family position = some pair)
    (held : table.column? pair.idColumn = some idColumn) :
    idColumn.name = pair.base ++ "_id" := by
  obtain ⟨visited, _, _, visitedHeld, _, named, _⟩ :=
    morphPair?_eq_some_iff.mp found
  rcases namedPair?_eq_some_iff.mp named with
      ⟨name, here, _⟩ | ⟨_, _, active⟩
  · rw [here, visitedHeld] at held
    exact Option.some.inj held ▸ name
  · obtain ⟨other, otherHeld, _, _, name⟩ :=
      column?_of_findActive? active
    rw [held] at otherHeld
    exact Option.some.inj otherHeld ▸ name

/-- Every rendered line copies the arguments that its rule copies, and nothing
else. -/
theorem Rendered.copies
    (rendered : Rendered table position column chosen rendering)
    (fit : table.NumbersFit)
    (held : table.column? position = some column) :
    ∀ line ∈ rendering.lines, ∃ written,
      line = .statement written ∧
        written.Copies table (column.copied (ruleName chosen)) := by
  intro line member
  cases rendered with
  | identity recognised =>
      refine ⟨_, List.mem_singleton.mp member, ?_⟩
      refine .of_placed (List.cons_ne_nil _ _) ?_
      refine List.forall_mem_cons.mpr
        ⟨?_, Column.placed_commentCalls held⟩
      split
      · exact .of_method (by decide)
      · refine .of_argument ?_ (.literal (Column.taken_name held))
        simp [migrationMethods,
          column.kind.incrementsMethod?_mem_columnMethods]
  | timestamps zoned sibling found =>
      refine ⟨_, List.mem_singleton.mp member, ?_⟩
      cases zoned with
      | true => exact copies_call [] (by decide) (by decide) (by simp)
      | false => exact copies_call [] (by decide) (by decide) (by simp)
  | softDeletes zoned recognised =>
      refine ⟨_, List.mem_singleton.mp member, ?_⟩
      obtain ⟨_, sameHeld, named, _⟩ := isSoftDelete_iff.mp recognised
      obtain rfl := Option.some.inj (held.symm.trans sameHeld)
      have name : "deleted_at" ∈ table.texts :=
        named ▸ Column.taken_name held
      cases zoned with
      | true => exact copies_softDeletes (by decide) (by decide) name _
      | false => exact copies_softDeletes (by decide) (by decide) name _
  | rememberToken recognised =>
      refine ⟨_, List.mem_singleton.mp member, ?_⟩
      exact .of_placed (List.cons_ne_nil _ _)
        (List.forall_mem_singleton.mpr (.of_method (by decide)))
  | deferred owned marks found => cases member
  | collapsed marker holder key isColumn found markerHeld owning =>
      refine ⟨_, List.mem_singleton.mp member, ?_⟩
      have taken := taken_of_owningKey? markerHeld owning
      refine .of_placed (List.cons_ne_nil _ _) ?_
      simp only [foreignStatement, List.cons_append,
        List.forall_mem_cons, List.forall_mem_append]
      refine ⟨.of_argument ?_ (.literal (Column.taken_name held)),
        Column.placed_modifierCalls held fit,
        ForeignKey.placed_constrainedCall taken,
        ForeignKey.placed_actionCalls⟩
      simp [migrationMethods, foreignMethod?_mem_columnMethods]
  | morphs family pair idColumn found idHeld =>
      refine ⟨_, List.mem_singleton.mp member, ?_⟩
      have noCopies :
          column.copied (ruleName (some (.morphs family))) = [] := by
        cases family <;> rfl
      rw [noCopies]
      refine .of_placed (List.cons_ne_nil _ _) ?_
      rw [List.forall_mem_singleton]
      refine .of_argument ?_
        (.literal (Column.taken_base idHeld (name_of_morphPair? found idHeld)))
      cases family <;> cases idColumn.nullable <;> decide
  | constraint marks unclaimed =>
      obtain ⟨key, owning, rfl⟩ :=
        Option.map_eq_some_iff.mp (Option.mem_toList.mp member)
      have noCopies : column.copied (ruleName none) = [] := by
        simp [Column.copied, ruleName, marks]
      rw [noCopies]
      exact ⟨key.constraint, rfl, .of_placed (List.cons_ne_nil _ _)
        (ForeignKey.placed_constraint (taken_of_owningKey? held owning))⟩
  | plain isColumn unclaimed =>
      obtain ⟨written, creates, rfl⟩ :=
        Option.map_eq_some_iff.mp (Option.mem_toList.mp member)
      exact ⟨written, rfl, copies_creation? fit held isColumn creates⟩

end Table

/-! ## Statements for the table as a whole -/

namespace Utility

variable {table : Table}

/-- A declaration of a key or an index with placed arguments. -/
theorem copies_call
    {method : String}
    (isKey : method ∈ keyMethods)
    {arguments : List Argument}
    (placed : ∀ argument ∈ arguments, argument.Placed table method) :
    (⟨[⟨method, arguments⟩]⟩ : Statement).Copies table [] := by
  have known : method ∈ migrationMethods := by
    simp [migrationMethods, isKey]
  exact .of_placed (List.cons_ne_nil _ _)
    (List.forall_mem_singleton.mpr ⟨known, placed⟩)

/-- The utility rules copy nothing. -/
theorem copies
    (utility : Utility) :
    ∀ line ∈ utility.lines table, ∃ written,
      line = .statement written ∧ written.Copies table [] := by
  intro line member
  cases utility with
  | compositePrimary =>
      simp only [lines, Table.compositePrimaryLines] at member
      split at member
      · cases member
      · refine ⟨_, List.mem_singleton.mp member,
          copies_call (by decide) (List.forall_mem_singleton.mpr ?_)⟩
        refine .columns fun name inNames => ?_
        obtain ⟨column, isKey, rfl⟩ := List.mem_map.mp inNames
        obtain ⟨position, _, held⟩ := List.mem_filterMap.mp isKey
        exact Column.taken_name held
  | singlePrimary =>
      simp only [lines, Table.singlePrimaryLines] at member
      split at member
      · split at member
        · cases member
        · split at member
          · rename_i column held
            exact ⟨_, List.mem_singleton.mp member,
              copies_call (by decide) (List.forall_mem_singleton.mpr
                (.literal (Column.taken_name held)))⟩
          · cases member
      · cases member
  | indexes =>
      simp only [lines, Table.indexLines, List.mem_append, List.mem_map,
        List.mem_filterMap] at member
      rcases member with ⟨name, inNames, rfl⟩ | ⟨index, isIndex, stated⟩
      · obtain ⟨column, picked, rfl⟩ := List.mem_map.mp inNames
        obtain ⟨position, held⟩ :=
          List.mem_iff_getElem?.mp (List.mem_filter.mp picked).1
        exact ⟨_, rfl, copies_call (by decide)
          (List.forall_mem_singleton.mpr
            (.literal (Column.taken_name held)))⟩
      · have taken : ∀ text ∈ index.texts, text ∈ table.texts :=
          fun text inIndex => List.mem_append_right _
            (List.mem_flatMap.mpr ⟨index, isIndex, inIndex⟩)
        unfold Table.indexLine? at stated
        split at stated
        · cases stated
        · obtain ⟨method, chosen, rfl⟩ := Option.map_eq_some_iff.mp stated
          refine ⟨_, rfl, copies_call
            (Table.mem_keyMethods_of_indexMethod? chosen)
            (List.forall_mem_cons.mpr ⟨?_, ?_⟩)⟩
          · exact .columns fun name inColumns =>
              taken name (List.mem_append_left _ inColumns)
          · intro argument isName
            obtain ⟨name, named, rfl⟩ :=
              Option.map_eq_some_iff.mp (Option.mem_toList.mp isName)
            exact .literal (taken name
              (List.mem_append_right _ (Option.mem_toList.mpr named)))

end Utility

end Tablewright
