import Tablewright.Proofs.Relation.Inference
import Tablewright.Proofs.Text.Lines

namespace Tablewright.Relation

open Code
open Schema

/-!
# Discriminator columns in calls

A polymorphic relation carries the two columns that tell its records apart.
The call of a relation without a junction table names columns that its base
does not suggest, so two such relations are told apart by their calls, unless
a quote inside a column shifts the border between the columns.  The call of a
relation through a junction table never names them, so relations that differ
in nothing else have one call.
-/

namespace Discriminator

/-- The columns in the order of a call, with what stands between them. -/
def joined (columns : Discriminator) : String :=
  columns.typeColumn ++ "', '" ++ columns.idColumn

/-- Whether a call without a junction table names the columns. -/
def IsNamedBy (columns : Discriminator) (kind : Kind) : Prop :=
  kind = .morphTo ∨ columns.isConventional = false

/-- What a call without a junction table passes of the columns. -/
def argumentsIn (columns : Discriminator) (kind : Kind) : List Argument :=
  if kind != .morphTo && columns.isConventional then []
  else [.enclosed columns.typeColumn, .enclosed columns.idColumn]

variable {columns others : Discriminator} {kind : Kind}

theorem argumentsIn_of_isNamedBy
    (named : columns.IsNamedBy kind) :
    columns.argumentsIn kind =
      [.enclosed columns.typeColumn, .enclosed columns.idColumn] := by
  rw [argumentsIn, if_neg]
  rcases named with rfl | unconventional
  · simp
  · simp [unconventional]

theorem isConventional_of_not_isNamedBy
    (unnamed : ¬ columns.IsNamedBy kind) :
    kind ≠ .morphTo ∧ columns.isConventional = true := by
  obtain ⟨noChild, conventional⟩ := not_or.mp unnamed
  exact ⟨noChild, by simpa using conventional⟩

theorem argumentsIn_of_not_isNamedBy
    (unnamed : ¬ columns.IsNamedBy kind) :
    columns.argumentsIn kind = [] := by
  obtain ⟨noChild, conventional⟩ := isConventional_of_not_isNamedBy unnamed
  simp [argumentsIn, noChild, conventional]

/-- Conventional columns are settled by their base. -/
theorem eq_of_isConventional
    (first : columns.isConventional = true)
    (second : others.isConventional = true)
    (sameBase : others.base = columns.base) :
    others = columns := by
  rw [isConventional, beq_iff_eq] at first second
  rw [second, sameBase, ← first]

/-- A quote-free type column ends where the call says that it does. -/
theorem eq_of_joined_eq
    (sameBase : others.base = columns.base)
    (otherUnquoted : '\'' ∉ others.typeColumn.toList)
    (unquoted : '\'' ∉ columns.typeColumn.toList)
    (same : others.joined = columns.joined) :
    others = columns := by
  have leads :
      ∀ text rest : List Char,
        '\'' ∉ text →
          (text ++ '\'' :: rest).takeWhile (· != '\'') = text := by
    intro text rest absent
    refine Text.takeWhile_append_of_stops ?_ (by simp)
    intro character member
    exact bne_iff_ne.mpr fun isQuote => absent (isQuote ▸ member)
  have sameCharacters := congrArg String.toList same
  simp only [joined, String.toList_append, List.append_assoc] at sameCharacters
  have types : others.typeColumn.toList = columns.typeColumn.toList := by
    rw [← leads _ (", '".toList ++ others.idColumn.toList) otherUnquoted,
      ← leads _ (", '".toList ++ columns.idColumn.toList) unquoted]
    exact congrArg (List.takeWhile (· != '\'')) sameCharacters
  rw [types] at sameCharacters
  have ids : others.idColumn.toList = columns.idColumn.toList :=
    List.append_cancel_left (List.append_cancel_left sameCharacters)
  cases others
  cases columns
  simp_all [String.toList_inj]

end Discriminator

namespace Definition

variable {relation : Definition} {columns others : Discriminator}

/-- The relation with other discriminator columns. On an owning side the id
column is its foreign key as well. -/
def withColumns (relation : Definition) (keys : List String)
    (columns : Discriminator) : Definition :=
  { relation with foreignKeys := keys, discriminator := some columns }

@[simp]
theorem kind_withColumns
    (relation : Definition)
    (keys : List String)
    (columns : Discriminator) :
    (relation.withColumns keys columns).kind = relation.kind :=
  rfl

@[simp]
theorem modifiers_withColumns
    (relation : Definition)
    (keys : List String)
    (columns : Discriminator) :
    (relation.withColumns keys columns).modifiers = relation.modifiers :=
  rfl

@[simp]
theorem chain_withColumns
    (relation : Definition)
    (keys : List String)
    (columns : Discriminator) :
    (relation.withColumns keys columns).chain = relation.chain :=
  rfl

/-- What a call without a junction table passes in front of the discriminator
columns. -/
def leadingArguments (relation : Definition) (base : String) :
    List Argument :=
  match relation.kind with
  | .morphTo => [.enclosed base]
  | _ => [relation.targetArgument, .enclosed base]

theorem leadingArguments_ne_nil
    (relation : Definition)
    (base : String) :
    relation.leadingArguments base ≠ [] := by
  unfold leadingArguments
  split <;> exact List.cons_ne_nil _ _

/-- The arguments without a junction table. -/
theorem arguments_eq_append
    (isPolymorphic : relation.kind.isPolymorphic = true)
    (isDirect : relation.kind.isPivot = false)
    (discriminated : relation.discriminator = some columns) :
    relation.arguments =
      relation.leadingArguments columns.base ++
        columns.argumentsIn relation.kind := by
  cases isKind : relation.kind <;>
    simp_all [arguments, leadingArguments, Discriminator.argumentsIn,
      Kind.isPolymorphic, Kind.isPivot]
  all_goals split <;> rfl

/-- The arguments through a junction table leave the columns out. -/
theorem arguments_withColumns
    (isPolymorphic : relation.kind.isPolymorphic = true)
    (isPivot : relation.kind.isPivot = true)
    (discriminated : relation.discriminator = some columns)
    (keys : List String)
    (sameBase : others.base = columns.base) :
    (relation.withColumns keys others).arguments = relation.arguments := by
  cases isKind : relation.kind <;>
    simp_all [arguments, withColumns, targetArgument, Kind.isPolymorphic,
      Kind.isPivot]

/-- Calls with the same method and the same calls behind them differ in their
arguments alone. -/
theorem callText_withColumns_eq_iff
    (relation : Definition)
    (keys : List String)
    (others : Discriminator) :
    (relation.withColumns keys others).callText = relation.callText ↔
      ", ".intercalate
          ((relation.withColumns keys others).arguments.map Argument.text) =
        ", ".intercalate (relation.arguments.map Argument.text) := by
  simp only [callText, callsText, Call.text, List.map_cons, String.join_cons,
    String.append_assoc, String.append_right_inj]
  rw [kind_withColumns, modifiers_withColumns, chain_withColumns,
    String.append_right_inj, String.append_right_inj,
    String.append_left_inj]

/-- The text of a call's arguments with the columns behind some others. -/
theorem intercalate_columns
    {leading : List Argument}
    (nonempty : leading ≠ [])
    (columns : Discriminator) :
    ", ".intercalate
        ((leading ++
          [Argument.enclosed columns.typeColumn,
            Argument.enclosed columns.idColumn]).map Argument.text) =
      ", ".intercalate (leading.map Argument.text) ++
        (", " ++ enclose columns.joined) := by
  have border : "', '" = "'" ++ (", " ++ "'") := rfl
  rw [List.map_append, String.intercalate_append_of_ne_nil
    (by simpa using nonempty) (by simp)]
  simp only [Discriminator.joined, border, List.map_cons, List.map_nil,
    String.intercalate_cons_cons, String.intercalate_singleton,
    Argument.text, enclose, String.append_assoc]

theorem intercalate_columns_ne
    {leading : List Argument}
    (nonempty : leading ≠ [])
    (columns : Discriminator) :
    ", ".intercalate
        ((leading ++
          [Argument.enclosed columns.typeColumn,
            Argument.enclosed columns.idColumn]).map Argument.text) ≠
      ", ".intercalate (leading.map Argument.text) := by
  rw [intercalate_columns nonempty]
  intro same
  have longer := congrArg String.length same
  simp [String.length_append] at longer

/-- Which discriminator columns lead to one call without a junction table. -/
theorem callText_withColumns_eq_iff_of_direct
    (isPolymorphic : relation.kind.isPolymorphic = true)
    (isDirect : relation.kind.isPivot = false)
    (discriminated : relation.discriminator = some columns)
    (keys : List String)
    (sameBase : others.base = columns.base) :
    (relation.withColumns keys others).callText = relation.callText ↔
      (others.IsNamedBy relation.kind ↔ columns.IsNamedBy relation.kind) ∧
        others.joined = columns.joined := by
  have nonempty := relation.leadingArguments_ne_nil columns.base
  have replaced :
      (relation.withColumns keys others).arguments =
        relation.leadingArguments columns.base ++
          others.argumentsIn relation.kind := by
    rw [← sameBase]
    exact arguments_eq_append isPolymorphic isDirect rfl
  rw [callText_withColumns_eq_iff, replaced,
    arguments_eq_append isPolymorphic isDirect discriminated]
  by_cases named : columns.IsNamedBy relation.kind <;>
    by_cases otherNamed : others.IsNamedBy relation.kind
  · rw [Discriminator.argumentsIn_of_isNamedBy named,
      Discriminator.argumentsIn_of_isNamedBy otherNamed,
      intercalate_columns nonempty, intercalate_columns nonempty]
    simp [named, otherNamed, enclose]
  · rw [Discriminator.argumentsIn_of_isNamedBy named,
      Discriminator.argumentsIn_of_not_isNamedBy otherNamed, List.append_nil]
    simpa [named, otherNamed] using
      (intercalate_columns_ne nonempty columns).symm
  · rw [Discriminator.argumentsIn_of_isNamedBy otherNamed,
      Discriminator.argumentsIn_of_not_isNamedBy named, List.append_nil]
    simpa [named, otherNamed] using intercalate_columns_ne nonempty others
  · have same : others = columns :=
      Discriminator.eq_of_isConventional
        (Discriminator.isConventional_of_not_isNamedBy named).2
        (Discriminator.isConventional_of_not_isNamedBy otherNamed).2
        sameBase
    simp [same]

/-- The relations that directives declare on a model, and those that its
discriminator pairs give rise to. -/
inductive IsDiscriminated : Definition → Prop
  | owner
      {options : Options}
      {document : Document}
      {model : Model}
      {directives : Directive.Set}
      {relations : List Definition}
      {relation : Definition}
      (declared :
        ownerMorphs options document model directives = .ok relations)
      (member : relation ∈ relations) :
      IsDiscriminated relation
  | child
      {options : Options}
      {model : Model}
      {relation : Definition}
      (detected : relation ∈ detectMorphTo options model) :
      IsDiscriminated relation

/-- What is known of a relation with discriminator columns. -/
theorem IsDiscriminated.exists_columns
    (built : relation.IsDiscriminated) :
    ∃ columns,
      relation.discriminator = some columns ∧
        relation.kind.isPolymorphic = true := by
  cases built with
  | child detected =>
      obtain ⟨_, _, rfl⟩ := eq_of_mem_detectMorphTo detected
      exact ⟨_, rfl, rfl⟩
  | owner declared member =>
      obtain ⟨morph, _, declared⟩ :=
        Outcome.exists_of_mem_mapM declared member
      obtain ⟨_, rfl⟩ := eq_of_ownerMorph declared
      refine ⟨_, rfl, ?_⟩
      cases morph.cardinality <;> rfl

/-- A relation through a junction table has one call for all discriminator
columns. -/
theorem callText_withColumns_of_isPivot
    (isPolymorphic : relation.kind.isPolymorphic = true)
    (isPivot : relation.kind.isPivot = true)
    (discriminated : relation.discriminator = some columns)
    (keys : List String)
    (sameBase : others.base = columns.base) :
    (relation.withColumns keys others).callText = relation.callText := by
  rw [callText_withColumns_eq_iff,
    arguments_withColumns isPolymorphic isPivot discriminated keys sameBase]

/-- A relation without a junction table passes discriminator columns that its
base does not suggest.  Two relations that differ in nothing but these
columns have one call if and only if they go through a junction table, or
both or neither pass their columns and these are the same text next to each
other; where no type column contains a quote, they are the same columns. -/
theorem callText_withColumns_eq_iff_of_isDiscriminated
    (built : relation.IsDiscriminated) :
    ∃ columns,
      relation.discriminator = some columns ∧
        (relation.kind.isPivot = false →
          columns.isConventional = false →
            [Argument.enclosed columns.typeColumn,
              Argument.enclosed columns.idColumn] <:+
                relation.arguments) ∧
        ∀ (keys : List String) (others : Discriminator),
          others.base = columns.base →
            ((relation.withColumns keys others).callText =
                relation.callText ↔
              relation.kind.isPivot = true ∨
                (others.IsNamedBy relation.kind ↔
                  columns.IsNamedBy relation.kind) ∧
                  others.joined = columns.joined) ∧
            ('\'' ∉ columns.typeColumn.toList →
              '\'' ∉ others.typeColumn.toList →
                ((relation.withColumns keys others).callText =
                    relation.callText ↔
                  relation.kind.isPivot = true ∨ others = columns)) := by
  obtain ⟨columns, discriminated, isPolymorphic⟩ := built.exists_columns
  refine ⟨columns, discriminated, ?passed, ?rendered⟩
  case passed =>
    intro isDirect unconventional
    rw [arguments_eq_append isPolymorphic isDirect discriminated,
      Discriminator.argumentsIn_of_isNamedBy (Or.inr unconventional)]
    exact List.suffix_append _ _
  case rendered =>
    intro keys others sameBase
    cases isPivot : relation.kind.isPivot with
    | true =>
        have same := callText_withColumns_of_isPivot isPolymorphic isPivot
          discriminated keys sameBase
        simp [same]
    | false =>
        have direct := callText_withColumns_eq_iff_of_direct isPolymorphic
          isPivot discriminated keys sameBase
        refine ⟨by simpa using direct, fun unquoted otherUnquoted => ?_⟩
        rw [direct]
        constructor
        · rintro ⟨_, same⟩
          exact Or.inr
            (Discriminator.eq_of_joined_eq sameBase otherUnquoted unquoted
              same)
        · rintro (isPivot | rfl)
          · cases isPivot
          · exact ⟨Iff.rfl, rfl⟩

/-- Articles that own records of another model through a discriminator. -/
def owningDocument (documentation : String) : Document :=
  { models :=
      [ { name := "Article", documentation := some documentation },
        { name := "Remark" } ] }

theorem callText_withColumns_eq_iff_of_isDiscriminated_remarks :
    ∃ relation : Definition,
      relation.IsDiscriminated ∧
        relation.callText =
          "$this->morphMany(Remark::class, 'remarkable', 'kind', 'ref')" ∧
        ∀ keys others,
          others.base = "remarkable" →
            '\'' ∉ others.typeColumn.toList →
              ((relation.withColumns keys others).callText =
                  relation.callText ↔
                others = ⟨"remarkable", "ref", "kind"⟩) := by
  let relation : Definition :=
    { name := "remarks"
      kind := .morphMany
      target := some "Remark"
      foreignKeys := ["ref"]
      discriminator := some ⟨"remarkable", "ref", "kind"⟩ }
  have declared :
      ownerMorphs {} (owningDocument "") { name := "Article" }
          { morphs :=
              [ { name := "remarkable"
                  cardinality := .many
                  model := "Remark"
                  idColumn := some "ref"
                  typeColumn := some "kind" } ] } =
        .ok [relation] := by
    decide +kernel
  have built : relation.IsDiscriminated :=
    .owner declared (List.mem_singleton_self relation)
  obtain ⟨columns, discriminated, _, rendered⟩ :=
    callText_withColumns_eq_iff_of_isDiscriminated built
  obtain rfl := Option.some.inj discriminated
  refine ⟨relation, built, by decide +kernel, fun keys others sameBase
    unquoted => ?_⟩
  simpa [relation, Kind.isPivot] using
    (rendered keys others sameBase).2 (by decide) unquoted

/-- Two relations through a junction table that differ in a column which a
directive gives have one call, and the call names neither column. -/
theorem exists_callText_eq_of_columns_ne :
    ∃ (document : Document) (model : Model) (directives : Directive.Set)
      (first second : Definition) (columns others : Discriminator),
      model ∈ document.models ∧
        Directive.Set.ofDocumentation model.documentation =
          .ok directives ∧
        ownerMorphs {} document model directives = .ok [first, second] ∧
        first.discriminator = some columns ∧
        columns.typeColumn = "kind" ∧
        columns.isConventional = false ∧
        second = { first with discriminator := some others } ∧
        others.typeColumn = "sort" ∧
        second.callText = first.callText ∧
        first.callText =
          "$this->morphToMany(Remark::class, 'remarkable', 'remarkables')" := by
  let document := owningDocument
    ("@morph(name: remarkable, type: to-many, model: Remark, " ++
      "type_column: kind)\n" ++
      "@morph(name: remarkable, type: to-many, model: Remark, " ++
      "type_column: sort)")
  let first : Definition :=
    { name := "remarks"
      kind := .morphToMany
      target := some "Remark"
      foreignKeys := ["remarkable_id"]
      junction := some { table := "remarkables" }
      discriminator := some ⟨"remarkable", "remarkable_id", "kind"⟩ }
  refine ⟨document, document.models.head (by decide),
    { morphs :=
        [ { name := "remarkable"
            cardinality := .toMany
            model := "Remark"
            typeColumn := some "kind" },
          { name := "remarkable"
            cardinality := .toMany
            model := "Remark"
            typeColumn := some "sort" } ] },
    first,
    { first with
      discriminator := some ⟨"remarkable", "remarkable_id", "sort"⟩ },
    ⟨"remarkable", "remarkable_id", "kind"⟩,
    ⟨"remarkable", "remarkable_id", "sort"⟩,
    List.head_mem _, ?read, ?declared, rfl, rfl, ?unconventional, rfl, rfl,
    ?same, ?written⟩
  case read => decide +kernel
  case declared => decide +kernel
  case unconventional => decide +kernel
  case same => decide +kernel
  case written => decide +kernel

end Definition

end Tablewright.Relation
