import Tablewright.Rule.Described
import Tablewright.Proofs.Rule.Pass
import Tablewright.Proofs.Rule.Stability

namespace Tablewright

/-!
# What resolutions leave alone

A table can be resolved again and again, with other rules each time.  As long
as rules change it by suppression only, built-in ones aside, a column is never
changed but for its suppression and its foreign key.  Whatever is suppressed
stays so and is not visited again, a foreign key is attached by the shorthand
for foreign keys only, and no utility rule is applied twice.
-/

/-- A rule that changes tables by suppression only. -/
def ColumnRule.OnlySuppresses (rule : ColumnRule) : Prop :=
  ∀ context table position, ∃ suppressed : List Nat,
    (rule.render context table position).table =
      suppressed.foldl Table.suppress table

/-- A rule set whose column rules are built in or change tables by suppression
only. -/
def RuleSet.Restrained (rules : RuleSet) : Prop :=
  ∀ rule ∈ rules.columnRules,
    (∃ shorthand : Shorthand, rule = shorthand.rule) ∨
      rule.OnlySuppresses

theorem ColumnRule.onlySuppresses_structural :
    structural.OnlySuppresses :=
  fun _ _ _ => ⟨[], rfl⟩

/-- Described rules change tables by suppression only. -/
theorem DescribedRule.onlySuppresses_rule
    (described : DescribedRule) :
    described.rule.OnlySuppresses := by
  intro context table position
  change ∃ suppressed : List Nat,
    described.suppressed.foldl _ table =
      suppressed.foldl Table.suppress table
  generalize described.suppressed = names
  induction names generalizing table with
  | nil => exact ⟨[], rfl⟩
  | cons name rest inductionHypothesis =>
      rw [List.foldl_cons]
      cases table.find? name with
      | none => exact inductionHypothesis table
      | some found =>
          obtain ⟨suppressed, same⟩ :=
            inductionHypothesis (table.suppress found)
          exact ⟨found :: suppressed, same⟩

theorem RuleSet.restrained_standard : standard.Restrained := by
  intro rule member
  obtain ⟨shorthand, _, rfl⟩ := List.mem_map.mp member
  exact Or.inl ⟨shorthand, rfl⟩

/-- A recognised column is there. -/
theorem Shorthand.exists_column_of_test
    {shorthand : Shorthand}
    {table : Table}
    {position : Nat}
    (recognised : shorthand.test table position = true) :
    ∃ column, table.column? position = some column := by
  cases held : table.column? position with
  | some column => exact ⟨column, rfl⟩
  | none =>
      cases shorthand <;>
        simp [test, Table.isIdentity, Table.timestampSibling?,
          Table.isSoftDelete, Table.isRememberToken, Table.morphPair?,
          held] at recognised

namespace Table

/-- The foreign key at a position. -/
def foreignKey? (table : Table) (position : Nat) : Option ForeignKey :=
  (table.column? position).bind Column.foreignKey

@[simp]
theorem foreignKey?_suppress
    (table : Table)
    (position other : Nat) :
    (table.suppress position).foreignKey? other =
      table.foreignKey? other := by
  simp only [foreignKey?, suppress, column?_update]
  split
  · cases table.column? other <;> rfl
  · rfl

theorem foreignKey?_attach_of_ne
    {position other : Nat}
    (different : position ≠ other)
    (table : Table)
    (key : ForeignKey) :
    (table.attach position key).foreignKey? other =
      table.foreignKey? other := by
  rw [foreignKey?, attach, column?_update_of_ne different, foreignKey?]

theorem foreignKey?_foldl_suppress
    (suppressed : List Nat)
    (table : Table)
    (position : Nat) :
    (suppressed.foldl suppress table).foreignKey? position =
      table.foreignKey? position := by
  induction suppressed generalizing table with
  | nil => rfl
  | cons first rest inductionHypothesis =>
      rw [List.foldl_cons, inductionHypothesis, foreignKey?_suppress]

/-- A table that may follow another one: a later state of its columns, with no
utility rule forgotten. -/
structure Continues (before after : Table) : Prop where
  later : Later before after
  consumed : before.consumed ⊆ after.consumed

namespace Continues

theorem refl (table : Table) : Continues table table :=
  ⟨Later.refl table, List.Subset.refl _⟩

theorem trans
    {first second third : Table}
    (earlier : Continues first second)
    (later : Continues second third) :
    Continues first third :=
  ⟨earlier.later.trans later.later,
    fun _ member => later.consumed (earlier.consumed member)⟩

theorem suppress
    (table : Table)
    (position : Nat) :
    Continues table (table.suppress position) :=
  ⟨Later.suppress table position, List.Subset.refl _⟩

theorem foldl_suppress
    (suppressed : List Nat)
    (table : Table) :
    Continues table (suppressed.foldl Table.suppress table) := by
  induction suppressed generalizing table with
  | nil => exact refl table
  | cons first rest inductionHypothesis =>
      exact (suppress table first).trans (inductionHypothesis _)

theorem consume
    (table : Table)
    (rule : String) :
    Continues table (table.consume rule) :=
  ⟨⟨rfl, (Later.refl table).columns⟩,
    fun _ member => Text.mem_insertSorted.mpr (Or.inr member)⟩

end Continues

/-- A shorthand changes no foreign key but that of the column that it creates
along with a marker, which it suppresses. -/
theorem Rendered.foreignKey?_changes
    {table : Table}
    {position : Nat}
    {column : Column}
    {shorthand : Shorthand}
    {rendering : Rendering}
    (rendered : Rendered table position column (some shorthand) rendering)
    (held : table.column? position = some column)
    {other : Nat}
    (changed :
      rendering.table.foreignKey? other ≠ table.foreignKey? other) :
    shorthand = .foreignKey ∧
      position = other ∧
      ∃ marker holder key,
        table.column? marker = some holder ∧
          holder.isMarker = true ∧
          holder.ignored = false ∧
          holder.foreignKey = some key ∧
          rendering.table.isIgnored marker = true ∧
          rendering.table.foreignKey? other = some key := by
  cases rendered with
  | collapsed marker holder key isColumn found markerHeld owning =>
      obtain ⟨_, _, sameHeld, marks, active, _⟩ :=
        exists_of_ownerOf? held found
      obtain rfl := Option.some.inj (sameHeld.symm.trans markerHeld)
      have here : position = other := by
        by_contra elsewhere
        apply changed
        rw [foreignKey?_attach_of_ne elsewhere, foreignKey?_suppress]
      subst here
      have apart := ne_of_ownerOf? held isColumn found
      refine ⟨rfl, rfl, marker, _, key, markerHeld, marks, active,
        (Column.owningKey?_eq_some_iff.mp owning).1, ?_, ?_⟩
      · rw [isIgnored_attach, isIgnored,
          column?_suppress_self markerHeld]
        rfl
      · have still : (table.suppress marker).column? position =
            some column :=
          (column?_suppress_of_ne apart).trans held
        rw [foreignKey?, attach, column?_update_self still]
        rfl
  | timestamps => exact (changed (foreignKey?_suppress _ _ _)).elim
  | morphs =>
      refine (changed ?_).elim
      rw [foreignKey?_suppress, foreignKey?_suppress]
  | identity => exact (changed rfl).elim
  | softDeletes => exact (changed rfl).elim
  | rememberToken => exact (changed rfl).elim
  | deferred => exact (changed rfl).elim

end Table

/-! ## Steps -/

namespace Step

/-- A step attaches a foreign key to a column: the shorthand for foreign keys
renders the column, with the key of a marker that it suppresses. -/
inductive Attaches (position : Nat) : Step → Prop
  | visit
      {visit : Visit}
      {marker : Nat}
      {holder : Column}
      {key : ForeignKey}
      (rendersWith : visit.rule = Shorthand.foreignKey.rule)
      (renders : visit.position = position)
      (held : visit.before.column? marker = some holder)
      (marks : holder.isMarker = true)
      (active : holder.ignored = false)
      (keyed : holder.foreignKey = some key)
      (suppressed : visit.after.isIgnored marker = true)
      (attached : visit.after.foreignKey? position = some key) :
      Attaches position (.visit visit)

/-- What every step of a resolution with restrained rules keeps. -/
structure Framed (step : Step) : Prop where
  continues : Table.Continues step.before step.after
  visitsActive :
    ∀ position,
      step.contribution.position = some position →
        step.before.isIgnored position = false
  attaches :
    ∀ position,
      step.after.foreignKey? position ≠ step.before.foreignKey? position →
        step.Attaches position
  firesOnce :
    step.contribution.position = none →
      step.contribution.rule ∉ step.before.consumed ∧
        step.contribution.rule ∈ step.after.consumed

/-- A step respects an earlier state of the table: it leads to a table that
may follow, and contributes nothing for what is passed over there. -/
structure Respects (state : Table) (step : Step) : Prop where
  continues : Table.Continues state step.after
  skips :
    ∀ position,
      state.isIgnored position = true →
        step.contribution.position ≠ some position

theorem Framed.respects
    {step : Step}
    (framed : step.Framed)
    {state : Table}
    (continues : Table.Continues state step.before) :
    step.Respects state := by
  constructor
  · exact continues.trans framed.continues
  · intro position ignored visits
    have active := continues.later.isIgnored_eq_false
      (framed.visitsActive position visits)
    rw [ignored] at active
    cases active

end Step

namespace RuleSet

/-- A visit with restrained rules applies a shorthand that recognises its
column, or suppresses columns. -/
theorem Restrained.rendered_or_suppresses
    {rules : RuleSet}
    (restrained : rules.Restrained)
    {context : RuleContext}
    {positions : List Nat}
    {table : Table}
    {visit : Visit}
    (member : visit ∈ rules.visits context positions table) :
    (∃ shorthand column,
        visit.rule = shorthand.rule ∧
          visit.before.column? visit.position = some column ∧
          Table.Rendered visit.before visit.position column
            (some shorthand) visit.rendering) ∨
      ∃ suppressed : List Nat,
        visit.after = suppressed.foldl Table.suppress visit.before := by
  obtain ⟨_, chosen⟩ := rules.of_mem_visits context member
  cases found :
      rules.matching? visit.context visit.before visit.position with
  | none =>
      right
      rw [ruleFor, found, Option.getD_none] at chosen
      rw [Visit.after, Visit.rendering, chosen]
      exact ColumnRule.onlySuppresses_structural _ _ _
  | some rule =>
      rw [ruleFor, found, Option.getD_some] at chosen
      rcases restrained rule (List.mem_of_find?_eq_some found) with
          ⟨shorthand, rfl⟩ | suppresses
      · left
        have recognised := List.find?_some found
        obtain ⟨column, held⟩ :=
          Shorthand.exists_column_of_test recognised
        refine ⟨shorthand, column, chosen, held, ?_⟩
        rw [Visit.rendering, chosen]
        exact Table.rendered_of_test held recognised
      · right
        rw [Visit.after, Visit.rendering, chosen]
        exact suppresses _ _ _

theorem Restrained.framed_visit
    {rules : RuleSet}
    (restrained : rules.Restrained)
    {context : RuleContext}
    {positions : List Nat}
    {table : Table}
    {visit : Visit}
    (member : visit ∈ rules.visits context positions table) :
    (Step.visit visit).Framed := by
  have active := (rules.of_mem_visits context member).1
  have visitsActive :
      ∀ position,
        (Step.visit visit).contribution.position = some position →
          visit.before.isIgnored position = false := by
    intro position visits
    rw [← Option.some.inj visits]
    exact active
  have firesNothing :
      (Step.visit visit).contribution.position ≠ none :=
    Option.some_ne_none _
  rcases restrained.rendered_or_suppresses member with
      ⟨shorthand, column, chosen, held, rendered⟩ | ⟨suppressed, after⟩
  · refine ⟨⟨rendered.later, ?_⟩, visitsActive, ?_,
      fun fires => (firesNothing fires).elim⟩
    · exact fun _ applied => rendered.consumed_eq.symm ▸ applied
    · intro position changed
      obtain ⟨rfl, here, marker, holder, key, markerHeld, marks, unignored,
          keyed, ignored, attached⟩ :=
        rendered.foreignKey?_changes held changed
      exact .visit chosen here markerHeld marks unignored keyed ignored
        attached
  · refine ⟨?_, visitsActive, ?_, fun fires => (firesNothing fires).elim⟩
    · change Table.Continues visit.before visit.after
      rw [after]
      exact Table.Continues.foldl_suppress suppressed visit.before
    · intro position changed
      change visit.after.foreignKey? position ≠ _ at changed
      rw [after, Table.foreignKey?_foldl_suppress] at changed
      exact (changed rfl).elim

theorem framed_firing
    {context : RuleContext}
    {utilities : List UtilityRule}
    {table : Table}
    {firing : Firing}
    (member : firing ∈ firings context utilities table) :
    (Step.firing firing).Framed := by
  refine ⟨Table.Continues.consume _ _, ?_, ?_, ?_⟩
  · intro position visits
    cases visits
  · intro position changed
    exact (changed rfl).elim
  · intro _
    exact ⟨not_mem_consumed_of_mem_firings context member,
      Text.mem_insertSorted.mpr (Or.inl rfl)⟩

/-- Every step of a resolution with restrained rules is framed. -/
theorem Restrained.framed
    {rules : RuleSet}
    (restrained : rules.Restrained)
    {context : RuleContext}
    {table : Table} :
    ∀ step ∈ rules.steps context table, step.Framed := by
  intro step member
  rcases List.mem_append.mp member with visited | fired
  · obtain ⟨visit, isVisit, rfl⟩ := List.mem_map.mp visited
    exact restrained.framed_visit isVisit
  · obtain ⟨firing, isFiring, rfl⟩ := List.mem_map.mp fired
    exact framed_firing isFiring

end RuleSet

/-! ## Several resolutions -/

/-- A resolution to be made. -/
structure Request where
  rules : RuleSet
  context : RuleContext

namespace Request

def resolve (request : Request) (table : Table) : Resolution :=
  request.rules.resolve request.context table

/-- The resolutions of a table, each from where the one before has ended. -/
def resolutions : List Request → Table → List Resolution
  | [], _ => []
  | request :: rest, table =>
      request.resolve table :: resolutions rest (request.resolve table).table

/-- The steps of all of these resolutions. -/
def steps : List Request → Table → List Step
  | [], _ => []
  | request :: rest, table =>
      request.rules.steps request.context table ++
        steps rest (request.resolve table).table

/-- The table after these resolutions. -/
def final (requests : List Request) (table : Table) : Table :=
  requests.foldl (fun table request => (request.resolve table).table) table

theorem contributions_resolutions
    (requests : List Request)
    (table : Table) :
    (resolutions requests table).flatMap Resolution.contributions =
      (steps requests table).map Step.contribution := by
  induction requests generalizing table with
  | nil => rfl
  | cons request rest inductionHypothesis =>
      rw [resolutions, steps, List.flatMap_cons, List.map_append,
        inductionHypothesis, resolve, RuleSet.contributions_resolve]

theorem leads_steps
    (requests : List Request)
    (table : Table) :
    Step.Leads table (steps requests table) (final requests table) := by
  induction requests generalizing table with
  | nil => exact .done table
  | cons request rest inductionHypothesis =>
      exact (RuleSet.leads_steps request.rules request.context table).append
        (inductionHypothesis _)

theorem framed_steps
    {requests : List Request}
    (restrained : ∀ request ∈ requests, request.rules.Restrained)
    (table : Table) :
    ∀ step ∈ steps requests table, step.Framed := by
  induction requests generalizing table with
  | nil => exact fun _ absent => (List.not_mem_nil absent).elim
  | cons request rest inductionHypothesis =>
      rw [List.forall_mem_cons] at restrained
      intro step member
      rcases List.mem_append.mp member with now | later
      · exact restrained.1.framed step now
      · exact inductionHypothesis restrained.2 _ step later

/--
Resolutions of a table with restrained rules consist of steps, each from where
the one before has ended.  In every state after a step the table has the
columns and indexes that it had in all states before, but for suppression and
foreign keys; what was suppressed or applied before still is, and no step
contributes for a column that was suppressed before.  A foreign key changes
only when the shorthand for foreign keys attaches that of a marker, which it
suppresses.  No utility rule contributes twice.
-/
theorem resolutions_keep_frame
    {requests : List Request}
    (restrained : ∀ request ∈ requests, request.rules.Restrained)
    (table : Table) :
    (resolutions requests table).flatMap Resolution.contributions =
        (steps requests table).map Step.contribution ∧
      Step.Leads table (steps requests table) (final requests table) ∧
      (∀ step ∈ steps requests table, step.Respects table) ∧
      (steps requests table).Pairwise (fun earlier later =>
        later.Respects earlier.after) ∧
      (∀ step ∈ steps requests table,
        ∀ position,
          step.after.foreignKey? position ≠
              step.before.foreignKey? position →
            step.Attaches position) ∧
      ((((resolutions requests table).flatMap
          Resolution.contributions).filter
            (fun contribution => contribution.position.isNone)).map
              Contribution.rule).Nodup := by
  have leads := leads_steps requests table
  have framed := framed_steps restrained table
  obtain ⟨fromStart, between⟩ :=
    leads.kept Table.Continues.refl Table.Continues.trans
      fun step member => (framed step member).continues
  rw [contributions_resolutions]
  refine ⟨rfl, leads, ?_, ?_, ?_, ?_⟩
  · intro step member
    exact (framed step member).respects (fromStart step member)
  · refine between.imp_of_mem ?_
    intro earlier later _ isLater continues
    exact (framed later isLater).respects continues
  · intro step member
    exact (framed step member).attaches
  · -- What is applied in an earlier step is known to be applied later.
    rw [List.Nodup, List.pairwise_map, List.pairwise_filter,
      List.pairwise_map]
    refine between.imp_of_mem ?_
    intro earlier later isEarlier isLater continues firesEarlier firesLater
      same
    have applied := ((framed earlier isEarlier).firesOnce
      (Option.isNone_iff_eq_none.mp firesEarlier)).2
    have unapplied := ((framed later isLater).firesOnce
      (Option.isNone_iff_eq_none.mp firesLater)).1
    rw [same] at applied
    exact unapplied (continues.consumed applied)

/-- Posts with an author and a code that they had in a former system. -/
def articleTable : Table :=
  { columns :=
      [ { Column.plain "id" .integer with
          primary := true, autoIncrement := true },
        { Column.plain "title" .string with unique := true },
        Column.plain "former_code" .string,
        .marker "author"
          (some
            { field := "author"
              targetTable := "users"
              localColumns := ["author_id"]
              references := ["id"] }),
        Column.plain "author_id" .integer ] }

/-- A rule for titles that passes over the former code. -/
def titleRule : ColumnRule :=
  DescribedRule.rule
    { name := "title"
      column := some "title"
      lines := ["$table->string('title', 120);"]
      suppressed := ["former_code"] }

/-- Articles are resolved with the rule for titles, and then without it. -/
def articleRequests : List Request :=
  [ ⟨{ RuleSet.standard with
        columnRules := RuleSet.standard.columnRules ++ [titleRule] },
      ⟨"Article", "articles"⟩⟩,
    ⟨.standard, ⟨"Article", "articles"⟩⟩ ]

/-- The second resolution of articles leaves the former code out as well, and
the utility rules have nothing left to do. -/
theorem resolutions_keep_frame_articles :
    (∀ request ∈ articleRequests, request.rules.Restrained) ∧
      ((resolutions articleRequests articleTable).map fun resolution =>
          resolution.lines.map Code.Line.text) =
        [ [ "$table->id();", "$table->string('title', 120);",
            "$table->foreignId('author_id')->constrained('users');",
            "$table->unique('title');" ],
          [ "$table->id();", "$table->string('title');",
            "$table->integer('author_id');" ] ] ∧
      (∀ step ∈ steps articleRequests articleTable,
        step.Respects articleTable) ∧
      (steps articleRequests articleTable).Pairwise (fun earlier later =>
        later.Respects earlier.after) := by
  have restrained : ∀ request ∈ articleRequests, request.rules.Restrained := by
    intro request member
    rcases List.mem_cons.mp member with rfl | member
    · intro rule isRule
      rcases List.mem_append.mp isRule with builtIn | isTitle
      · exact RuleSet.restrained_standard rule builtIn
      · rw [List.mem_singleton.mp isTitle]
        exact Or.inr (DescribedRule.onlySuppresses_rule _)
    · rw [List.mem_singleton.mp member]
      exact RuleSet.restrained_standard
  obtain ⟨_, _, fromStart, between, _⟩ :=
    resolutions_keep_frame restrained articleTable
  exact ⟨restrained, by decide +kernel, fromStart, between⟩

end Request

end Tablewright
