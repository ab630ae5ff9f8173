import Tablewright.Proofs.Column.Reference
import Tablewright.Proofs.Migration.Closed
import Tablewright.Proofs.Relation.Reference

namespace Tablewright

/-!
# References that a compilation of a valid document follows

Validation looks at the names in a document once, and the compiler takes them
for granted later on.  It may: whatever it looks up while it infers relations
and builds tables is there, for the junction models as well, which have never
been validated.
-/

open Schema

/-- A traced computation arrives at a given outcome, and everything that it
looks up exists. -/
structure Traced.Covers
    {α : Type}
    (document : Document)
    (traced : Traced α)
    (outcome : Outcome α) : Prop where
  outcome_eq : traced.outcome = outcome
  resolves : traced.Resolves document

namespace Generator

/-- The models that have tables: those of the document, and the junction
models that some registries of relations ask for. -/
inductive Tabled (document : Document) : Model → Prop
  | declared
      {model : Model}
      (member : model ∈ document.models) :
      Tabled document model
  | junction
      {registries : List (String × Relation.Registry)}
      {junctions : List Model}
      (synthesized :
        Migration.synthesizePivots document registries = .ok junctions)
      {model : Model}
      (member : model ∈ junctions) :
      Tabled document model

theorem Tabled.closedIn
    {document : Document}
    (closed : document.Closed)
    {model : Model}
    (tabled : Tabled document model) :
    model.ClosedIn document := by
  cases tabled with
  | declared member => exact closed.model model member
  | junction synthesized member =>
      exact Migration.closedIn_of_synthesizePivots closed synthesized member

/-- In a valid document every name that is looked up belongs to something.
This goes for the inference of the relations of any model, and for the key,
the unique columns and the table of each model that has a table. -/
theorem references_resolve_of_valid
    {document : Document}
    (valid : document.validate.errors = []) :
    (∀ (options : Relation.Options) (name : String),
      (Traced.inferModel options document name).Covers document
        (Relation.inferModel options document name)) ∧
      ∀ model, Tabled document model →
        (Traced.primaryKeyColumns model).Covers document
            (.ok model.primaryKeyColumns) ∧
          (Traced.uniqueSets model).Covers document
            (.ok model.uniqueSets) ∧
          ∀ context : Context, context.document = document →
            (Traced.tableOf context model).Covers document
              (Table.ofModel context model) := by
  have closed := Document.closed_of_valid valid
  refine ⟨?inference, ?tables⟩
  case inference =>
    intro options name
    exact {
      outcome_eq := Traced.outcome_inferModel options document name
      resolves := Traced.resolves_inferModel closed options name }
  case tables =>
    intro model tabled
    have closedIn := tabled.closedIn closed
    refine ⟨?key, ?unique, ?table⟩
    case key =>
      exact {
        outcome_eq := Traced.outcome_primaryKeyColumns model
        resolves := Traced.resolves_primaryKeyColumns closedIn }
    case unique =>
      exact {
        outcome_eq := Traced.outcome_uniqueSets model
        resolves := Traced.resolves_uniqueSets closedIn }
    case table =>
      rintro context rfl
      exact {
        outcome_eq := Traced.outcome_tableOf context model
        resolves := Traced.resolves_tableOf closedIn }

/-- A hall of a city, which is known by the city and its label. -/
def bookedHall : Model :=
  { name := "Hall"
    fields :=
      [ (Field.scalar "city" "String").withDbName "hall_city",
        .scalar "label" "String",
        (Field.relation "bookings" "Booking").list,
        (Field.relation "guides" "Guide").list ]
    primaryKey := some { fields := ["city", "label"] } }

/-- The booking of a hall. -/
def hallBooking : Model :=
  { name := "Booking"
    fields :=
      [ .autoincrementId,
        (Field.scalar "city" "String").withDbName "booked_city",
        .scalar "label" "String",
        .ofKind "purpose" .enumeration "Purpose",
        (Field.relation "hall" "Hall").references ["city", "label"]
          ["city", "label"] ]
    indexes := [{ kind := .unique, fields := ["city", "label"] }] }

/-- Halls with their bookings and guides. -/
def hallDocument : Document :=
  { models :=
      [ bookedHall, hallBooking,
        { name := "Guide"
          fields :=
            [ .autoincrementId, (Field.relation "halls" "Hall").list ] } ]
    enums :=
      [ { name := "Purpose"
          values := [{ name := "lecture" }, { name := "concert" }] } ] }

/-- Halls are valid.  The relation of a booking asks the hall for its columns,
the table of a booking asks for the purposes, and the table that joins guides
to halls asks both of them for their keys; all of this is there. -/
theorem references_resolve_of_valid_halls :
    hallDocument.validate.errors = [] ∧
      (.column bookedHall "city" ∈
          (Traced.inferModel {} hallDocument "Booking").references ∧
        (Traced.inferModel {} hallDocument "Booking").Covers hallDocument
          (Relation.inferModel {} hallDocument "Booking")) ∧
      ∃ context registries junctions,
        Context.ofDocument hallDocument {} = .ok context ∧
          Migration.synthesizePivots hallDocument registries =
            .ok junctions ∧
          junctions.map Model.tableName = ["Guide_Hall"] ∧
          ∀ model ∈ hallBooking :: junctions,
            (Traced.tableOf context model).Covers hallDocument
              (Table.ofModel context model) := by
  have valid : hallDocument.validate.errors = [] := by decide +kernel
  have asked :
      .column bookedHall "city" ∈
        (Traced.inferModel {} hallDocument "Booking").references := by
    decide +kernel
  have read :
      Context.ofDocument hallDocument {} = .ok ⟨hallDocument, {}, [], []⟩ := by
    decide +kernel
  have synthesized :
      ((Relation.inferDocument {} hallDocument >>=
          Migration.synthesizePivots hallDocument).map
            (List.map Model.tableName)) =
        .ok ["Guide_Hall"] := by
    decide +kernel
  obtain ⟨junctions, made, names⟩ := Outcome.map_eq_ok_iff.mp synthesized
  obtain ⟨registries, _, made⟩ := Outcome.bind_eq_ok_iff.mp made
  obtain ⟨inference, tables⟩ := references_resolve_of_valid valid
  refine ⟨valid, ⟨asked, inference {} "Booking"⟩, _, registries, junctions,
    read, made, names, ?_⟩
  intro model member
  have tabled : Tabled hallDocument model := by
    rcases List.mem_cons.mp member with rfl | isJunction
    · exact .declared (by decide)
    · exact .junction made isJunction
  obtain ⟨_, _, table⟩ := tables model tabled
  exact table _ rfl

end Generator

end Tablewright
