import Tablewright.ModelClass.Builder
import Tablewright.Proofs.Migration.Comment

namespace Tablewright

/-!
# Model classes without comments

A class is read off the columns of its table and the directives of its fields.
It carries the comments along, and nothing else in it depends on them.
-/

open Schema

/-- The attribute with its comment taken away. -/
def Attribute.withoutComment (held : Attribute) : Attribute :=
  { held with comment := none }

namespace ModelClass

/-- The class with all comments taken away. -/
def withoutComments (modelClass : ModelClass) : ModelClass :=
  { modelClass with
    attributes := modelClass.attributes.map Attribute.withoutComment
    comment := none }

namespace View

/-- The columns and directives with all comments taken away. -/
@[simps]
def withoutComments (view : View) : View :=
  { directives := view.directives.withoutComment
    columns := view.columns.map fun entry =>
      (entry.1.withoutComment, entry.2.withoutComment) }

/-- A view is made of the columns of a table and the directives that a context
knows, comments aside. -/
theorem withoutComments_ofTable
    (context : Context)
    (model : String)
    (table : Table) :
    (ofTable context model table).withoutComments =
      { directives := (context.modelDirectives model).withoutComment
        columns :=
          ((table.withoutComments.columns.filter
            fun column => !column.isMarker).map fun column =>
              (column, (context.fieldDirectives model
                column.fieldName).withoutComment)).filter
            fun entry => !entry.2.silentInModels } := by
  simp only [withoutComments, ofTable, Table.withoutComments_columns,
    List.filter_map, List.map_map, Function.comp_def,
    Column.isMarker_withoutComment, Column.withoutComment_fieldName]
  rfl

/-! ## Questions about a view -/

variable (view : View)

@[simp]
theorem has_withoutComments
    (name : String) :
    view.withoutComments.has name = view.has name := by
  simp [has, Function.comp_def]

@[simp]
theorem timestamps_withoutComments :
    view.withoutComments.timestamps = view.timestamps := by
  simp [timestamps]

@[simp]
theorem softDeletes_withoutComments :
    view.withoutComments.softDeletes = view.softDeletes := by
  simp [softDeletes]

@[simp]
theorem isManaged_withoutComments
    (name : String) :
    view.withoutComments.isManaged name = view.isManaged name := by
  simp [isManaged]

@[simp]
theorem primary_withoutComments :
    view.withoutComments.primary =
      view.primary.map Column.withoutComment := by
  simp [primary, List.filter_map, Function.comp_def]

@[simp]
theorem incrementing_withoutComments :
    view.withoutComments.incrementing = view.incrementing := by
  unfold incrementing
  rw [primary_withoutComments]
  cases view.primary with
  | nil => rfl
  | cons only more => cases more <;> rfl

@[simp]
theorem keyType_withoutComments :
    view.withoutComments.keyType = view.keyType := by
  unfold keyType
  rw [primary_withoutComments]
  cases view.primary with
  | nil => rfl
  | cons only more => cases more <;> rfl

/-- Columns are picked by lists of names, which are no comments. -/
theorem picked_withoutComments
    (names : Directive.Set → Option (List String))
    (blind : ∀ set, names set.withoutComment = names set) :
    view.withoutComments.picked names = view.picked names := by
  have listed :
      ∀ (given : Option (List String)) (column : Column),
        isListed given column.withoutComment = isListed given column :=
    fun _ _ => rfl
  simp [picked, List.filter_map, Function.comp_def, blind, listed]

@[simp]
theorem fillable_withoutComments :
    view.withoutComments.fillable = view.fillable := by
  have given : view.withoutComments.hasFillable = view.hasFillable := by
    simp [hasFillable, Function.comp_def, Directive.Set.withoutComment]
  simp only [fillable, given,
    picked_withoutComments view Directive.Set.fillable fun _ => rfl,
    picked_withoutComments view Directive.Set.guarded fun _ => rfl]
  simp [List.filter_map, Function.comp_def]

/-- Without comments a view has the same attributes, comments aside. -/
@[simp]
theorem attributes_withoutComments :
    view.withoutComments.attributes =
      view.attributes.map Attribute.withoutComment := by
  have each :
      ∀ (column : Column) (directives : Directive.Set),
        view.withoutComments.attributeOf column.withoutComment
            directives.withoutComment =
          (view.attributeOf column directives).withoutComment := by
    intro column directives
    simp only [attributeOf, castOf?, typeOf, isManaged_withoutComments,
      fillable_withoutComments,
      picked_withoutComments view Directive.Set.hidden fun _ => rfl,
      picked_withoutComments view Directive.Set.guarded fun _ => rfl]
    rfl
  simp [attributes, Function.comp_def, each]

end View

/-! ## Classes -/

/-- The class of a model as its view shows it. -/
def ofView (model : Model) (registry : Relation.Registry) (view : View) :
    ModelClass :=
  { className := model.name
    table := model.tableName
    primaryKey := model.primaryKeyColumns
    incrementing := view.incrementing
    keyType := view.keyType
    timestamps := view.timestamps
    softDeletes := view.softDeletes
    attributes := view.attributes
    relations := registry.relations
    fillable := view.fillable
    hidden := view.picked Directive.Set.hidden
    guarded := view.picked Directive.Set.guarded
    eager := view.directives.eager.getD []
    casts := view.attributes.filterMap castPair?
    traits := view.directives.traits
    interfaces := view.directives.interfaces
    observer := view.directives.observer
    factory := view.directives.factory
    parent := view.directives.parent
    comment := view.directives.comment
    silent := view.directives.silentInModels }

theorem ofModel_eq_ofView
    (context : Context)
    (model : Model)
    (registry : Relation.Registry)
    (table : Table) :
    ofModel context model registry table =
      ofView model registry (View.ofTable context model.name table) :=
  rfl

/-- A view without comments shows the class without comments. -/
theorem ofView_withoutComments
    (model : Model)
    (registry : Relation.Registry)
    (view : View) :
    ofView model registry view.withoutComments =
      (ofView model registry view).withoutComments := by
  have casts :
      (view.attributes.map Attribute.withoutComment).filterMap castPair? =
        view.attributes.filterMap castPair? := by
    rw [List.filterMap_map]
    rfl
  simp only [ofView, withoutComments, View.incrementing_withoutComments,
    View.keyType_withoutComments, View.timestamps_withoutComments,
    View.softDeletes_withoutComments, View.attributes_withoutComments,
    View.fillable_withoutComments, casts,
    View.picked_withoutComments view Directive.Set.hidden fun _ => rfl,
    View.picked_withoutComments view Directive.Set.guarded fun _ => rfl]
  rfl

theorem ofView_reworded
    (reword : Option String → Option String)
    (model : Model) :
    ofView (model.reworded reword) = ofView model := by
  funext registry view
  simp [ofView]

/-- The class of a reworded model is the one of the model, comments aside. -/
theorem withoutComments_ofModel_of_reworded
    {reword : Option String → Option String}
    {context other : Context}
    (changed : context.Reworded reword other)
    (model : Model)
    (registry : Relation.Registry)
    {table otherTable : Table}
    (sameTable : otherTable.withoutComments = table.withoutComments) :
    (ofModel other (model.reworded reword) registry
        otherTable).withoutComments =
      (ofModel context model registry table).withoutComments := by
  have sameView :
      (View.ofTable other model.name otherTable).withoutComments =
        (View.ofTable context model.name table).withoutComments := by
    simp only [View.withoutComments_ofTable, sameTable,
      changed.modelDirectives, changed.fieldDirectives]
  rw [ofModel_eq_ofView, ofModel_eq_ofView, ofView_reworded,
    ← ofView_withoutComments, ← ofView_withoutComments, Model.reworded_name,
    sameView]

end ModelClass

end Tablewright
