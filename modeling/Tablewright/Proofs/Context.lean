import Tablewright.Context
import Tablewright.Proofs.Failure
import Tablewright.Proofs.Schema.Closed

namespace Tablewright

/-!
# What a context knows

A context holds its document, and directives that are written in the
documentation of some field there.
-/

open Schema

namespace Context

/-- The directives of fields are read off the document. -/
def Documented (document : Document) (context : Context) : Prop :=
  context.document = document ∧
    ∀ entry ∈ context.fieldEntries,
      ∃ model ∈ document.models,
        model.name = entry.model ∧
          ∃ field ∈ model.fields,
            field.name = entry.field ∧
              Directive.Set.ofDocumentation field.documentation =
                .ok entry.directives

theorem Documented.addField
    {document : Document}
    {context next : Context}
    (documented : context.Documented document)
    {model : Model}
    (inDocument : model ∈ document.models)
    {field : Field}
    (member : field ∈ model.fields)
    (added : Context.addField model.name context field = .ok next) :
    next.Documented document := by
  obtain ⟨directives, read, rest⟩ := Outcome.bind_eq_ok_iff.mp added
  by_cases noteworthy : isNoteworthy directives = true
  · simp only [noteworthy, ↓reduceIte] at rest
    obtain rfl := Except.ok.inj rest
    refine ⟨documented.1, ?_⟩
    intro entry inEntries
    rcases List.mem_cons.mp inEntries with rfl | earlier
    · exact ⟨model, inDocument, rfl, field, member, rfl, read⟩
    · exact documented.2 entry earlier
  · simp only [noteworthy, Bool.false_eq_true, ↓reduceIte] at rest
    obtain rfl := Except.ok.inj rest
    exact documented

theorem Documented.addModel
    {document : Document}
    {context next : Context}
    (documented : context.Documented document)
    {model : Model}
    (inDocument : model ∈ document.models)
    (added : Context.addModel context model = .ok next) :
    next.Documented document := by
  obtain ⟨directives, _, rest⟩ := Outcome.bind_eq_ok_iff.mp added
  refine Outcome.foldlM_induction rest ?_ ?_
  · by_cases noteworthy : isNoteworthy directives = true
    · simp only [noteworthy, ↓reduceIte]
      exact documented
    · simp only [noteworthy, Bool.false_eq_true, ↓reduceIte]
      exact documented
  · intro field member state after before stepped
    exact before.addField inDocument member stepped

/-- A context that has been read knows its document and the directives
there. -/
theorem documented_of_ofDocument
    {document : Document}
    {settings : Settings}
    {context : Context}
    (read : ofDocument document settings = .ok context) :
    context.Documented document := by
  refine Outcome.foldlM_induction read ?_ ?_
  · exact ⟨rfl, fun entry member => (List.not_mem_nil member).elim⟩
  · intro model member state next before stepped
    exact before.addModel member stepped

/-- The directives of a field are empty, or they are written in the
documentation of some field of that name. -/
theorem Documented.fieldDirectives
    {document : Document}
    {context : Context}
    (documented : context.Documented document)
    (modelName fieldName : String) :
    context.fieldDirectives modelName fieldName = {} ∨
      ∃ model ∈ document.models,
        model.name = modelName ∧
          ∃ field ∈ model.fields,
            field.name = fieldName ∧
              Directive.Set.ofDocumentation field.documentation =
                .ok (context.fieldDirectives modelName fieldName) := by
  unfold Context.fieldDirectives
  cases found :
      context.fieldEntries.find?
        (fun entry =>
          entry.model == modelName && entry.field == fieldName) with
  | none => exact Or.inl rfl
  | some entry =>
      right
      obtain ⟨ofModel, ofField⟩ :
          entry.model = modelName ∧ entry.field = fieldName := by
        simpa using List.find?_some found
      obtain ⟨model, member, sameModel, field, inModel, sameField,
          written⟩ :=
        documented.2 entry (List.mem_of_find?_eq_some found)
      exact ⟨model, member, sameModel.trans ofModel, field, inModel,
        sameField.trans ofField, written⟩

/-! ## Reading a document with distinct names -/

/-- A context holds the noteworthy directives of a field. -/
def Holds
    (modelName fieldName : String)
    (directives : Directive.Set)
    (context : Context) : Prop :=
  isNoteworthy directives = true →
    ⟨modelName, fieldName, directives⟩ ∈ context.fieldEntries

theorem Holds.addField
    {modelName fieldName : String}
    {directives : Directive.Set}
    {context next : Context}
    (holds : context.Holds modelName fieldName directives)
    {model : String}
    {field : Field}
    (added : Context.addField model context field = .ok next) :
    next.Holds modelName fieldName directives := by
  obtain ⟨others, _, rest⟩ := Outcome.bind_eq_ok_iff.mp added
  intro noteworthy
  have member := holds noteworthy
  split at rest
  · obtain rfl := Except.ok.inj rest
    exact List.mem_cons_of_mem _ member
  · obtain rfl := Except.ok.inj rest
    exact member

theorem holds_of_addField
    {model : String}
    {context next : Context}
    {field : Field}
    {directives : Directive.Set}
    (read :
      Directive.Set.ofDocumentation field.documentation = .ok directives)
    (added : addField model context field = .ok next) :
    next.Holds model field.name directives := by
  obtain ⟨_, readAgain, rest⟩ := Outcome.bind_eq_ok_iff.mp added
  obtain rfl := Except.ok.inj (read.symm.trans readAgain)
  intro noteworthy
  rw [if_pos noteworthy] at rest
  obtain rfl := Except.ok.inj rest
  exact List.mem_cons_self

/-- The directives of every field are held. -/
theorem holds_of_ofDocument
    {document : Document}
    {settings : Settings}
    {context : Context}
    (opened : ofDocument document settings = .ok context)
    {model : Model}
    (inDocument : model ∈ document.models)
    {field : Field}
    (member : field ∈ model.fields)
    {directives : Directive.Set}
    (read :
      Directive.Set.ofDocumentation field.documentation =
        .ok directives) :
    context.Holds model.name field.name directives := by
  refine Outcome.foldlM_establishes opened inDocument ?_ ?_
  · intro state next added
    obtain ⟨_, _, rest⟩ := Outcome.bind_eq_ok_iff.mp added
    refine Outcome.foldlM_establishes rest member ?_ ?_
    · intro before after stepped
      exact holds_of_addField read stepped
    · intro other _ before after holds stepped
      exact holds.addField stepped
  · intro other _ state next holds added
    obtain ⟨_, _, rest⟩ := Outcome.bind_eq_ok_iff.mp added
    refine Outcome.foldlM_induction rest ?_ ?_
    · split
      · exact holds
      · exact holds
    · intro _ _ before after holdsBefore stepped
      exact holdsBefore.addField stepped

/-- Directives that are not noteworthy are none at all. -/
theorem eq_empty_of_isNoteworthy
    {directives : Directive.Set}
    (plain : isNoteworthy directives = false) :
    directives = {} := by
  simp only [isNoteworthy, Directive.Set.isEmpty, Bool.or_eq_false_iff,
    Bool.not_eq_false', decide_eq_true_eq, Option.isSome_eq_false_iff,
    Option.isNone_iff_eq_none] at plain
  obtain ⟨noDirective, noComment⟩ := plain
  rw [← noDirective]
  cases directives
  simp only at noComment
  rw [noComment]

/-- A context knows the directives of every field of a document in which
names are distinct. -/
theorem fieldDirectives_eq
    {document : Document}
    (distinct : document.Distinct)
    {settings : Settings}
    {context : Context}
    (opened : ofDocument document settings = .ok context)
    {model : Model}
    (inDocument : model ∈ document.models)
    {field : Field}
    (member : field ∈ model.fields)
    {directives : Directive.Set}
    (read :
      Directive.Set.ofDocumentation field.documentation =
        .ok directives) :
    context.fieldDirectives model.name field.name = directives := by
  have holds := holds_of_ofDocument opened inDocument member read
  unfold fieldDirectives
  cases found :
      context.fieldEntries.find?
        (fun entry =>
          entry.model == model.name && entry.field == field.name) with
  | none =>
      -- Without an entry there was nothing to note.
      cases noteworthy : isNoteworthy directives with
      | false => exact (eq_empty_of_isNoteworthy noteworthy).symm
      | true =>
          have absent :=
            List.find?_eq_none.mp found _ (holds noteworthy)
          simp at absent
  | some entry =>
      obtain ⟨ofModel, ofField⟩ :
          entry.model = model.name ∧ entry.field = field.name := by
        simpa using List.find?_some found
      obtain ⟨other, otherIn, sameModel, otherField, inModel, sameField,
          written⟩ :=
        (documented_of_ofDocument opened).2 entry
          (List.mem_of_find?_eq_some found)
      obtain rfl : other = model :=
        List.inj_on_of_nodup_map distinct.models otherIn inDocument
          (sameModel.trans ofModel)
      obtain rfl : otherField = field :=
        List.inj_on_of_nodup_map (distinct.fields other inDocument)
          inModel member (sameField.trans ofField)
      exact Except.ok.inj (written.symm.trans read)

/-! ## Directives of models -/

/-- Reading fields leaves the directives of models alone. -/
theorem modelEntries_of_foldlM
    {model : String}
    {fields : List Field}
    {context next : Context}
    (read : fields.foldlM (addField model) context = .ok next) :
    next.modelEntries = context.modelEntries := by
  refine Outcome.foldlM_induction
    (motive := fun state => state.modelEntries = context.modelEntries)
    read rfl ?_
  intro field _ state after same stepped
  obtain ⟨_, _, stepped⟩ := Outcome.bind_eq_ok_iff.mp stepped
  split at stepped
  · obtain rfl := Except.ok.inj stepped
    exact same
  · obtain rfl := Except.ok.inj stepped
    exact same

/-- Reading a model leaves the directives of all other models alone. -/
theorem modelDirectives_of_addModel
    {context next : Context}
    {model : Model}
    (fresh : context.modelDirectives model.name = {})
    (added : addModel context model = .ok next) :
    Directive.Set.ofDocumentation model.documentation =
        .ok (next.modelDirectives model.name) ∧
      ∀ name,
        name ≠ model.name →
          next.modelDirectives name = context.modelDirectives name := by
  obtain ⟨directives, read, rest⟩ := Outcome.bind_eq_ok_iff.mp added
  have entries := modelEntries_of_foldlM rest
  rw [read]
  cases noteworthy : isNoteworthy directives with
  | true =>
      rw [noteworthy, if_pos rfl] at entries
      constructor
      · simp [modelDirectives, entries]
      · intro name other
        simp [modelDirectives, entries, Ne.symm other]
  | false =>
      rw [noteworthy, if_neg Bool.false_ne_true] at entries
      have same : next.modelDirectives = context.modelDirectives := by
        funext name
        rw [modelDirectives, entries, modelDirectives]
      rw [same, fresh, eq_empty_of_isNoteworthy noteworthy]
      exact ⟨rfl, fun _ _ => rfl⟩

/-- Models of distinct names are read one by one. -/
theorem modelDirectives_of_foldlM
    {models : List Model}
    (distinct : (models.map Model.name).Nodup)
    {context result : Context}
    (fresh :
      ∀ model ∈ models, context.modelDirectives model.name = {})
    (read : models.foldlM addModel context = .ok result) :
    (∀ model ∈ models,
        Directive.Set.ofDocumentation model.documentation =
          .ok (result.modelDirectives model.name)) ∧
      ∀ name,
        name ∉ models.map Model.name →
          result.modelDirectives name = context.modelDirectives name := by
  induction models generalizing context with
  | nil =>
      obtain rfl := Except.ok.inj read
      exact ⟨fun _ absent => (List.not_mem_nil absent).elim,
        fun _ _ => rfl⟩
  | cons model rest inductionHypothesis =>
      rw [List.foldlM_cons] at read
      obtain ⟨next, added, read⟩ := Outcome.bind_eq_ok_iff.mp read
      rw [List.map_cons, List.nodup_cons] at distinct
      obtain ⟨own, others⟩ :=
        modelDirectives_of_addModel (fresh model List.mem_cons_self) added
      have stillFresh :
          ∀ other ∈ rest, next.modelDirectives other.name = {} := by
        intro other member
        rw [others other.name fun same =>
          distinct.1 (same ▸ List.mem_map_of_mem member)]
        exact fresh other (List.mem_cons_of_mem _ member)
      obtain ⟨later, kept⟩ :=
        inductionHypothesis distinct.2 stillFresh read
      constructor
      · intro other member
        rcases List.mem_cons.mp member with rfl | inRest
        · rw [kept other.name distinct.1]
          exact own
        · exact later other inRest
      · intro name unknown
        rw [List.map_cons, List.mem_cons, not_or] at unknown
        rw [kept name unknown.2, others name unknown.1]

/-- A context knows the directives of every model of a document in which
names are distinct, and no others. -/
theorem modelDirectives_of_ofDocument
    {document : Document}
    (distinct : document.Distinct)
    {settings : Settings}
    {context : Context}
    (opened : ofDocument document settings = .ok context) :
    (∀ model ∈ document.models,
        Directive.Set.ofDocumentation model.documentation =
          .ok (context.modelDirectives model.name)) ∧
      ∀ name,
        name ∉ document.models.map Model.name →
          context.modelDirectives name = {} :=
  modelDirectives_of_foldlM distinct.models (fun _ _ => rfl) opened

/-! ## Reading a closed document -/

theorem exists_addField
    (model : String)
    (context : Context)
    {field : Field}
    (readable :
      ∃ directives,
        Directive.Set.ofDocumentation field.documentation =
          .ok directives) :
    ∃ next, addField model context field = .ok next := by
  obtain ⟨directives, read⟩ := readable
  unfold addField
  simp only [read, bind, Except.bind]
  split
  · exact ⟨_, rfl⟩
  · exact ⟨_, rfl⟩

/-- The directives of a closed document can be read. -/
theorem exists_ofDocument
    {document : Document}
    (closed : document.Closed)
    (settings : Settings) :
    ∃ context, ofDocument document settings = .ok context := by
  refine Outcome.exists_foldlM_eq_ok ?_ _
  intro model inDocument context
  obtain ⟨directives, read⟩ := closed.modelDocumentation model inDocument
  unfold addModel
  simp only [read, bind, Except.bind]
  refine Outcome.exists_foldlM_eq_ok ?_ _
  intro field member state
  exact exists_addField model.name state
    (closed.fieldDocumentation model inDocument field member)

end Context

end Tablewright
