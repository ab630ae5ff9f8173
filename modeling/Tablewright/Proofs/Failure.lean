import Mathlib.Data.List.Forall2
import Mathlib.Data.List.Perm.Basic
import Tablewright.Failure

namespace Tablewright.Outcome

/-!
# Outcomes of several steps

A computation that succeeds has succeeded in each of its steps.
-/

/-- The first of two steps is over once it has succeeded. -/
theorem ok_bind
    {ε α β : Type}
    (value : α)
    (second : α → Except ε β) :
    (.ok value : Except ε α) >>= second = second value :=
  rfl

/-- Two steps succeed when the second one succeeds on the first result. -/
theorem bind_eq_ok_iff
    {ε α β : Type}
    {first : Except ε α}
    {second : α → Except ε β}
    {result : β} :
    first >>= second = .ok result ↔
      ∃ value, first = .ok value ∧ second value = .ok result := by
  cases first with
  | error failure => simp [bind, Except.bind]
  | ok value => simp [bind, Except.bind]

/-- Two steps fail when the first one does, or the second one on the first
result. -/
theorem bind_eq_error_iff
    {α β : Type}
    {first : Outcome α}
    {second : α → Outcome β}
    {failure : Failure} :
    first >>= second = .error failure ↔
      first = .error failure ∨
        ∃ value, first = .ok value ∧ second value = .error failure := by
  cases first with
  | error given => simp [bind, Except.bind]
  | ok value => simp [bind, Except.bind]

/-- A step behind one that succeeds is the one that fails. -/
theorem error_of_bind
    {α β : Type}
    {first : Outcome α}
    {second : α → Outcome β}
    {value : α}
    (succeeded : first = .ok value)
    {failure : Failure}
    (failed : first >>= second = .error failure) :
    second value = .error failure := by
  rw [succeeded] at failed
  exact failed

/-- Steps for all elements of a list succeed when each of them does. -/
theorem mapM_eq_ok_iff
    {ε α β : Type}
    {step : α → Except ε β}
    {inputs : List α}
    {results : List β} :
    inputs.mapM step = .ok results ↔
      List.Forall₂ (fun input result => step input = .ok result)
        inputs results := by
  induction inputs generalizing results with
  | nil =>
      rw [List.mapM_nil, List.forall₂_nil_left_iff]
      exact ⟨fun same => (Except.ok.inj same).symm,
        fun empty => congrArg Except.ok empty.symm⟩
  | cons input rest inductionHypothesis =>
      simp only [List.mapM_cons, bind_eq_ok_iff, inductionHypothesis,
        List.forall₂_cons_left_iff]
      constructor
      · intro given
        rcases given with ⟨first, isFirst, others, areOthers, same⟩
        exact ⟨first, others, isFirst, areOthers,
          (Except.ok.inj same).symm⟩
      · intro given
        rcases given with ⟨first, others, isFirst, areOthers, rfl⟩
        exact ⟨first, isFirst, others, areOthers, rfl⟩

/-- Steps for two lists succeed when they do for each of the lists. -/
theorem mapM_append_eq_ok_iff
    {ε α β : Type}
    {step : α → Except ε β}
    {first second : List α}
    {results : List β} :
    (first ++ second).mapM step = .ok results ↔
      ∃ before after,
        first.mapM step = .ok before ∧
          second.mapM step = .ok after ∧
          results = before ++ after := by
  simp only [List.mapM_append, bind_eq_ok_iff]
  constructor
  · rintro ⟨before, isBefore, after, isAfter, same⟩
    exact ⟨before, after, isBefore, isAfter, (Except.ok.inj same).symm⟩
  · rintro ⟨before, after, isBefore, isAfter, rfl⟩
    exact ⟨before, isBefore, after, isAfter, rfl⟩

theorem exists_of_mem_forall₂
    {α β : Type}
    {relates : α → β → Prop}
    {inputs : List α}
    {results : List β}
    (related : List.Forall₂ relates inputs results)
    {result : β}
    (member : result ∈ results) :
    ∃ input ∈ inputs, relates input result := by
  induction related with
  | nil => cases member
  | cons first _ inductionHypothesis =>
      rcases List.mem_cons.mp member with rfl | later
      · exact ⟨_, List.mem_cons_self, first⟩
      · obtain ⟨input, inputMember, made⟩ := inductionHypothesis later
        exact ⟨input, List.mem_cons_of_mem _ inputMember, made⟩

/-- Steps for the same inputs in another order have the same results in
another order. -/
theorem exists_mapM_of_perm
    {α β : Type}
    {step : α → Outcome β}
    {inputs reordered : List α}
    (permuted : reordered.Perm inputs)
    {results : List β}
    (succeeded : inputs.mapM step = .ok results) :
    ∃ others, reordered.mapM step = .ok others ∧ others.Perm results := by
  obtain ⟨others, related, permutedResults⟩ :=
    List.perm_comp_forall₂ permuted (mapM_eq_ok_iff.mp succeeded)
  exact ⟨others, mapM_eq_ok_iff.mpr related, permutedResults⟩

/-- Further steps for the inputs with their results can be taken along with
the first steps. -/
theorem mapM_zip_of_mapM
    {α β γ : Type}
    {step : α → Outcome β}
    {inputs : List α}
    {results : List β}
    (succeeded : inputs.mapM step = .ok results)
    (next : α × β → Outcome γ) :
    (inputs.zip results).mapM next =
      inputs.mapM (fun input =>
        step input >>= fun result => next (input, result)) := by
  have related := mapM_eq_ok_iff.mp succeeded
  clear succeeded
  induction related with
  | nil => rfl
  | cons first _ inductionHypothesis =>
      rw [List.zip_cons_cons, List.mapM_cons, List.mapM_cons, first,
        ok_bind, inductionHypothesis]

/-- Every result stems from an input. -/
theorem exists_of_mem_mapM
    {ε α β : Type}
    {step : α → Except ε β}
    {inputs : List α}
    {results : List β}
    (succeeded : inputs.mapM step = .ok results)
    {result : β}
    (member : result ∈ results) :
    ∃ input ∈ inputs, step input = .ok result :=
  exists_of_mem_forall₂ (mapM_eq_ok_iff.mp succeeded) member

/-- Every input has a result. -/
theorem exists_result_of_mem_mapM
    {α β : Type}
    {step : α → Outcome β}
    {inputs : List α}
    {results : List β}
    (succeeded : inputs.mapM step = .ok results)
    {input : α}
    (member : input ∈ inputs) :
    ∃ result ∈ results, step input = .ok result :=
  exists_of_mem_forall₂ (mapM_eq_ok_iff.mp succeeded).flip member

/-- Every input has a result in its own place. -/
theorem exists_mem_zip_of_mem_mapM
    {α β : Type}
    {step : α → Outcome β}
    {inputs : List α}
    {results : List β}
    (succeeded : inputs.mapM step = .ok results)
    {input : α}
    (member : input ∈ inputs) :
    ∃ result,
      (input, result) ∈ inputs.zip results ∧
        step input = .ok result := by
  have related := mapM_eq_ok_iff.mp succeeded
  clear succeeded
  induction related with
  | nil => cases member
  | cons first _ inductionHypothesis =>
      rw [List.zip_cons_cons]
      rcases List.mem_cons.mp member with rfl | later
      · exact ⟨_, List.mem_cons_self, first⟩
      · obtain ⟨result, inPlace, made⟩ := inductionHypothesis later
        exact ⟨result, List.mem_cons_of_mem _ inPlace, made⟩

/-- Steps for all elements of a list fail only when one of them does. -/
theorem exists_of_mapM_eq_error
    {α β : Type}
    {step : α → Outcome β}
    {inputs : List α}
    {failure : Failure}
    (failed : inputs.mapM step = .error failure) :
    ∃ input ∈ inputs, step input = .error failure := by
  induction inputs with
  | nil => cases failed
  | cons input rest inductionHypothesis =>
      rw [List.mapM_cons] at failed
      rcases bind_eq_error_iff.mp failed with now | ⟨_, _, failed⟩
      · exact ⟨input, List.mem_cons_self, now⟩
      · rcases bind_eq_error_iff.mp failed with later | ⟨_, _, failed⟩
        · obtain ⟨other, member, failed⟩ := inductionHypothesis later
          exact ⟨other, List.mem_cons_of_mem _ member, failed⟩
        · cases failed

/-- Steps that all succeed have results. -/
theorem exists_mapM_eq_ok
    {α β : Type}
    {step : α → Outcome β}
    {inputs : List α}
    (succeeds : ∀ input ∈ inputs, ∃ result, step input = .ok result) :
    ∃ results, inputs.mapM step = .ok results := by
  cases outcome : inputs.mapM step with
  | ok results => exact ⟨results, rfl⟩
  | error failure =>
      obtain ⟨input, member, failed⟩ := exists_of_mapM_eq_error outcome
      obtain ⟨result, succeeded⟩ := succeeds input member
      rw [succeeded] at failed
      cases failed

/-- In related lists, the first inputs and results that are picked are
related. -/
theorem exists_find?_of_forall₂
    {α β : Type}
    {relates : α → β → Prop}
    {inputs : List α}
    {results : List β}
    (related : List.Forall₂ relates inputs results)
    {pick : α → Bool}
    {picked : β → Bool}
    (same :
      ∀ input result, relates input result → picked result = pick input)
    {input : α}
    (found : inputs.find? pick = some input) :
    ∃ result, results.find? picked = some result ∧ relates input result := by
  induction related with
  | nil => cases found
  | @cons first result _ _ now _ inductionHypothesis =>
      have samePick := same first result now
      rw [List.find?_cons] at found ⊢
      rw [samePick]
      cases isPicked : pick first with
      | true =>
          rw [isPicked] at found
          obtain rfl := Option.some.inj found
          exact ⟨result, rfl, now⟩
      | false =>
          rw [isPicked] at found
          exact inductionHypothesis found

/-- Inputs that all have results have related results. -/
theorem exists_forall₂
    {α β : Type}
    {relates : α → β → Prop}
    {inputs : List α}
    (each : ∀ input ∈ inputs, ∃ result, relates input result) :
    ∃ results, List.Forall₂ relates inputs results := by
  induction inputs with
  | nil => exact ⟨[], .nil⟩
  | cons input rest inductionHypothesis =>
      obtain ⟨first, now⟩ := each input List.mem_cons_self
      obtain ⟨others, later⟩ := inductionHypothesis fun other member =>
        each other (List.mem_cons_of_mem _ member)
      exact ⟨first :: others, .cons now later⟩

/-- Results that are related to the same inputs are related to each other. -/
theorem forall₂_of_common
    {α β γ : Type}
    {relates : α → β → Prop}
    {alsoRelates : α → γ → Prop}
    {between : β → γ → Prop}
    {inputs : List α}
    {results : List β}
    {others : List γ}
    (related : List.Forall₂ relates inputs results)
    (alsoRelated : List.Forall₂ alsoRelates inputs others)
    (combine :
      ∀ input ∈ inputs, ∀ result other,
        relates input result → alsoRelates input other →
          between result other) :
    List.Forall₂ between results others := by
  induction related generalizing others with
  | nil =>
      cases alsoRelated
      exact .nil
  | cons first _ inductionHypothesis =>
      cases alsoRelated with
      | cons second later =>
          refine .cons (combine _ List.mem_cons_self _ _ first second) ?_
          exact inductionHypothesis later fun input member =>
            combine input (List.mem_cons_of_mem _ member)

theorem map_eq_map_of_forall₂
    {α β γ : Type}
    {before : α → γ}
    {after : β → γ}
    {inputs : List α}
    {results : List β}
    (related :
      List.Forall₂ (fun input result => before input = after result)
        inputs results) :
    inputs.map before = results.map after := by
  rw [← List.forall₂_eq_eq_eq, List.forall₂_map_left_iff,
    List.forall₂_map_right_iff]
  exact related

/-- In related lists, the items that are picked share what the relation
keeps. -/
theorem map_filter_eq_of_forall₂
    {α β γ : Type}
    {relates : α → β → Prop}
    {inputs : List α}
    {results : List β}
    (related : List.Forall₂ relates inputs results)
    {before : α → γ}
    {after : β → γ}
    {pick : α → Bool}
    {picked : β → Bool}
    (kept :
      ∀ input ∈ inputs, ∀ result, relates input result →
        picked result = pick input ∧
          (pick input = true → after result = before input)) :
    (results.filter picked).map after =
      (inputs.filter pick).map before := by
  induction related with
  | nil => rfl
  | cons first _ inductionHypothesis =>
      obtain ⟨samePick, same⟩ := kept _ List.mem_cons_self _ first
      have later :=
        inductionHypothesis fun input member =>
          kept input (List.mem_cons_of_mem _ member)
      rw [List.filter_cons, List.filter_cons, samePick]
      split
      · rename_i isPicked
        rw [List.map_cons, List.map_cons, same isPicked, later]
      · exact later

/-- Results that are picked share with the inputs that are picked what every
step keeps. -/
theorem map_filter_eq_of_mapM
    {α β γ : Type}
    {step : α → Outcome β}
    {inputs : List α}
    {results : List β}
    (succeeded : inputs.mapM step = .ok results)
    {before : α → γ}
    {after : β → γ}
    {pick : α → Bool}
    {picked : β → Bool}
    (kept :
      ∀ input ∈ inputs, ∀ result, step input = .ok result →
        picked result = pick input ∧
          (pick input = true → after result = before input)) :
    (results.filter picked).map after =
      (inputs.filter pick).map before :=
  map_filter_eq_of_forall₂ (mapM_eq_ok_iff.mp succeeded) kept

/-- Results share with their inputs what every step keeps. -/
theorem map_eq_of_mapM
    {α β γ : Type}
    {step : α → Outcome β}
    {inputs : List α}
    {results : List β}
    (succeeded : inputs.mapM step = .ok results)
    {before : α → γ}
    {after : β → γ}
    (kept :
      ∀ input result, step input = .ok result →
        after result = before input) :
    results.map after = inputs.map before := by
  have related := mapM_eq_ok_iff.mp succeeded
  clear succeeded
  induction related with
  | nil => rfl
  | cons first _ inductionHypothesis =>
      rw [List.map_cons, List.map_cons, kept _ _ first,
        inductionHypothesis]

/-- Two computations agree up to a change of their results if their first steps
do, and their second steps do on first results that agree. -/
theorem map_bind_eq_map_bind
    {α β γ δ : Type}
    {first otherFirst : Outcome α}
    {change : α → γ}
    (agree : otherFirst.map change = first.map change)
    {second otherSecond : α → Outcome β}
    {after : β → δ}
    (agreeAfter :
      ∀ value other,
        change other = change value →
          (otherSecond other).map after = (second value).map after) :
    (otherFirst >>= otherSecond).map after =
      (first >>= second).map after := by
  cases first with
  | error failure =>
      cases otherFirst with
      | error other => exact congrArg Except.error (Except.error.inj agree)
      | ok other => cases agree
  | ok value =>
      cases otherFirst with
      | error other => cases agree
      | ok other => exact agreeAfter value other (Except.ok.inj agree)

/-- Behind one and the same first step, only the second steps need to
agree. -/
theorem map_bind_eq_of_forall
    {α β δ : Type}
    (first : Outcome α)
    {second otherSecond : α → Outcome β}
    {after : β → δ}
    (agreeAfter :
      ∀ value, (otherSecond value).map after = (second value).map after) :
    (first >>= otherSecond).map after = (first >>= second).map after := by
  cases first with
  | error failure => rfl
  | ok value => exact agreeAfter value

/-- Results may be changed one by one. -/
theorem map_mapM
    {α β γ : Type}
    (change : β → γ)
    (step : α → Outcome β)
    (inputs : List α) :
    (inputs.mapM step).map (List.map change) =
      inputs.mapM fun input => (step input).map change := by
  induction inputs with
  | nil => rfl
  | cons input rest inductionHypothesis =>
      rw [List.mapM_cons, List.mapM_cons, ← inductionHypothesis]
      cases step input with
      | error failure => rfl
      | ok first => cases rest.mapM step <;> rfl

theorem map_eq_ok_iff
    {ε α β : Type}
    {read : α → β}
    {outcome : Except ε α}
    {value : β} :
    outcome.map read = .ok value ↔
      ∃ result, outcome = .ok result ∧ read result = value := by
  cases outcome with
  | error failure => simp [Except.map]
  | ok result => simp [Except.map]

/-- What holds at the start and is kept by every step holds in the end. -/
theorem foldlM_induction
    {α β : Type}
    {motive : β → Prop}
    {step : β → α → Outcome β}
    {inputs : List α}
    {start result : β}
    (succeeded : inputs.foldlM step start = .ok result)
    (base : motive start)
    (preserved :
      ∀ input ∈ inputs, ∀ state next,
        motive state → step state input = .ok next → motive next) :
    motive result := by
  induction inputs generalizing start with
  | nil =>
      rw [List.foldlM_nil] at succeeded
      obtain rfl := Except.ok.inj succeeded
      exact base
  | cons input rest inductionHypothesis =>
      rw [List.foldlM_cons] at succeeded
      obtain ⟨next, stepped, later⟩ := bind_eq_ok_iff.mp succeeded
      exact inductionHypothesis later
        (preserved input List.mem_cons_self start next base stepped)
        (fun other member =>
          preserved other (List.mem_cons_of_mem _ member))

/-- What some step brings about and every step keeps holds in the end. -/
theorem foldlM_establishes
    {α β : Type}
    {motive : β → Prop}
    {step : β → α → Outcome β}
    {inputs : List α}
    {start result : β}
    (succeeded : inputs.foldlM step start = .ok result)
    {input : α}
    (member : input ∈ inputs)
    (established :
      ∀ state next, step state input = .ok next → motive next)
    (preserved :
      ∀ other ∈ inputs, ∀ state next,
        motive state → step state other = .ok next → motive next) :
    motive result := by
  induction inputs generalizing start with
  | nil => cases member
  | cons first rest inductionHypothesis =>
      rw [List.foldlM_cons] at succeeded
      obtain ⟨next, stepped, later⟩ := bind_eq_ok_iff.mp succeeded
      have kept :
          ∀ other ∈ rest, ∀ state next,
            motive state → step state other = .ok next → motive next :=
        fun other inRest => preserved other (List.mem_cons_of_mem _ inRest)
      rcases List.mem_cons.mp member with rfl | inRest
      · exact foldlM_induction later (established start next stepped) kept
      · exact inductionHypothesis later inRest kept

/-- Steps that always succeed lead to a result. -/
theorem exists_foldlM_eq_ok
    {α β : Type}
    {step : β → α → Outcome β}
    {inputs : List α}
    (succeeds :
      ∀ input ∈ inputs, ∀ state, ∃ next, step state input = .ok next)
    (start : β) :
    ∃ result, inputs.foldlM step start = .ok result := by
  induction inputs generalizing start with
  | nil => exact ⟨start, rfl⟩
  | cons input rest inductionHypothesis =>
      obtain ⟨next, stepped⟩ :=
        succeeds input List.mem_cons_self start
      obtain ⟨result, later⟩ :=
        inductionHypothesis
          (fun other member =>
            succeeds other (List.mem_cons_of_mem _ member))
          next
      refine ⟨result, ?_⟩
      rw [List.foldlM_cons]
      exact bind_eq_ok_iff.mpr ⟨next, stepped, later⟩

/-- Steps of which one always fails end at a failure of one of them. -/
theorem exists_foldlM_eq_error
    {α β : Type}
    {step : β → α → Outcome β}
    {inputs : List α}
    {input : α}
    (member : input ∈ inputs)
    (fails : ∀ state, ∃ failure, step state input = .error failure)
    (start : β) :
    ∃ failing ∈ inputs, ∃ state failure,
      step state failing = .error failure ∧
        inputs.foldlM step start = .error failure := by
  induction inputs generalizing start with
  | nil => cases member
  | cons first rest inductionHypothesis =>
      rw [List.foldlM_cons]
      cases stepped : step start first with
      | error failure =>
          exact ⟨first, List.mem_cons_self, start, failure, stepped, rfl⟩
      | ok next =>
          have later : input ∈ rest := by
            rcases List.mem_cons.mp member with rfl | later
            · obtain ⟨failure, failed⟩ := fails start
              cases failed.symm.trans stepped
            · exact later
          obtain ⟨failing, isFailing, failure⟩ :=
            inductionHypothesis later next
          exact ⟨failing, List.mem_cons_of_mem _ isFailing, failure⟩

end Tablewright.Outcome
