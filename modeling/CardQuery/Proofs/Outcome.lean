import Mathlib.Data.List.Forall2

/-!
# Outcomes of steps that can fail

What succeeded as a whole has succeeded in each of its steps, and steps that
all succeed can be taken for every element of a list.
-/

namespace CardQuery.Outcome

variable {α β ε δ : Type}

theorem bind_eq_ok_iff {first : Except ε α} {next : α → Except ε β}
    {result : β} :
    first >>= next = .ok result ↔
      ∃ middle, first = .ok middle ∧ next middle = .ok result := by
  cases first with
  | error fault =>
      constructor
      · intro impossible
        cases impossible
      · rintro ⟨_, impossible, _⟩
        cases impossible
  | ok middle =>
      constructor
      · intro found
        exact ⟨middle, rfl, found⟩
      · rintro ⟨_, same, found⟩
        cases same
        exact found

@[simp] theorem mapError_ok {wrap : ε → δ} {result : α} :
    (Except.ok result).mapError wrap = .ok result := rfl

/-- If a step succeeds with a certain result for every element, then so does
the walk over the list. -/
theorem exists_mapM_eq_ok {step : α → Except ε β} {holds : β → Prop}
    {items : List α}
    (each : ∀ item ∈ items, ∃ result, step item = .ok result ∧ holds result) :
    ∃ results, items.mapM step = .ok results ∧
      ∀ result ∈ results, holds result := by
  induction items with
  | nil => exact ⟨[], rfl, by simp⟩
  | cons first rest ih =>
      obtain ⟨result, ofFirst, holdsFirst⟩ := each first List.mem_cons_self
      obtain ⟨results, ofRest, holdsRest⟩ := ih fun item member =>
        each item (List.mem_cons_of_mem first member)
      refine ⟨result :: results, ?_,
        List.forall_mem_cons.mpr ⟨holdsFirst, holdsRest⟩⟩
      rw [List.mapM_cons, ofFirst, ofRest]
      rfl

theorem mem_of_mapM_eq_ok {step : α → Except ε β} {items : List α}
    {results : List β} (walked : items.mapM step = .ok results) {item : α}
    (member : item ∈ items) {result : β} (found : step item = .ok result) :
    result ∈ results := by
  induction items generalizing results with
  | nil => cases member
  | cons first rest ih =>
      rw [List.mapM_cons, bind_eq_ok_iff] at walked
      obtain ⟨ofFirst, isFirst, walked⟩ := walked
      rw [bind_eq_ok_iff] at walked
      obtain ⟨ofRest, isRest, same⟩ := walked
      cases same
      rcases List.mem_cons.mp member with rfl | later
      · rw [isFirst] at found
        cases found
        exact List.mem_cons_self
      · exact List.mem_cons_of_mem ofFirst (ih isRest later)

/-- If elements give results one by one, what each gives is among the
results. -/
theorem exists_mem_of_forall₂ {gives : α → β → Prop} {items : List α}
    {results : List β} (related : List.Forall₂ gives items results)
    {item : α} (member : item ∈ items) :
    ∃ result ∈ results, gives item result := by
  induction related with
  | nil => cases member
  | cons first _ ih =>
      rcases List.mem_cons.mp member with rfl | later
      · exact ⟨_, List.mem_cons_self, first⟩
      · obtain ⟨result, among, found⟩ := ih later
        exact ⟨result, List.mem_cons_of_mem _ among, found⟩

end CardQuery.Outcome
