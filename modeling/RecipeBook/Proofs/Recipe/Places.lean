import RecipeBook.Recipe

/-!
# The places of the steps of a recipe

A step is at the position in its section and the position of its section that it has in the drafts
that the recipe is put together from (`mem_stepsFrom`).
-/

namespace RecipeBook.Recipe

variable {drafts : List SectionDraft} {index : Nat} {step : PlacedStep}

theorem mem_placed {steps : List Step} :
    step ∈ (steps.zipIdx.map fun (s, ordinal) => ({ s with place := ⟨ordinal, index⟩ } : PlacedStep)) ↔
      steps[step.place.ordinal]? = some step.toStep ∧ step.place.sectionIndex = index := by
  simp only [List.mem_map, Prod.exists, List.mem_zipIdx_iff_getElem?]
  constructor
  · rintro ⟨s, ordinal, hs, rfl⟩
    exact ⟨hs, rfl⟩
  · rintro ⟨hs, rfl⟩
    exact ⟨step.toStep, step.place.ordinal, hs, rfl⟩

/-- The steps of some drafts, each at its place. -/
theorem mem_stepsFrom : step ∈ stepsFrom index drafts ↔ ∃ m draft, drafts[m]? = some draft ∧
    draft.steps[step.place.ordinal]? = some step.toStep ∧ step.place.sectionIndex = index + m := by
  induction drafts generalizing index with
  | nil => simp [stepsFrom]
  | cons d ds ih =>
    rw [stepsFrom, List.mem_append, mem_placed, ih]
    constructor
    · rintro (⟨hs, hindex⟩ | ⟨m, draft, hdraft, hs, hindex⟩)
      · exact ⟨0, d, rfl, hs, hindex⟩
      · exact ⟨m + 1, draft, hdraft, hs, by omega⟩
    · rintro ⟨m, draft, hdraft, hs, hindex⟩
      cases m with
      | zero =>
        obtain rfl := Option.some.inj hdraft
        exact .inl ⟨hs, hindex⟩
      | succ m => exact .inr ⟨m, draft, hdraft, hs, by omega⟩

end RecipeBook.Recipe
