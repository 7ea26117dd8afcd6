import RecipeBook.Proofs.Recipe.Places
import RecipeBook.Proofs.StepGraph.Acceptance

/-!
# The numbers of the steps of a recipe

The sections of a recipe tile its steps (`Section.Tiles`): each begins where the one before it ends,
and the last ends with the last step. Whatever is sliced by such sections comes out whole
(`Section.Tiles.flatMap_slice`). The steps of each section are those of its draft, and a step's number is
that of its place in its section counted from the first step of that (`Recipe.isNumbered_of_assemble`).
-/

namespace RecipeBook

/-- The sections divide the steps from number `first` on, less those from `stop` on, in order. -/
def Section.Tiles : Nat → List Section → Nat → Prop
  | first, [], stop => first = stop
  | first, s :: rest, stop => s.first = first ∧ first ≤ s.stop ∧ Tiles s.stop rest stop

namespace Section.Tiles

variable {α : Type} {first stop : Nat} {sections : List Section}

theorem le (h : Tiles first sections stop) : first ≤ stop := by
  induction sections generalizing first with
  | nil => exact Nat.le_of_eq h
  | cons s rest ih =>
    obtain ⟨-, hle, hrest⟩ := h
    exact Nat.le_trans hle (ih hrest)

theorem of_mem (h : Tiles first sections stop) {s : Section} (hs : s ∈ sections) :
    s.first ≤ s.stop ∧ s.stop ≤ stop := by
  induction sections generalizing first with
  | nil => exact absurd hs List.not_mem_nil
  | cons s' rest ih =>
    obtain ⟨rfl, hle, hrest⟩ := h
    rcases List.mem_cons.1 hs with rfl | hs
    · exact ⟨hle, hrest.le⟩
    · exact ih hrest hs

/-- The slices of a list that its sections stand for make up the list. -/
theorem flatMap_slice {xs : List α} (h : Tiles first sections xs.length) :
    (sections.flatMap fun s => (xs.drop s.first).take (s.stop - s.first)) = xs.drop first := by
  induction sections generalizing first with
  | nil =>
    obtain rfl : first = xs.length := h
    rw [List.flatMap_nil, List.drop_length]
  | cons s rest ih =>
    obtain ⟨rfl, hle, hrest⟩ := h
    have hstop : xs.drop s.stop = (xs.drop s.first).drop (s.stop - s.first) := by
      rw [List.drop_drop, Nat.add_sub_cancel' hle]
    rw [List.flatMap_cons, ih hrest, hstop, List.take_append_drop]

end Section.Tiles

namespace Recipe

open Section (Tiles)

variable {metadata : Metadata} {drafts : List SectionDraft} {r : Recipe}

theorem map_toStep_placed (steps : List Step) (index : Nat) :
    (steps.zipIdx.map fun (s, ordinal) => ({ s with place := ⟨ordinal, index⟩ } : PlacedStep)).map
      PlacedStep.toStep = steps := by
  rw [List.map_map]
  exact List.zipIdx_map_fst 0 steps

theorem map_toStep_stepsFrom (index : Nat) (drafts : List SectionDraft) :
    (stepsFrom index drafts).map PlacedStep.toStep = drafts.flatMap SectionDraft.steps := by
  induction drafts generalizing index with
  | nil => rfl
  | cons d ds ih => rw [stepsFrom, List.map_append, map_toStep_placed, ih, List.flatMap_cons]

theorem tiles_sectionsFrom (first index : Nat) (drafts : List SectionDraft) :
    Tiles first (sectionsFrom first drafts) (first + (stepsFrom index drafts).length) := by
  induction drafts generalizing first index with
  | nil => rfl
  | cons d ds ih =>
    have hrest := ih (first + d.steps.length) (index + 1)
    refine ⟨rfl, Nat.le_add_right _ _, ?_⟩
    rwa [stepsFrom, List.length_append, List.length_map, List.length_zipIdx, ← Nat.add_assoc]

theorem headings_sectionsFrom (first : Nat) (drafts : List SectionDraft) :
    (sectionsFrom first drafts).map Section.heading = drafts.map SectionDraft.heading := by
  induction drafts generalizing first with
  | nil => rfl
  | cons d ds ih => rw [sectionsFrom, List.map_cons, List.map_cons, ih]

/-- A step's number is that of its section's first step and its place in the section. -/
theorem place_of_getElem?_stepsFrom (first : Nat) {index k : Nat} {step : PlacedStep}
    (h : (stepsFrom index drafts)[k]? = some step) : ∃ m s,
      (sectionsFrom first drafts)[m]? = some s ∧ step.place.sectionIndex = index + m ∧
        first + k < s.stop ∧ first + k = s.first + step.place.ordinal := by
  induction drafts generalizing first index k with
  | nil => cases h
  | cons d ds ih =>
    rw [stepsFrom, List.getElem?_append] at h
    simp only [List.length_map, List.length_zipIdx] at h
    split at h
    · next hk =>
      have hstep : step.place = ⟨k, index⟩ := by
        simp only [List.getElem?_map, List.getElem?_zipIdx, Option.map_eq_some_iff] at h
        obtain ⟨-, ⟨s, hs, rfl⟩, rfl⟩ := h
        rw [Nat.zero_add]
      refine ⟨0, _, rfl, by rw [hstep]; rfl, ?_, by rw [hstep]⟩
      exact Nat.add_lt_add_left hk first
    · next hk =>
      obtain ⟨m, s, hs, hindex, hlt, heq⟩ := ih (first + d.steps.length) h
      exact ⟨m + 1, s, hs, by omega, by omega, by omega⟩

/-- The steps that the sections stand for are those of the drafts, whatever comes before them. -/
theorem map_slice_sectionsFrom (before : List PlacedStep) (index : Nat) (drafts : List SectionDraft) :
    ((sectionsFrom before.length drafts).map fun s =>
      (((before ++ stepsFrom index drafts).drop s.first).take (s.stop - s.first)).map
        PlacedStep.toStep) = drafts.map SectionDraft.steps := by
  induction drafts generalizing before index with
  | nil => rfl
  | cons d ds ih =>
    have hrest := ih (before ++ d.steps.zipIdx.map fun (s, ordinal) => { s with place := ⟨ordinal, index⟩ })
      (index + 1)
    rw [List.length_append, List.length_map, List.length_zipIdx, List.append_assoc] at hrest
    rw [sectionsFrom, stepsFrom, List.map_cons, List.map_cons, hrest, List.drop_left,
      Nat.add_sub_cancel_left, List.take_left' (by simp), map_toStep_placed]

/-- The sections, their steps and the places of these agree with the drafts that the recipe is put
together from, and with each other. -/
structure IsNumbered (r : Recipe) (drafts : List SectionDraft) : Prop where
  tiles : Tiles 0 r.sections r.steps.length
  headings_eq : r.sections.map Section.heading = drafts.map SectionDraft.heading
  steps_eq : r.steps.map PlacedStep.toStep = drafts.flatMap SectionDraft.steps
  sectionSteps_eq : (r.sections.map fun s => (r.sectionSteps s).map PlacedStep.toStep) =
    drafts.map SectionDraft.steps
  /-- No section reaches beyond the steps. -/
  bounds : ∀ s ∈ r.sections, s.first ≤ s.stop ∧ s.stop ≤ r.steps.length ∧
    (r.sectionSteps s).length = s.stop - s.first
  place : ∀ k (step : PlacedStep), r.steps[k]? = some step → ∃ s, r.sections[step.place.sectionIndex]? = some s ∧
    s.first ≤ k ∧ k < s.stop ∧ k = s.first + step.place.ordinal

theorem isNumbered_of_assemble (h : assemble metadata drafts = .ok r) : r.IsNumbered drafts := by
  obtain ⟨-, rfl⟩ := assemble_eq_ok_iff.1 h
  have htiles : Tiles 0 (sectionsFrom 0 drafts) (stepsFrom 0 drafts).length := by
    have htiles := tiles_sectionsFrom 0 0 drafts
    rwa [Nat.zero_add] at htiles
  refine ⟨htiles, headings_sectionsFrom 0 drafts, map_toStep_stepsFrom 0 drafts,
    map_slice_sectionsFrom [] 0 drafts, fun s hs => ?_, fun k step hstep => ?_⟩
  · obtain ⟨hle, hstop⟩ := htiles.of_mem hs
    refine ⟨hle, hstop, ?_⟩
    show (((stepsFrom 0 drafts).drop s.first).take (s.stop - s.first)).length = s.stop - s.first
    rw [List.length_take, List.length_drop]
    omega
  · obtain ⟨m, s, hs, hindex, hlt, heq⟩ := place_of_getElem?_stepsFrom 0 hstep
    rw [Nat.zero_add] at hindex hlt heq
    exact ⟨s, hindex ▸ hs, by omega, hlt, heq⟩

end Recipe
end RecipeBook
