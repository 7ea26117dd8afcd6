import RecipeBook.Proofs.Recipe.Numbering
import RecipeBook.Proofs.StepGraph.Linked
import RecipeBook.Web.Detail

/-!
# The numbers that a client is told

The sections of a recipe number their steps from their own first one on. As they tile the steps, the
sections taken together list every step of the recipe once, in order, under its own number
(`flatMap_steps_ofRecipe`). All numbers that the graph of the recipe speaks of are among these.
-/

namespace RecipeBook

namespace Web.SectionDetail

variable {r : Recipe}

/-- A slice of a list, numbered from the number of its first element on. -/
theorem zip_range'_slice {α : Type} (xs : List α) (first count : Nat) :
    ((xs.drop first).take count).zip (List.range' first count) =
      (xs.zipIdx.drop first).take count := by
  refine List.ext_getElem (by simp) fun i hi hi' => ?_
  simp

theorem steps_ofSection (r : Recipe) (s : Section) : (ofSection r s).steps =
    ((r.steps.zipIdx.drop s.first).take (s.stop - s.first)).map fun (step, id) =>
      StepDetail.ofStep r.graph step id := by
  rw [ofSection, Recipe.sectionSteps, zip_range'_slice]

theorem flatMap_steps_ofRecipe (h : Section.Tiles 0 r.sections r.steps.length) :
    (ofRecipe r).flatMap SectionDetail.steps =
      r.steps.zipIdx.map fun (step, id) => StepDetail.ofStep r.graph step id := by
  rw [← List.length_zipIdx (i := 0)] at h
  simp only [ofRecipe, List.flatMap_map, steps_ofSection]
  rw [← List.map_flatMap, h.flatMap_slice, List.drop_zero]

/-- What is told of the steps of a recipe agrees with the recipe and with itself. -/
structure Lists (listed : List StepDetail) (r : Recipe) : Prop where
  ids_eq : listed.map StepDetail.id = List.range r.steps.length
  /-- What is told under a number is told of the step with that number. -/
  eq_ofStep : ∀ d ∈ listed, ∃ step, r.steps[d.id]? = some step ∧
    d = StepDetail.ofStep r.graph step d.id
  roots : ∀ id ∈ r.graph.roots, ∃ d ∈ listed, d.id = id
  inputs : ∀ d ∈ listed, ∀ id ∈ d.inputs, ∃ d' ∈ listed, d'.id = id
  outputs : ∀ d ∈ listed, ∀ id ∈ d.outputs, ∃ d' ∈ listed, d'.id = id
  mem_outputs_iff : ∀ a ∈ listed, ∀ b ∈ listed, b.id ∈ a.outputs ↔ a.id ∈ b.inputs

theorem lists_of_isLinked (h : r.IsLinked) :
    Lists (r.steps.zipIdx.map fun (step, id) => StepDetail.ofStep r.graph step id) r := by
  let listed := r.steps.zipIdx.map fun (step, id) => StepDetail.ofStep r.graph step id
  have hofStep : ∀ d ∈ listed, ∃ step, r.steps[d.id]? = some step ∧
      d = StepDetail.ofStep r.graph step d.id := by
    intro d hd
    obtain ⟨⟨step, id⟩, hstep, rfl⟩ := List.mem_map.1 hd
    exact ⟨step, List.mem_zipIdx_iff_getElem?.1 hstep, rfl⟩
  have hids : listed.map StepDetail.id = List.range r.steps.length := by
    rw [List.map_map, List.range_eq_range', ← List.zipIdx_map_snd 0 r.steps]
    rfl
  have hlisted : ∀ id < r.steps.length, ∃ d ∈ listed, d.id = id := fun id hid =>
    List.mem_map.1 (hids ▸ List.mem_range.2 hid)
  have hinputs : ∀ d ∈ listed, d.inputs = r.graph.inputs d.id := fun d hd => by
    obtain ⟨step, -, hd⟩ := hofStep d hd
    rw [hd]
    rfl
  have houtputs : ∀ d ∈ listed, d.outputs = r.graph.outputs d.id := fun d hd => by
    obtain ⟨step, -, hd⟩ := hofStep d hd
    rw [hd]
    rfl
  refine ⟨hids, hofStep, fun id hid => hlisted id ((h.mem_roots id).1 hid).1,
    fun d hd id hid => hlisted id ?_, fun d hd id hid => hlisted id ?_, fun a ha b hb => ?_⟩
  · rw [hinputs d hd, h.mem_inputs, ← h.mem_outputs] at hid
    exact Nat.lt_trans (h.forward id d.id hid).1 (h.forward id d.id hid).2
  · rw [houtputs d hd] at hid
    exact (h.forward d.id id hid).2
  · rw [houtputs a ha, hinputs b hb, h.mem_outputs, h.mem_inputs]

end Web.SectionDetail

namespace Recipe

open Web (SectionDetail)

variable {metadata : Metadata} {drafts : List SectionDraft} {r : Recipe}

/-- In a recipe that is put together, sections, places and graph number the steps alike, and so does
what a client is told of it. -/
theorem numbered_and_listed (h : assemble metadata drafts = .ok r) : r.IsNumbered drafts ∧
    SectionDetail.Lists ((SectionDetail.ofRecipe r).flatMap SectionDetail.steps) r := by
  have hnumbered := isNumbered_of_assemble h
  refine ⟨hnumbered, ?_⟩
  rw [SectionDetail.flatMap_steps_ofRecipe hnumbered.tiles]
  obtain ⟨hfault, rfl⟩ := assemble_eq_ok_iff.1 h
  exact SectionDetail.lists_of_isLinked (isLinked_relink hfault)

/-- The soup, with a section without steps on either side. -/
def framedSoupDrafts : List SectionDraft :=
  [⟨some "Shopping", []⟩] ++ soupDrafts ++ [⟨some "Serving", []⟩]

theorem numbered_and_listed_framedSoup : ∃ r, assemble soup.metadata framedSoupDrafts = .ok r ∧
    r.sections.map (fun s => (s.first, s.stop)) = [(0, 0), (0, 2), (2, 4), (4, 4)] ∧
    (r.steps.map fun step => (step.place.sectionIndex, step.place.ordinal)) =
      [(1, 0), (1, 1), (2, 0), (2, 1)] ∧
    r.graph = ⟨[(1, 2), (0, 2), (2, 3)], [0, 1]⟩ ∧
    r.IsNumbered framedSoupDrafts ∧
    SectionDetail.Lists ((SectionDetail.ofRecipe r).flatMap SectionDetail.steps) r := by
  have hfault : (StepGraph.build (stepsFrom 0 framedSoupDrafts)).fault = none := by decide +kernel
  have hr : assemble soup.metadata framedSoupDrafts =
      .ok (unlinked soup.metadata framedSoupDrafts).relink.1 := assemble_eq_ok_iff.2 ⟨hfault, rfl⟩
  exact ⟨_, hr, by decide, by decide, by decide +kernel, numbered_and_listed hr⟩

end Recipe
end RecipeBook
