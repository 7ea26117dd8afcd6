import RecipeBook.Legacy
import RecipeBook.Proofs.Metadata.Builder
import RecipeBook.Proofs.Paired
import RecipeBook.Proofs.Recipe.Numbering
import RecipeBook.Proofs.StepGraph.FirstFault
import RecipeBook.Proofs.StepGraph.Unplaced

/-!
# Recipes made of records

A record has one value at most for each field of a header, and the two values that a header must have,
so that its header is never refused (`exists_build_entries`). What can be wrong with a record is its
serving count, and its steps. The lists that are not empty become the sections, so the steps of all six
lists stand one after the other as if the empty ones were not there (`map_toStep_placedSteps`), and the
places that errors name are counted among the lists that are not empty (`exists_of_mem_placedSteps`).
-/

namespace RecipeBook

/-- Problems of a builder: a field that is set twice, or one that is missing or has a wrong value. -/
inductive Problem.OfBuilder : Problem → Prop
  | alreadySet (field : Field) (old new : String) : OfBuilder (.alreadySet field old new)
  | nameMissing (id lang : String) : OfBuilder (.nameMissing id lang)
  | servesMissing (id lang : String) : OfBuilder (.servesMissing id lang)
  | wrongVersion (id lang : String) (version : Nat) : OfBuilder (.wrongVersion id lang version)

def OneOrMany.texts : OneOrMany → List String
  | one text => [text]
  | many texts => texts

/-- What the step says is in the step that is made of it, in order. -/
structure LegacyStep.Becomes (serves : Nat) (s : LegacyStep) (step : Step) : Prop where
  serves_eq : step.serves = serves
  instructions_eq : step.instructions = [.text (trimmed s.instructions)]
  ingredients : List.Forall₂ (fun i i' => i'.name = i.ingredient ∧ i'.amount = i.amount ∧
      i'.unit = i.unit ∧ i'.perServing = i.amount.map (· / Float.ofNat serves))
    s.ingredients step.ingredients
  internal_eq : step.internal = s.internal
  hidden_eq : step.hidden = s.hidden
  yields_eq : step.yields =
    (s.yields.toList.flatMap OneOrMany.texts).map fun name => lowered (trimmed name)
  not_independent : step.independent = false

namespace LegacyRecipe

/-- The six lists in the order of their sections, each with the heading of its section. -/
def lists (r : LegacyRecipe) : List (String × List LegacyStep) :=
  [("Prep", r.stage .prep), ("Mis-en-place", r.stage .misEnPlace), ("Cooking", r.stage .cooking),
    ("Passive cooking", r.stage .passiveCooking), ("Cooking pt. 2", r.stage .cooking2),
    ("Passive cooking pt. 2", r.stage .passiveCooking2)]

/-- The lists that are not empty. -/
def filledLists (r : LegacyRecipe) : List (String × List LegacyStep) :=
  r.lists.filter fun (_, steps) => steps ≠ []

/-- The steps of all lists, one list after the other. -/
def steps (r : LegacyRecipe) : List Step :=
  (r.lists.flatMap Prod.snd).map (LegacyStep.toStep r.serves)

/-- The steps at their places: the position in the list, and that of the list among those that are not
empty. -/
def placedSteps (r : LegacyRecipe) : List PlacedStep :=
  r.filledLists.zipIdx.flatMap fun ((_, steps), sectionIndex) =>
    steps.zipIdx.map fun (s, ordinal) =>
      { s.toStep r.serves with place := ⟨ordinal, sectionIndex⟩ }

/-- The recipe has a section for each list that is not empty, with the steps of the list, and is linked
as the steps are one after the other, wherever they are placed. -/
structure MakesRecipe (r : LegacyRecipe) (source : Document.Source) (made : Recipe) : Prop where
  metadata : r.metadata source = .ok made.metadata
  sections : List.Forall₂ (fun (heading, steps) s => s.heading = some heading ∧
      List.Forall₂ (LegacyStep.Becomes r.serves) steps
        ((made.sectionSteps s).map PlacedStep.toStep)) r.filledLists made.sections
  steps_eq : made.steps = r.placedSteps
  graph_eq : ∀ placed : List PlacedStep, placed.map PlacedStep.toStep = r.steps →
    made.graph = (StepGraph.build placed).graph

/-- What becomes of a record. -/
structure Converts (r : LegacyRecipe) (source : Document.Source) : Prop where
  /-- A builder takes all entries of the record, and finds all that a header needs. -/
  builds : ∃ b m, (Builder.start source.id source.lang source.fileName).addAll r.entries = (b, none) ∧
    b.entries = r.entries ∧ b.build = .ok m
  steps : List.Forall₂ (LegacyStep.Becomes r.serves) (r.lists.flatMap Prod.snd) r.steps
  placedSteps_eq : r.placedSteps.map PlacedStep.toStep = r.steps
  /-- The section of a step is counted among the lists that are not empty. -/
  place : ∀ step ∈ r.placedSteps, ∃ heading steps s,
    r.filledLists[step.place.sectionIndex]? = some (heading, steps) ∧
      steps[step.place.ordinal]? = some s ∧ step.toStep = s.toStep r.serves
  fails_iff : ∀ placed : List PlacedStep, placed.map PlacedStep.toStep = r.steps →
    ((∃ e, r.toRecipe source = .error e) ↔ r.serves = 0 ∨ ¬ StepGraph.Orderly placed)
  /-- The error is about the serving count, or about the first step that breaks a rule, at its place. -/
  error_iff : ∀ e, r.toRecipe source = .error e ↔
    r.serves = 0 ∧ e = .of .servingCountZero ∨ r.serves ≠ 0 ∧ ∃ step ∈ r.placedSteps,
      StepGraph.Faults r.placedSteps step e.problem ∧ e.notes = [.step step.place]
  not_ofBuilder : ∀ e, r.toRecipe source = .error e → ¬ e.problem.OfBuilder
  made : ∀ recipe, r.toRecipe source = .ok recipe → r.MakesRecipe source recipe

end LegacyRecipe

theorem LegacyStep.becomes_toStep (serves : Nat) (s : LegacyStep) :
    s.Becomes serves (s.toStep serves) where
  serves_eq := rfl
  instructions_eq := rfl
  ingredients := by
    rw [toStep, List.forall₂_map_right_iff, List.forall₂_same]
    exact fun i _ => ⟨rfl, rfl, rfl, rfl⟩
  internal_eq := rfl
  hidden_eq := rfl
  yields_eq := by
    rw [toStep]
    cases s.yields with
    | none => rfl
    | some yields =>
      cases yields with
      | one name => rfl
      | many names => simp [OneOrMany.texts, nameKey]
  not_independent := rfl

/-! ### The header of a record -/

namespace LegacyRecipe

variable {r : LegacyRecipe} {source : Document.Source} {e : LoadError}

/-- The fields in the order in which a record fills them. -/
def fieldOrder : List Field :=
  [.name, .serves] ++ [.servingsUnit] ++ [.servingsIncrement] ++ [.description] ++ [.note] ++ [.tags] ++
    [.related] ++ [.hideFromAll]

theorem fields_toList_sublist {α : Type} {field : Field} (o : Option α) (f : α → Entry)
    (hf : ∀ a, (f a).field = field) : ((o.map f).toList.map Entry.field).Sublist [field] := by
  cases o with
  | none => exact List.nil_sublist _
  | some a =>
    show [(f a).field].Sublist [field]
    rw [hf]

/-- No field gets two entries. -/
theorem fields_sublist (r : LegacyRecipe) : (r.entries.map Entry.field).Sublist fieldOrder := by
  have hrelated : ((if r.related = [] then [] else [Entry.related (r.related.map normalizeId)]).map
      Entry.field).Sublist [.related] := by
    split
    · exact List.nil_sublist _
    · exact List.Sublist.refl _
  have hhidden : ((if r.hideFromAll then [Entry.hideFromAll true] else []).map
      Entry.field).Sublist [.hideFromAll] := by
    split
    · exact List.Sublist.refl _
    · exact List.nil_sublist _
  simp only [entries, List.map_append, fieldOrder]
  refine List.Sublist.append (List.Sublist.append ?_ hrelated) hhidden
  refine List.Sublist.append ?_ (fields_toList_sublist r.tags _ fun _ => rfl)
  refine List.Sublist.append ?_ (fields_toList_sublist r.note _ fun _ => rfl)
  refine List.Sublist.append ?_ (fields_toList_sublist r.descr _ fun _ => rfl)
  refine List.Sublist.append ?_ (fields_toList_sublist r.servingsIncrement _ fun _ => rfl)
  exact (List.Sublist.refl _).append (fields_toList_sublist r.servingsUnit _ fun _ => rfl)

theorem takes_entries (r : LegacyRecipe) (source : Document.Source) :
    (Builder.start source.id source.lang source.fileName).Takes r.entries := by
  -- every combination of absent fields leaves a sublist of one order without repetition
  have hnodup : fieldOrder.Nodup := by decide
  exact (Builder.takes_start_iff _ _ _).2 (hnodup.sublist r.fields_sublist)

theorem exists_build_entries (r : LegacyRecipe) (source : Document.Source) :
    ∃ m, ((Builder.start source.id source.lang source.fileName).append r.entries).build = .ok m := by
  refine Builder.exists_build_iff.2 ⟨⟨.name r.name, rfl⟩, ⟨.serves r.serves, rfl⟩, fun e he => ?_⟩
  have hmem : e.field ∈ fieldOrder :=
    r.fields_sublist.subset (List.mem_map_of_mem (List.mem_of_find?_eq_some he))
  rw [Builder.field_of_entry?_eq_some he] at hmem
  exact absurd hmem (by decide)

theorem addAll_entries (r : LegacyRecipe) (source : Document.Source) :
    (Builder.start source.id source.lang source.fileName).addAll r.entries =
      ((Builder.start source.id source.lang source.fileName).append r.entries, none) :=
  Builder.addAll_eq_ok_iff.2 ⟨r.takes_entries source, rfl⟩

theorem exists_metadata (r : LegacyRecipe) (source : Document.Source) :
    ∃ m, r.metadata source = .ok m := by
  obtain ⟨m, hm⟩ := r.exists_build_entries source
  refine ⟨m, ?_⟩
  rw [metadata, addAll_entries]
  exact hm

/-! ### The steps of a record -/

/-- The section of a list. -/
def draft (serves : Nat) (list : String × List LegacyStep) : SectionDraft :=
  ⟨some list.1, list.2.map (LegacyStep.toStep serves)⟩

theorem drafts_eq (r : LegacyRecipe) : r.drafts = r.filledLists.map (draft r.serves) := by
  have hlists : r.lists = Stage.all.map fun stage => (stage.heading, r.stage stage) := rfl
  rw [filledLists, hlists, List.filter_map, List.map_map]
  rfl

theorem headings_drafts (r : LegacyRecipe) : r.drafts.map SectionDraft.heading =
    r.filledLists.map fun list => some list.1 := by
  rw [drafts_eq, List.map_map]
  rfl

theorem steps_drafts (r : LegacyRecipe) : r.drafts.map SectionDraft.steps =
    r.filledLists.map fun list => list.2.map (LegacyStep.toStep r.serves) := by
  rw [drafts_eq, List.map_map]
  rfl

/-- Steps under headings are placed as the lists they come from. -/
theorem stepsFrom_map_draft (serves index : Nat) (lists : List (String × List LegacyStep)) :
    Recipe.stepsFrom index (lists.map (draft serves)) =
      (lists.zipIdx index).flatMap fun ((_, steps), sectionIndex) =>
        steps.zipIdx.map fun (s, ordinal) =>
          { s.toStep serves with place := ⟨ordinal, sectionIndex⟩ } := by
  induction lists generalizing index with
  | nil => rfl
  | cons list lists ih =>
    rw [List.map_cons, Recipe.stepsFrom, ih, List.zipIdx_cons, List.flatMap_cons, draft,
      List.zipIdx_map, List.map_map]
    rfl

theorem stepsFrom_drafts (r : LegacyRecipe) : Recipe.stepsFrom 0 r.drafts = r.placedSteps := by
  rw [drafts_eq, stepsFrom_map_draft, placedSteps]

/-- Empty lists add no steps. -/
theorem flatMap_filledLists (r : LegacyRecipe) :
    r.filledLists.flatMap Prod.snd = r.lists.flatMap Prod.snd := by
  rw [filledLists]
  induction r.lists with
  | nil => rfl
  | cons list lists ih =>
    rw [List.filter_cons, List.flatMap_cons, ← ih]
    by_cases hnil : list.2 = []
    · simp [hnil]
    · simp [hnil]

theorem map_toStep_placedSteps (r : LegacyRecipe) : r.placedSteps.map PlacedStep.toStep = r.steps := by
  rw [← stepsFrom_drafts, Recipe.map_toStep_stepsFrom, drafts_eq, List.flatMap_map, steps,
    ← flatMap_filledLists, List.map_flatMap]
  rfl

theorem exists_of_mem_placedSteps {step : PlacedStep} (h : step ∈ r.placedSteps) :
    ∃ heading steps s, r.filledLists[step.place.sectionIndex]? = some (heading, steps) ∧
      steps[step.place.ordinal]? = some s ∧ step.toStep = s.toStep r.serves := by
  rw [← stepsFrom_drafts, drafts_eq, Recipe.mem_stepsFrom] at h
  obtain ⟨m, d, hd, hstep, hindex⟩ := h
  rw [List.getElem?_map, Option.map_eq_some_iff] at hd
  obtain ⟨⟨heading, steps⟩, hlist, rfl⟩ := hd
  rw [draft, List.getElem?_map, Option.map_eq_some_iff] at hstep
  obtain ⟨s, hs, htoStep⟩ := hstep
  rw [Nat.zero_add] at hindex
  exact ⟨heading, steps, s, hindex ▸ hlist, hs, htoStep.symm⟩

theorem forall₂_becomes (serves : Nat) (ss : List LegacyStep) :
    List.Forall₂ (LegacyStep.Becomes serves) ss (ss.map (LegacyStep.toStep serves)) := by
  rw [List.forall₂_map_right_iff, List.forall₂_same]
  exact fun s _ => s.becomes_toStep serves

/-! ### What a record is converted to -/

theorem toRecipe_eq_error_iff : r.toRecipe source = .error e ↔
    r.serves = 0 ∧ e = .of .servingCountZero ∨
      r.serves ≠ 0 ∧ (StepGraph.build r.placedSteps).fault = some e := by
  obtain ⟨m, hm⟩ := r.exists_metadata source
  rw [toRecipe, hm]
  by_cases hserves : r.serves = 0
  · rw [if_pos hserves]
    simp [hserves, fail, eq_comm]
  · rw [if_neg hserves]
    show Recipe.assemble m r.drafts = .error e ↔ _
    rw [Recipe.assemble_eq_error_iff, stepsFrom_drafts]
    simp [hserves]

theorem not_ofBuilder_of_faults {steps : List PlacedStep} {step : PlacedStep} {problem : Problem}
    (h : StepGraph.Faults steps step problem) : ¬ problem.OfBuilder := by
  intro hbuilder
  cases hbuilder <;> cases h with
  | refused hsteps hus hstep hrefuses =>
    cases hrefuses with
    | references hbad => cases hbad
    | yields hreferences hbad => cases hbad

theorem makesRecipe_of_toRecipe {made : Recipe} (h : r.toRecipe source = .ok made) :
    r.MakesRecipe source made := by
  obtain ⟨m, hm⟩ := r.exists_metadata source
  rw [toRecipe, hm] at h
  split at h
  · cases h
  · have hassemble : Recipe.assemble m r.drafts = .ok made := h
    have hnumbered := Recipe.isNumbered_of_assemble hassemble
    obtain ⟨hfault, rfl⟩ := Recipe.assemble_eq_ok_iff.1 hassemble
    rw [stepsFrom_drafts] at hfault
    have hheadings := forall₂_of_map_eq (hnumbered.headings_eq.trans r.headings_drafts)
    have hsections := forall₂_of_map_eq (hnumbered.sectionSteps_eq.trans r.steps_drafts)
    refine ⟨hm, ?_, r.stepsFrom_drafts, fun placed hplaced => ?_⟩
    · refine (forall₂_and hheadings hsections).imp fun list s hs => ⟨hs.1, ?_⟩
      rw [hs.2]
      exact forall₂_becomes r.serves list.2
    · show (StepGraph.build (Recipe.stepsFrom 0 r.drafts)).graph = _
      rw [stepsFrom_drafts]
      exact StepGraph.graph_congr (r.map_toStep_placedSteps.trans hplaced.symm)
        (StepGraph.build_fault_eq_none_iff.1 hfault)

theorem exists_error_iff {placed : List PlacedStep} (hplaced : placed.map PlacedStep.toStep = r.steps) :
    (∃ e, r.toRecipe source = .error e) ↔ r.serves = 0 ∨ ¬ StepGraph.Orderly placed := by
  have horderly : StepGraph.Orderly placed ↔ StepGraph.Orderly r.placedSteps :=
    StepGraph.orderly_congr (hplaced.trans r.map_toStep_placedSteps.symm)
  rw [horderly, ← StepGraph.build_fault_eq_none_iff, ← Ne, Option.ne_none_iff_exists']
  simp only [toRecipe_eq_error_iff, exists_or, exists_and_left, exists_eq, and_true]
  by_cases hserves : r.serves = 0 <;> simp [hserves]

theorem converts (r : LegacyRecipe) (source : Document.Source) : r.Converts source := by
  obtain ⟨m, hm⟩ := r.exists_build_entries source
  have herror : ∀ e, r.toRecipe source = .error e ↔
      r.serves = 0 ∧ e = .of .servingCountZero ∨ r.serves ≠ 0 ∧ ∃ step ∈ r.placedSteps,
        StepGraph.Faults r.placedSteps step e.problem ∧ e.notes = [.step step.place] := by
    intro e
    rw [toRecipe_eq_error_iff, StepGraph.exists_faults_iff]
  exact {
    builds := ⟨_, m, r.addAll_entries source, List.nil_append _, hm⟩
    steps := forall₂_becomes r.serves _
    placedSteps_eq := r.map_toStep_placedSteps
    place := fun step hstep => exists_of_mem_placedSteps hstep
    fails_iff := fun placed hplaced => exists_error_iff hplaced
    error_iff := herror
    not_ofBuilder := by
      intro e he
      rcases (herror e).1 he with ⟨-, rfl⟩ | ⟨-, step, -, hfaults, -⟩
      · exact fun h => nomatch h
      · exact not_ofBuilder_of_faults hfaults
    made := fun recipe hrecipe => makesRecipe_of_toRecipe hrecipe }

end LegacyRecipe
end RecipeBook
