import RecipeBook.Proofs.Document.Structure
import RecipeBook.Proofs.Recipe.Loaded
import RecipeBook.Proofs.Recipe.Places
import RecipeBook.Proofs.Totals.Shares

/-!
# The serving count of a loaded recipe

The header of a document gives one serving count, which is not zero, and everything that is read
under it has its share for that count: the steps of a document (`Describes.portioned`), those of a
record of the first generation (`LegacyStep.portioned_toStep`), and hence the totals.
-/

namespace RecipeBook

/-- The step is for `serves` servings, and so are the shares of its ingredients and numbers. -/
structure Step.Portioned (serves : Nat) (s : Step) : Prop where
  serves_eq : s.serves = serves
  ingredients : Totals.Portioned serves s.ingredients
  scalars : ∀ x, .scalar x ∈ s.instructions → x.perServing = x.amount / Float.ofNat serves

variable {serves : Nat}

/-! ### Steps of a document -/

theorem Ingredient.perServing_of_read {line : String} {i : Ingredient}
    (h : Ingredient.read serves line = .ok i) : i.perServing = i.amount.map (· / Float.ofNat serves) := by
  have hmake : ∃ name amount unit, make serves name amount unit = i := by
    obtain ⟨parts, -, hwords⟩ := bind_eq_ok.1 h
    rw [ofWords.eq_def] at hwords
    split at hwords
    · cases hwords
    · exact ⟨_, _, _, Except.ok.inj hwords⟩
    · obtain ⟨x, -, hi⟩ := map_eq_ok.1 hwords
      exact ⟨_, _, _, hi⟩
    · obtain ⟨x, -, hi⟩ := map_eq_ok.1 hwords
      exact ⟨_, _, _, hi⟩
  obtain ⟨name, amount, unit, rfl⟩ := hmake
  rfl

theorem InstructionPart.perServing_of_ofToken {token : List Char} {x : Scalar}
    (h : ofToken serves token = .ok (.scalar x)) : x.perServing = x.amount / Float.ofNat serves := by
  rw [ofToken] at h
  split at h
  · cases h
  · split at h
    · cases h; rfl
    · cases h

theorem exists_of_mem_mapM {α β : Type} {f : α → Except LoadError β} {as : List α} {bs : List β}
    (h : as.mapM f = .ok bs) : ∀ b ∈ bs, ∃ a ∈ as, f a = .ok b := by
  induction as generalizing bs with
  | nil =>
    obtain rfl := Except.ok.inj h
    exact fun b hb => absurd hb List.not_mem_nil
  | cons a as ih =>
    rw [List.mapM_cons] at h
    obtain ⟨b, hb, h⟩ := bind_eq_ok.1 h
    obtain ⟨bs', hbs, h⟩ := bind_eq_ok.1 h
    obtain rfl := Except.ok.inj h
    intro c hc
    rcases List.mem_cons.1 hc with rfl | hc
    · exact ⟨a, List.mem_cons_self, hb⟩
    · obtain ⟨a', ha', hfa⟩ := ih hbs c hc
      exact ⟨a', List.mem_cons_of_mem a ha', hfa⟩

namespace Document

theorem Says.portioned {line : List Char} {a : Addition} (h : Says serves line a) :
    (∀ i, a.ingredient? = some i → i.perServing = i.amount.map (· / Float.ofNat serves)) ∧
      ∀ x, .scalar x ∈ a.parts → x.perServing = x.amount / Float.ofNat serves := by
  cases h with
  | ingredient h =>
    refine ⟨fun i hi => ?_, fun x hx => absurd hx List.not_mem_nil⟩
    obtain rfl := Option.some.inj hi
    exact Ingredient.perServing_of_read h
  | instructions _ h =>
    refine ⟨nofun, fun x hx => ?_⟩
    obtain ⟨token, -, htoken⟩ := exists_of_mem_mapM h _ hx
    exact InstructionPart.perServing_of_ofToken htoken
  | _ => exact ⟨nofun, fun x hx => absurd hx List.not_mem_nil⟩

theorem Describes.portioned {run : List Line} {step : Step} (h : Describes serves run step) :
    step.Portioned serves := by
  obtain ⟨as, has, rfl⟩ := h
  have hadditions := forall_mem_of_forall₂_right has fun l a ha => ha.portioned
  refine ⟨rfl, fun i hi => ?_, fun x hx => ?_⟩
  · obtain ⟨a, ha, hi⟩ := List.mem_filterMap.1 hi
    exact (hadditions a ha).1 i hi
  · obtain ⟨a, ha, hx⟩ := List.mem_flatMap.1 hx
    exact (hadditions a ha).2 x hx

theorem portioned_of_readBody {ls : List Line} {drafts : List SectionDraft}
    (h : readBody serves ls = .ok drafts) : ∀ d ∈ drafts, ∀ s ∈ d.steps, s.Portioned serves :=
  forall_mem_of_forall₂_right (readBody_eq_ok_iff.1 h) fun _ _ hd =>
    forall_mem_of_forall₂_right hd.2 fun _ _ hs => hs.portioned

end Document

/-! ### Steps of a record -/

theorem LegacyStep.portioned_toStep (serves : Nat) (s : LegacyStep) :
    (s.toStep serves).Portioned serves := by
  refine ⟨rfl, fun i hi => ?_, fun x hx => ?_⟩
  · obtain ⟨entry, -, rfl⟩ := List.mem_map.1 hi
    rfl
  · simp [toStep] at hx

namespace Builder

variable {b : Builder}

theorem serves_mem_of_build {m : Metadata} (h : b.build = .ok m) : .serves m.serves ∈ b.entries :=
  serves_mem_of_get? (build_eq_ok h).2.1

end Builder

theorem LegacyRecipe.serves_of_metadata {r : LegacyRecipe} {source : Document.Source} {m : Metadata}
    (h : r.metadata source = .ok m) : m.serves = r.serves := by
  rw [metadata] at h
  split at h
  · cases h
  · next b heq =>
    have hmem := Builder.serves_mem_of_build h
    rw [(Builder.addAll_eq_ok_iff.1 heq).2] at hmem
    simpa [Builder.append, Builder.start, entries] using hmem

/-! ### Recipes -/

namespace Recipe

variable {r : Recipe}

theorem portioned_of_mem_stepsFrom {index : Nat} {drafts : List SectionDraft} {step : PlacedStep}
    (h : ∀ d ∈ drafts, ∀ s ∈ d.steps, s.Portioned serves) (hstep : step ∈ stepsFrom index drafts) :
    step.toStep.Portioned serves := by
  obtain ⟨m, d, hd, hs, -⟩ := mem_stepsFrom.1 hstep
  exact h d (List.mem_of_getElem? hd) _ (List.mem_of_getElem? hs)

theorem IsLoaded.portioned (h : r.IsLoaded) :
    ∀ step ∈ r.steps, step.toStep.Portioned r.metadata.serves := by
  cases h with
  | document source text h =>
    obtain ⟨⟨metadata, drafts⟩, hparts, hassemble⟩ := bind_eq_ok.1 h
    obtain ⟨-, rfl⟩ := assemble_eq_ok_iff.1 hassemble
    rw [Document.parts_eq] at hparts
    obtain ⟨m, -, hparts⟩ := bind_eq_ok.1 hparts
    obtain ⟨ds, hbody, hparts⟩ := bind_eq_ok.1 hparts
    obtain ⟨rfl, rfl⟩ := Prod.mk.inj (Except.ok.inj hparts)
    exact fun step hstep => portioned_of_mem_stepsFrom (Document.portioned_of_readBody hbody) hstep
  | legacy source record h =>
    rw [LegacyRecipe.toRecipe] at h
    split at h
    · cases h
    · obtain ⟨m, hmetadata, hassemble⟩ := bind_eq_ok.1 h
      obtain ⟨-, rfl⟩ := assemble_eq_ok_iff.1 hassemble
      have hserves := LegacyRecipe.serves_of_metadata hmetadata
      intro step hstep
      show step.toStep.Portioned m.serves
      rw [hserves]
      refine portioned_of_mem_stepsFrom (fun d hd s hs => ?_) hstep
      obtain ⟨stage, -, rfl⟩ := List.mem_map.1 hd
      obtain ⟨s, -, rfl⟩ := List.mem_map.1 hs
      exact s.portioned_toStep record.serves

/-- Everything in the recipe that is for some number of servings is for that of its header. -/
structure IsPortioned (r : Recipe) : Prop where
  serves_pos : 0 < r.metadata.serves
  serves_eq : ∀ step ∈ r.steps, step.serves = r.metadata.serves
  ingredient : ∀ step ∈ r.steps, ∀ i ∈ step.ingredients,
    i.perServing = i.amount.map (· / Float.ofNat r.metadata.serves)
  scalar : ∀ step ∈ r.steps, ∀ x, .scalar x ∈ step.instructions →
    x.perServing = x.amount / Float.ofNat r.metadata.serves
  /-- The share of an entry is the sum of the shares of its amounts, from left to right. -/
  total : ∀ e ∈ r.totals, e.isQuantified → e.perServing =
    Totals.sum? (((Totals.occurrences (r.steps.flatMap fun s => s.ingredients) e.key).filterMap
      Ingredient.amount).map (· / Float.ofNat r.metadata.serves))
  /-- The first amount of an ingredient makes the occurrence its entry, whether it has occurred
  without an amount before or not. -/
  first : ∀ before i after, (r.steps.flatMap fun s => s.ingredients) = before ++ i :: after →
    i.isQuantified → i.key ∉ Totals.quantifiedKeys before →
    (Totals.merge r.metadata.serves (Totals.ofList r.metadata.serves before) i).find?
      (·.sameKey i) = some i
  /-- It makes no difference to these what occurs without an amount, before or in between. -/
  quantified : r.totals.filter Ingredient.isQuantified =
    Totals.ofList r.metadata.serves
      ((r.steps.flatMap fun s => s.ingredients).filter Ingredient.isQuantified)

theorem isPortioned_of_isLoaded (h : r.IsLoaded) : r.IsPortioned := by
  have hsteps := h.portioned
  have hall : Totals.Portioned r.metadata.serves (r.steps.flatMap fun s => s.ingredients) := by
    intro i hi
    obtain ⟨step, hstep, hi⟩ := List.mem_flatMap.1 hi
    exact (hsteps step hstep).ingredients i hi
  have htotals := h.totals_eq
  refine ⟨h.sound.serves_pos, fun step hstep => (hsteps step hstep).serves_eq,
    fun step hstep => (hsteps step hstep).ingredients,
    fun step hstep => (hsteps step hstep).scalars, fun e he hq => ?_,
    fun before i after hi hq hk => ?_, ?_⟩
  · rw [htotals] at he
    exact Totals.perServing_of_mem_ofList hall he hq
  · exact Totals.find?_merge (hall i (by rw [hi]; simp)) hq hk
  · rw [htotals, Totals.filter_ofList hall]

def brineText : String :=
  "name Brine\nserves 4\n\n- salt\n- 30 salt\nMix {10} of it.\n\n- salt\n- 20 salt\n"

/-- The salt occurs without an amount before and between its two amounts. -/
theorem isPortioned_brine : ∃ r,
    Document.read ⟨"brine", "en", "brine.en.recipe"⟩ brineText = .ok r ∧
      (r.steps.flatMap fun s => s.ingredients.map Ingredient.isQuantified) =
        [false, true, false, true] ∧
      r.totals.map (fun e => (e.key, e.isQuantified)) = [(("salt", none), true)] ∧
      r.IsPortioned := by
  have hread : (match Document.read ⟨"brine", "en", "brine.en.recipe"⟩ brineText with
      | .ok r => some (r.steps.flatMap fun s => s.ingredients.map Ingredient.isQuantified,
        r.totals.map fun e => (e.key, e.isQuantified))
      | .error _ => none) =
        some ([false, true, false, true], [(("salt", none), true)]) := by decide +kernel
  cases h : Document.read ⟨"brine", "en", "brine.en.recipe"⟩ brineText with
  | error e => simp [h] at hread
  | ok r =>
    rw [h] at hread
    obtain ⟨hquantified, htotals⟩ := Prod.mk.inj (Option.some.inj hread)
    exact ⟨r, rfl, hquantified, htotals, isPortioned_of_isLoaded (.document _ _ h)⟩

end Recipe
end RecipeBook
