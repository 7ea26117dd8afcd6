import RecipeBook.Proofs.StableSort
import RecipeBook.Proofs.StepGraph.Linked

/-!
# Steps at other places

The rules and the graph of the steps are about their order and about what they refer to and yield. The
places that errors name make no difference: steps that are the same but for these are orderly together
(`orderly_congr`), and then have the same graph (`graph_congr`).
-/

namespace RecipeBook.StepGraph

variable {ps qs : List PlacedStep} {s s' : Scan}

section
variable (h : ps.map PlacedStep.toStep = qs.map PlacedStep.toStep)
include h

theorem map_getElem?_congr {α : Type} (f : Step → α) (i : Nat) :
    (ps[i]?.map fun s => f s.toStep) = qs[i]?.map fun s => f s.toStep := by
  have hstep : ps[i]?.map PlacedStep.toStep = qs[i]?.map PlacedStep.toStep := by
    rw [← List.getElem?_map, h, List.getElem?_map]
  have hmap := congrArg (Option.map f) hstep
  rwa [Option.map_map, Option.map_map] at hmap

theorem yieldsOf_congr : yieldsOf ps = yieldsOf qs :=
  funext fun i => congrArg (Option.getD · []) (map_getElem?_congr h Step.yieldKeys i)

theorem referencesOf_congr : referencesOf ps = referencesOf qs :=
  funext fun i => congrArg (Option.getD · []) (map_getElem?_congr h Step.referenceKeys i)

theorem isStart_congr : IsStart ps = IsStart qs := by
  have hstart : ∀ (steps : List PlacedStep) (j : Nat), IsStart steps j ↔
      ∃ independent, (steps[j]?.map fun s => s.toStep.independent) = some independent ∧
        (j = 0 ∨ independent) := by
    intro steps j
    constructor
    · rintro ⟨step, hstep, hstart⟩
      exact ⟨step.independent, by rw [hstep]; rfl, hstart⟩
    · rintro ⟨independent, hmap, hstart⟩
      obtain ⟨step, hstep, rfl⟩ := Option.map_eq_some_iff.1 hmap
      exact ⟨step, hstep, hstart⟩
  funext j
  rw [eq_iff_iff, hstart, hstart, map_getElem?_congr h Step.independent]

theorem depends_congr : Depends ps = Depends qs := by
  have hlength : ps.length = qs.length := by
    have := congrArg List.length h
    rwa [List.length_map, List.length_map] at this
  funext i j
  rw [Depends, Depends, hlength, isStart_congr h, referencesOf_congr h, yieldsOf_congr h]

theorem before_congr : Before ps = Before qs := by
  funext e e'
  simp only [Before, firstUse, referencesOf_congr h, yieldsOf_congr h]

theorem Orderly.of_map_eq (ho : Orderly ps) : Orderly qs := by
  obtain ⟨⟨hstarts, hresolved, hdistinct, hunique⟩, hused⟩ := ho
  simp only [isStart_congr h, referencesOf_congr h, yieldsOf_congr h] at *
  exact ⟨⟨hstarts, hresolved, hdistinct, hunique⟩, hused⟩

theorem orderly_congr : Orderly ps ↔ Orderly qs := ⟨.of_map_eq h, .of_map_eq h.symm⟩

theorem Scan.Links.of_map_eq (hl : s.Links ps) : s.Links qs := by
  obtain ⟨hroots, hrootsSorted, hconsumed, hedges, hedgesSorted⟩ := hl
  rw [isStart_congr h] at hroots
  rw [referencesOf_congr h] at hconsumed
  rw [depends_congr h] at hedges
  rw [before_congr h] at hedgesSorted
  exact ⟨hroots, hrootsSorted, hconsumed, hedges, hedgesSorted⟩

end

theorem Before.asymm {e e' : Nat × Nat} (h : Before ps e e') : ¬ Before ps e' e := by
  rintro (h' | ⟨heq', h'⟩) <;> rcases h with h | ⟨heq, h⟩ <;> omega

/-- The order leaves one way to list the starts and the dependencies of the steps. -/
theorem Scan.Links.unique (hl : s.Links ps) (hl' : s'.Links ps) :
    s.roots = s'.roots ∧ s.edges = s'.edges := by
  constructor
  · refine eq_of_pairwise_of_mem_iff (fun _ _ => Nat.lt_asymm) hl.roots_sorted hl'.roots_sorted fun j => ?_
    rw [hl.mem_roots, hl'.mem_roots]
  · refine eq_of_pairwise_of_mem_iff (fun _ _ => Before.asymm) hl.edges_sorted hl'.edges_sorted ?_
    rintro ⟨i, j⟩
    rw [hl.mem_edges, hl'.mem_edges]

theorem graph_congr (h : ps.map PlacedStep.toStep = qs.map PlacedStep.toStep) (ho : Orderly ps) :
    (build ps).graph = (build qs).graph := by
  have hp := build_fault_eq_none_iff.2 ho
  have hq := build_fault_eq_none_iff.2 (ho.of_map_eq h)
  have hlinks : ∀ {steps : List PlacedStep}, (build steps).fault = none →
      (Scan.start.run 0 steps).1.Links steps :=
    fun hfault => ((Scan.run_start _).2 (fault_eq_none_iff_run.1 hfault).1).toLinks
  obtain ⟨hroots, hedges⟩ := ((hlinks hp).of_map_eq h).unique (hlinks hq)
  rw [graph_eq_of_fault_eq_none hp, graph_eq_of_fault_eq_none hq, hroots, hedges]

end RecipeBook.StepGraph
