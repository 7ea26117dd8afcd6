import Mathlib.Logic.Relation
import RecipeBook.Proofs.StepGraph.Acceptance

/-!
# The graph of linked steps

`Recipe.IsLinked` describes the graph of a recipe whose steps are linked, from both ends of its
edges: they are exactly the dependencies, every list of steps is in order and free of duplicates, and
the roots reach all steps. All of it follows from what a scan knows about its edges
(`Scan.Links`): they are the dependencies, by the step they lead to and then by first use.
-/

namespace RecipeBook

namespace StepGraph

variable {steps : List PlacedStep} {s : Scan} {g : StepGraph} {i j : Nat}

theorem mem_outputs : j ∈ g.outputs i ↔ (i, j) ∈ g.edges := by
  simp [outputs]

theorem mem_inputs : i ∈ g.inputs j ↔ (i, j) ∈ g.edges := by
  simp [inputs]

theorem mem_allEdges {count : Nat} : (i, j) ∈ g.allEdges count ↔ i < count ∧ j ∈ g.outputs i := by
  simp [allEdges]

theorem Before.trans_fst {e e' : Nat × Nat} (h : Before steps e e') (he : e.1 = e'.1) :
    e.2 < e'.2 := by
  rcases h with h | ⟨h2, h⟩
  · exact h
  · rw [he, h2] at h; exact absurd h (Nat.lt_irrefl _)

theorem outputs_sorted (h : g.edges.Pairwise (Before steps)) (i : Nat) :
    (g.outputs i).Pairwise (· < ·) := by
  refine List.pairwise_map.2 ((h.filter _).imp_of_mem fun he he' hb => hb.trans_fst ?_)
  rw [of_decide_eq_true (List.mem_filter.1 he).2, of_decide_eq_true (List.mem_filter.1 he').2]

theorem inputs_sorted (h : g.edges.Pairwise (Before steps)) (j : Nat) :
    (g.inputs j).Pairwise fun a b => firstUse steps a j < firstUse steps b j := by
  refine List.pairwise_map.2 ((h.filter _).imp_of_mem fun he he' hb => ?_)
  have h1 := of_decide_eq_true (List.mem_filter.1 he).2
  have h2 := of_decide_eq_true (List.mem_filter.1 he').2
  rw [Before, h1, h2] at hb
  exact (hb.resolve_left (Nat.lt_irrefl j)).2

theorem inputs_nodup (h : g.edges.Pairwise (Before steps)) (j : Nat) : (g.inputs j).Nodup := by
  refine (inputs_sorted h j).imp fun hab he => ?_
  rw [he] at hab
  exact Nat.lt_irrefl _ hab

theorem allEdges_nodup (h : g.edges.Pairwise (Before steps)) (count : Nat) :
    (g.allEdges count).Nodup := by
  refine List.nodup_flatMap.2 ⟨fun i _ => ?_, ?_⟩
  · exact List.Nodup.map (fun _ _ he => (Prod.mk.inj he).2) ((outputs_sorted h i).imp Nat.ne_of_lt)
  · refine List.nodup_range.imp fun hab e ha hb => ?_
    obtain ⟨_, -, rfl⟩ := List.mem_map.1 ha
    obtain ⟨_, -, he⟩ := List.mem_map.1 hb
    exact hab (Prod.mk.inj he).1.symm

/-- Step `j` depends on step `i`, by the graph. -/
def Next (g : StepGraph) (i j : Nat) : Prop := j ∈ g.outputs i

/-- Edges that point forward make no cycle. -/
theorem not_transGen_next_self (h : ∀ i j, g.Next i j → i < j) (i : Nat) :
    ¬ Relation.TransGen g.Next i i := by
  have hlt : ∀ j, Relation.TransGen g.Next i j → i < j := by
    intro j hij
    induction hij with
    | single hij => exact h _ _ hij
    | tail _ hjk ih => exact Nat.lt_trans ih (h _ _ hjk)
  exact fun hi => Nat.lt_irrefl i (hlt i hi)

/-- A step that is no root comes after another, which is earlier and so comes after a root. -/
theorem exists_root_reaches {count : Nat} (h : ∀ i j, g.Next i j → i < j)
    (hroots : ∀ j < count, (∀ i, ¬ g.Next i j) → j ∈ g.roots) (j : Nat) (hj : j < count) :
    ∃ i ∈ g.roots, Relation.ReflTransGen g.Next i j := by
  induction j using Nat.strongRecOn with
  | ind j ih =>
    by_cases hin : ∃ i, g.Next i j
    · obtain ⟨i, hij⟩ := hin
      obtain ⟨r, hr, hri⟩ := ih i (h i j hij) (Nat.lt_trans (h i j hij) hj)
      exact ⟨r, hr, hri.tail hij⟩
    · exact ⟨j, hroots j hj (not_exists.1 hin), .refl⟩

end StepGraph

namespace Recipe

open StepGraph

/-- The steps of the recipe are linked as their yields and references say. -/
structure IsLinked (r : Recipe) : Prop where
  mem_outputs : ∀ i j, j ∈ r.graph.outputs i ↔ Depends r.steps i j
  mem_inputs : ∀ i j, i ∈ r.graph.inputs j ↔ Depends r.steps i j
  outputs_sorted : ∀ i, (r.graph.outputs i).Pairwise (· < ·)
  outputs_nodup : ∀ i, (r.graph.outputs i).Nodup
  /-- In the order in which step `j` refers to their yields, those it shows first. -/
  inputs_sorted : ∀ j, (r.graph.inputs j).Pairwise fun a b =>
    firstUse r.steps a j < firstUse r.steps b j
  inputs_nodup : ∀ j, (r.graph.inputs j).Nodup
  forward : ∀ i j, j ∈ r.graph.outputs i → i < j ∧ j < r.steps.length
  mem_roots : ∀ j, j ∈ r.graph.roots ↔ j < r.steps.length ∧ r.graph.inputs j = []
  mem_roots_iff_isStart : ∀ j, j ∈ r.graph.roots ↔ IsStart r.steps j
  roots_sorted : r.graph.roots.Pairwise (· < ·)
  acyclic : ∀ i, ¬ Relation.TransGen r.graph.Next i i
  reachable : ∀ j < r.steps.length, ∃ i ∈ r.graph.roots, Relation.ReflTransGen r.graph.Next i j
  mem_edges : ∀ i j, (i, j) ∈ r.edges ↔ j ∈ r.graph.outputs i
  edges_nodup : r.edges.Nodup

variable {r : Recipe} {s : Scan}

/-- Steps without dependencies are the starts. -/
theorem inputs_eq_nil_iff (hs : s.Follows r.steps) (hg : r.graph = ⟨s.edges, s.roots⟩) {j : Nat}
    (hj : j < r.steps.length) : r.graph.inputs j = [] ↔ IsStart r.steps j := by
  rw [isStart_iff_forall_not_depends hs.consistent hj, List.eq_nil_iff_forall_not_mem]
  simp only [StepGraph.mem_inputs, hg, hs.mem_edges]

theorem IsLinked.of_follows (hs : s.Follows r.steps) (hg : r.graph = ⟨s.edges, s.roots⟩) :
    r.IsLinked := by
  have hedges : r.graph.edges.Pairwise (Before r.steps) := hg ▸ hs.edges_sorted
  have hout : ∀ i j, j ∈ r.graph.outputs i ↔ Depends r.steps i j := fun i j => by
    rw [StepGraph.mem_outputs, hg]; exact hs.mem_edges i j
  have hin : ∀ i j, i ∈ r.graph.inputs j ↔ Depends r.steps i j := fun i j => by
    rw [StepGraph.mem_inputs, hg]; exact hs.mem_edges i j
  have hlt : ∀ i j, r.graph.Next i j → i < j := fun i j h => ((hout i j).1 h).lt hs.consistent
  have hroots : ∀ j, j ∈ r.graph.roots ↔ IsStart r.steps j := fun j => by
    rw [hg]; exact hs.mem_roots j
  exact {
    mem_outputs := hout
    mem_inputs := hin
    outputs_sorted := StepGraph.outputs_sorted hedges
    outputs_nodup := fun i => (StepGraph.outputs_sorted hedges i).imp Nat.ne_of_lt
    inputs_sorted := StepGraph.inputs_sorted hedges
    inputs_nodup := StepGraph.inputs_nodup hedges
    forward := fun i j h => ⟨hlt i j h, ((hout i j).1 h).lt_length⟩
    mem_roots := fun j => (hroots j).trans
      ⟨fun h => ⟨h.lt, (inputs_eq_nil_iff hs hg h.lt).2 h⟩,
        fun h => (inputs_eq_nil_iff hs hg h.1).1 h.2⟩
    mem_roots_iff_isStart := hroots
    roots_sorted := hg ▸ hs.roots_sorted
    acyclic := not_transGen_next_self hlt
    reachable := exists_root_reaches hlt fun j hj hno =>
      (hroots j).2 ((isStart_iff_forall_not_depends hs.consistent hj).2 fun i hi =>
        hno i ((hout i j).2 hi))
    mem_edges := fun i j => by
      rw [edges, mem_allEdges]
      refine and_iff_right_of_imp fun h => ?_
      exact Nat.lt_trans (hlt i j h) ((hout i j).1 h).lt_length
    edges_nodup := allEdges_nodup hedges _ }

theorem isLinked_relink (h : r.relink.2 = none) : r.relink.1.IsLinked := by
  obtain ⟨-, hrun⟩ := Scan.run_start r.steps
  exact IsLinked.of_follows (hrun (fault_eq_none_iff_run.1 h).1) (graph_eq_of_fault_eq_none h)

/-- A recipe whose steps have been linked without an error, now or when it was put together, is
linked as its steps say. -/
theorem isLinked_of_fault_eq_none :
    (∀ r r' : Recipe, r.relink = (r', none) → r'.steps = r.steps ∧ r'.IsLinked) ∧
      ∀ metadata drafts r, assemble metadata drafts = .ok r →
        r.steps = stepsFrom 0 drafts ∧ r.IsLinked := by
  refine ⟨fun r r' h => ?_, fun metadata drafts r h => ?_⟩
  · obtain rfl : r.relink.1 = r' := by rw [h]
    exact ⟨rfl, isLinked_relink (by rw [h])⟩
  · obtain ⟨hfault, rfl⟩ := assemble_eq_ok_iff.1 h
    exact ⟨rfl, isLinked_relink hfault⟩

/-- A stock, and vegetables at any time before both go into a soup, which then cools. -/
def soupDrafts : List SectionDraft :=
  [⟨some "Before", [
      { Step.empty 2 with yields := ["Stock"] },
      { Step.empty 2 with yields := ["roots", "Greens "], independent := true }]⟩,
    ⟨some "Soup", [
      { Step.empty 2 with internal := ["greens", " STOCK"], hidden := ["Roots"] },
      Step.empty 2]⟩]

def soup : Recipe :=
  unlinked ⟨"soup", "en", "soup.en.recipe", "Soup", 2, none, 1, none, none, [], [], none, false, 2⟩
    soupDrafts

/-- The soup depends on the vegetables before the stock, because it refers to them first. -/
theorem soup_isLinked : soup.relink = (soup.relink.1, none) ∧
    assemble soup.metadata soupDrafts = .ok soup.relink.1 ∧
      soup.relink.1.steps = stepsFrom 0 soupDrafts ∧ soup.relink.1.IsLinked ∧
        soup.relink.1.graph = ⟨[(1, 2), (0, 2), (2, 3)], [0, 1]⟩ := by
  have hfault : soup.relink.2 = none := by decide +kernel
  have hr : soup.relink = (soup.relink.1, none) := by rw [← hfault]
  have ha : assemble soup.metadata soupDrafts = .ok soup.relink.1 :=
    assemble_eq_ok_iff.2 ⟨hfault, rfl⟩
  exact ⟨hr, ha, (isLinked_of_fault_eq_none.2 _ _ _ ha).1, (isLinked_of_fault_eq_none.1 _ _ hr).2,
    by decide +kernel⟩

end Recipe
end RecipeBook
