import RecipeBook.Proofs.StepGraph.Follows
import RecipeBook.Recipe

/-!
# Which steps can be linked

`build_fault_eq_none_iff`: the steps get a graph exactly if they are `Orderly`. While the scan runs
it checks that they are consistent; that every yield is used is checked at the end, where a reference
to a yield must come from a later step because a consistent step refers to earlier steps only.
-/

namespace RecipeBook.StepGraph

variable {steps : List PlacedStep} {s : Scan}

theorem Consistent.lt_of_mem {i j : Nat} {key : String} (hc : Consistent steps)
    (hi : key ∈ yieldsOf steps i) (hj : key ∈ referencesOf steps j) : i < j :=
  Depends.lt hc (.inr ⟨key, hj, hi⟩)

/-- No yield is left over exactly if every yield is used. -/
theorem Scan.Follows.unused?_eq_none_iff (h : s.Follows steps) :
    s.unused? = none ↔ Orderly steps := by
  simp only [Scan.unused?, List.find?_eq_none, decide_eq_true_eq, not_not, h.declared_eq,
    h.mem_consumed]
  constructor
  · intro hall
    refine ⟨h.consistent, fun i key hkey => ?_⟩
    obtain ⟨d, hd, rfl, -⟩ := exists_mem_declarations hkey
    obtain ⟨j, hj⟩ := hall d hd
    exact ⟨j, h.consistent.lt_of_mem hkey hj, hj⟩
  · intro ho d hd
    obtain ⟨j, -, hj⟩ := ho.used d.producer d.key (key_mem_yieldsOf hd)
    exact ⟨j, hj⟩

/-- A run over all steps gets through exactly if they are consistent, and then knows all of them. -/
theorem Scan.run_start (steps : List PlacedStep) :
    ((start.run 0 steps).2 = none ↔ Consistent steps) ∧
      ((start.run 0 steps).2 = none → (start.run 0 steps).1.Follows steps) :=
  Follows.start.run steps

theorem fault_eq_none_iff_run : (build steps).fault = none ↔
    (Scan.start.run 0 steps).2 = none ∧ (Scan.start.run 0 steps).1.unused? = none := by
  rw [build]
  obtain ⟨s, fault⟩ := Scan.start.run 0 steps
  cases fault with
  | some e => simp
  | none => cases hu : s.unused? <;> simp [hu]

theorem graph_eq_of_fault_eq_none (h : (build steps).fault = none) :
    (build steps).graph = ⟨(Scan.start.run 0 steps).1.edges, (Scan.start.run 0 steps).1.roots⟩ := by
  obtain ⟨hrun, hu⟩ := fault_eq_none_iff_run.1 h
  rw [build]
  revert hrun hu
  obtain ⟨s, fault⟩ := Scan.start.run 0 steps
  rintro rfl hu
  simp only [hu]

theorem build_fault_eq_none_iff : (build steps).fault = none ↔ Orderly steps := by
  obtain ⟨hiff, hrun⟩ := Scan.run_start steps
  rw [fault_eq_none_iff_run]
  constructor
  · rintro ⟨h, hu⟩
    exact (hrun h).unused?_eq_none_iff.1 hu
  · intro h
    have hnone := hiff.2 h.toConsistent
    exact ⟨hnone, (hrun hnone).unused?_eq_none_iff.2 h⟩

end StepGraph

namespace Recipe

variable {metadata : Metadata} {drafts : List SectionDraft}

theorem assemble_eq_ok_iff {r : Recipe} : assemble metadata drafts = .ok r ↔
    (StepGraph.build (stepsFrom 0 drafts)).fault = none ∧ (unlinked metadata drafts).relink.1 = r := by
  rw [assemble]
  cases h : (StepGraph.build (stepsFrom 0 drafts)).fault <;> simp [relink, unlinked, h]

theorem assemble_eq_error_iff {e : LoadError} : assemble metadata drafts = .error e ↔
    (StepGraph.build (stepsFrom 0 drafts)).fault = some e := by
  rw [assemble]
  cases h : (StepGraph.build (stepsFrom 0 drafts)).fault <;> simp [relink, unlinked, h]

/-- The steps of a recipe can be linked exactly if they are orderly. A recipe is put together exactly
if its steps can be linked, and fails with the same error. -/
theorem linkable_iff_orderly :
    (∀ r : Recipe, r.relink.2 = none ↔ StepGraph.Orderly r.steps) ∧
      (∀ metadata drafts, (∃ r, assemble metadata drafts = .ok r) ↔
        StepGraph.Orderly (stepsFrom 0 drafts)) ∧
      ∀ metadata drafts e, assemble metadata drafts = .error e ↔
        (StepGraph.build (stepsFrom 0 drafts)).fault = some e := by
  refine ⟨fun r => StepGraph.build_fault_eq_none_iff, fun metadata drafts => ?_,
    fun metadata drafts e => assemble_eq_error_iff⟩
  simp only [assemble_eq_ok_iff, exists_and_left, exists_eq', and_true]
  exact StepGraph.build_fault_eq_none_iff

end Recipe
end RecipeBook
