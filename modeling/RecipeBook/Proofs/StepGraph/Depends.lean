import RecipeBook.Proofs.StepGraph.Rules

/-!
# What a step depends on

`Depends steps i j` states that step `j` depends on step `i`, without a scan: either `j` comes right
after `i`, refers to nothing and is no start, or it refers to a yield of `i`. Steps that come later
change nothing about it (`depends_concat_of_lt`), as long as all steps are consistent.
-/

namespace RecipeBook.StepGraph

/-- Step `j` depends on step `i`. -/
def Depends (steps : List PlacedStep) (i j : Nat) : Prop :=
  (i + 1 = j ∧ j < steps.length ∧ ¬ IsStart steps j ∧ referencesOf steps j = []) ∨
    ∃ key ∈ referencesOf steps j, key ∈ yieldsOf steps i

/-- The place of the first reference of step `j` to a yield of step `i`. -/
def firstUse (steps : List PlacedStep) (i j : Nat) : Nat :=
  (referencesOf steps j).findIdx (· ∈ yieldsOf steps i)

/-- The order of edges: by the step they lead to, then by the first use. -/
def Before (steps : List PlacedStep) (e e' : Nat × Nat) : Prop :=
  e.2 < e'.2 ∨ e.2 = e'.2 ∧ firstUse steps e.1 e.2 < firstUse steps e'.1 e'.2

variable {ps : List PlacedStep} {step : PlacedStep} {i j : Nat}

theorem Depends.lt_length (h : Depends ps i j) : j < ps.length := by
  rcases h with ⟨-, hj, -⟩ | ⟨key, hj, -⟩
  · exact hj
  · exact lt_of_mem_referencesOf hj

/-- Dependencies point forward. -/
theorem Depends.lt (hc : Consistent ps) (h : Depends ps i j) : i < j := by
  rcases h with ⟨rfl, -⟩ | ⟨key, hj, hi⟩
  · exact Nat.lt_succ_self i
  · obtain ⟨i', hlt, hi'⟩ := hc.resolved j key hj
    rwa [hc.unique i i' key hi hi']

/-- A start depends on no step, and every other step on some step. -/
theorem isStart_iff_forall_not_depends (hc : Consistent ps) (hj : j < ps.length) :
    IsStart ps j ↔ ∀ i, ¬ Depends ps i j := by
  constructor
  · rintro h i (⟨-, -, hn, -⟩ | ⟨key, hkey, -⟩)
    · exact hn h
    · rw [hc.starts j h] at hkey; exact List.not_mem_nil hkey
  · intro h
    by_contra hn
    cases hr : referencesOf ps j with
    | nil =>
      have h0 : j ≠ 0 := by
        rintro rfl
        exact hn ⟨ps[0], List.getElem?_eq_getElem hj, .inl rfl⟩
      exact h (j - 1) (.inl ⟨by omega, hj, hn, hr⟩)
    | cons key keys =>
      have hkey : key ∈ referencesOf ps j := by rw [hr]; exact List.mem_cons_self
      obtain ⟨i, -, hi⟩ := hc.resolved j key hkey
      exact h i (.inr ⟨key, hkey, hi⟩)

theorem depends_concat_of_lt (hc : Consistent (ps ++ [step])) (hj : j < ps.length) :
    Depends (ps ++ [step]) i j ↔ Depends ps i j := by
  have hlen : j < (ps ++ [step]).length := by rw [List.length_append]; omega
  constructor
  · intro h
    have hi : i < ps.length := Nat.lt_trans (h.lt hc) hj
    rwa [Depends, isStart_append _ hj, referencesOf_append _ hj, yieldsOf_append _ hi,
      iff_true_intro hlen, ← iff_true_intro hj] at h
  · intro h
    have hi : i < ps.length := Nat.lt_trans (h.lt hc.of_append) hj
    rwa [Depends, isStart_append _ hj, referencesOf_append _ hj, yieldsOf_append _ hi,
      iff_true_intro hlen, ← iff_true_intro hj]

theorem firstUse_append (hi : i < ps.length) (hj : j < ps.length) :
    firstUse (ps ++ [step]) i j = firstUse ps i j := by
  rw [firstUse, referencesOf_append _ hj, yieldsOf_append _ hi, firstUse]

theorem before_concat {e e' : Nat × Nat} (he : Depends ps e.1 e.2) (he' : Depends ps e'.1 e'.2)
    (hc : Consistent ps) : Before (ps ++ [step]) e e' ↔ Before ps e e' := by
  rw [Before, firstUse_append (Nat.lt_trans (he.lt hc) he.lt_length) he.lt_length,
    firstUse_append (Nat.lt_trans (he'.lt hc) he'.lt_length) he'.lt_length, Before]

end RecipeBook.StepGraph
