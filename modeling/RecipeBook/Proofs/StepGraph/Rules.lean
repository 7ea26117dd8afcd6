import Mathlib.Data.List.Basic
import RecipeBook.StepGraph

/-!
# The rules of yields and references

`Orderly` states the four rules that the steps of a recipe keep, over the yields and references of
each step as names are compared. The first three (`Consistent`) hold of every beginning of the steps
if they hold of all of them. `Fits` is what one more step has to satisfy once those before it are
consistent (`Consistent.concat` and `Consistent.fits`). The last, that every yield is used, looks
ahead.
-/

namespace RecipeBook

namespace Step

/-- The names of the yields that the step consumes, the hidden ones last, trimmed and in lower case. -/
def referenceKeys (s : Step) : List String :=
  (s.internal ++ s.hidden).map fun name => lowered (trimmed name)

/-- The names of what the step yields, trimmed and in lower case. -/
def yieldKeys (s : Step) : List String := s.yields.map fun name => lowered (trimmed name)

end Step

namespace StepGraph

/-- What step `i` yields; nothing if there is no such step. -/
def yieldsOf (steps : List PlacedStep) (i : Nat) : List String :=
  (steps[i]?.map fun s => s.yieldKeys).getD []

/-- What step `j` refers to, in the order in which it does; nothing if there is no such step. -/
def referencesOf (steps : List PlacedStep) (j : Nat) : List String :=
  (steps[j]?.map fun s => s.referenceKeys).getD []

/-- Step `j` waits for no other: it is the first or independent. -/
def IsStart (steps : List PlacedStep) (j : Nat) : Prop :=
  ∃ step, steps[j]? = some step ∧ (j = 0 ∨ step.independent)

/-- The rules that a step and the steps before it keep or break, whatever comes later. -/
structure Consistent (steps : List PlacedStep) : Prop where
  /-- Neither the first step nor an independent one refers to a yield. -/
  starts : ∀ j, IsStart steps j → referencesOf steps j = []
  /-- A step refers to yields of earlier steps only. -/
  resolved : ∀ j, ∀ key ∈ referencesOf steps j, ∃ i < j, key ∈ yieldsOf steps i
  /-- A step yields nothing twice. -/
  distinct : ∀ i, (yieldsOf steps i).Nodup
  /-- No two steps yield the same. -/
  unique : ∀ i j, ∀ key ∈ yieldsOf steps i, key ∈ yieldsOf steps j → i = j

/-- All rules: the steps are consistent, and a later step refers to every yield. -/
structure Orderly (steps : List PlacedStep) : Prop extends Consistent steps where
  used : ∀ i, ∀ key ∈ yieldsOf steps i, ∃ j, i < j ∧ key ∈ referencesOf steps j

/-- What a step has to satisfy after the steps `ps`. -/
structure Fits (ps : List PlacedStep) (step : PlacedStep) : Prop where
  start : ps.length = 0 ∨ step.independent → step.references = []
  resolved : ∀ key ∈ step.referenceKeys, ∃ i, key ∈ yieldsOf ps i
  distinct : step.yieldKeys.Nodup
  fresh : ∀ key ∈ step.yieldKeys, ∀ i, key ∉ yieldsOf ps i

/-! ### Beginnings of the steps -/

variable {ps qs : List PlacedStep} {step : PlacedStep} {i j : Nat} {key : String}

theorem yieldsOf_of_le (h : ps.length ≤ i) : yieldsOf ps i = [] := by
  rw [yieldsOf, List.getElem?_eq_none h]; rfl

theorem referencesOf_of_le (h : ps.length ≤ j) : referencesOf ps j = [] := by
  rw [referencesOf, List.getElem?_eq_none h]; rfl

theorem lt_of_mem_yieldsOf (h : key ∈ yieldsOf ps i) : i < ps.length := by
  by_contra hi
  rw [yieldsOf_of_le (Nat.le_of_not_lt hi)] at h
  exact List.not_mem_nil h

theorem lt_of_mem_referencesOf (h : key ∈ referencesOf ps j) : j < ps.length := by
  by_contra hj
  rw [referencesOf_of_le (Nat.le_of_not_lt hj)] at h
  exact List.not_mem_nil h

theorem IsStart.lt (h : IsStart ps j) : j < ps.length := by
  obtain ⟨step, hs, -⟩ := h
  exact (List.getElem?_eq_some_iff.1 hs).1

theorem yieldsOf_append (qs : List PlacedStep) (h : i < ps.length) :
    yieldsOf (ps ++ qs) i = yieldsOf ps i := by
  rw [yieldsOf, yieldsOf, List.getElem?_append_left h]

theorem referencesOf_append (qs : List PlacedStep) (h : j < ps.length) :
    referencesOf (ps ++ qs) j = referencesOf ps j := by
  rw [referencesOf, referencesOf, List.getElem?_append_left h]

theorem isStart_append (qs : List PlacedStep) (h : j < ps.length) :
    IsStart (ps ++ qs) j ↔ IsStart ps j := by
  rw [IsStart, IsStart, List.getElem?_append_left h]

/-- The place of a step of `ps ++ [step]`. -/
theorem lt_or_eq_of_lt_concat (h : i < (ps ++ [step]).length) : i < ps.length ∨ i = ps.length := by
  rw [List.length_append, List.length_singleton] at h
  omega

@[simp] theorem yieldsOf_concat_length : yieldsOf (ps ++ [step]) ps.length = step.yieldKeys := by
  simp [yieldsOf]

@[simp] theorem referencesOf_concat_length :
    referencesOf (ps ++ [step]) ps.length = step.referenceKeys := by
  simp [referencesOf]

theorem isStart_concat_length :
    IsStart (ps ++ [step]) ps.length ↔ ps.length = 0 ∨ step.independent := by
  simp [IsStart]

theorem referenceKeys_eq_nil {s : Step} : s.referenceKeys = [] ↔ s.references = [] :=
  List.map_eq_nil_iff

theorem mem_yieldsOf_concat :
    key ∈ yieldsOf (ps ++ [step]) i ↔ key ∈ yieldsOf ps i ∨ i = ps.length ∧ key ∈ step.yieldKeys := by
  constructor
  · intro h
    rcases lt_or_eq_of_lt_concat (lt_of_mem_yieldsOf h) with hi | rfl
    · exact .inl (by rwa [yieldsOf_append _ hi] at h)
    · exact .inr ⟨rfl, by rwa [yieldsOf_concat_length] at h⟩
  · rintro (h | ⟨rfl, h⟩)
    · rwa [yieldsOf_append _ (lt_of_mem_yieldsOf h)]
    · rwa [yieldsOf_concat_length]

theorem mem_referencesOf_concat :
    key ∈ referencesOf (ps ++ [step]) j ↔
      key ∈ referencesOf ps j ∨ j = ps.length ∧ key ∈ step.referenceKeys := by
  constructor
  · intro h
    rcases lt_or_eq_of_lt_concat (lt_of_mem_referencesOf h) with hj | rfl
    · exact .inl (by rwa [referencesOf_append _ hj] at h)
    · exact .inr ⟨rfl, by rwa [referencesOf_concat_length] at h⟩
  · rintro (h | ⟨rfl, h⟩)
    · rwa [referencesOf_append _ (lt_of_mem_referencesOf h)]
    · rwa [referencesOf_concat_length]

theorem isStart_concat :
    IsStart (ps ++ [step]) j ↔
      IsStart ps j ∨ j = ps.length ∧ (ps.length = 0 ∨ step.independent) := by
  constructor
  · intro h
    rcases lt_or_eq_of_lt_concat h.lt with hj | rfl
    · exact .inl ((isStart_append _ hj).1 h)
    · exact .inr ⟨rfl, isStart_concat_length.1 h⟩
  · rintro (h | ⟨rfl, h⟩)
    · exact (isStart_append _ h.lt).2 h
    · exact isStart_concat_length.2 h

/-! ### One more step -/

theorem Consistent.nil : Consistent [] where
  starts _ h := absurd h.lt (Nat.not_lt_zero _)
  resolved _ _ h := absurd (lt_of_mem_referencesOf h) (Nat.not_lt_zero _)
  distinct _ := List.nodup_nil
  unique _ _ _ h := absurd (lt_of_mem_yieldsOf h) (Nat.not_lt_zero _)

theorem Consistent.of_append (h : Consistent (ps ++ qs)) : Consistent ps where
  starts j hj := by
    rw [← referencesOf_append qs hj.lt]
    exact h.starts j ((isStart_append _ hj.lt).2 hj)
  resolved j key hkey := by
    have hj := lt_of_mem_referencesOf hkey
    rw [← referencesOf_append qs hj] at hkey
    obtain ⟨i, hij, hi⟩ := h.resolved j key hkey
    exact ⟨i, hij, by rwa [yieldsOf_append _ (Nat.lt_trans hij hj)] at hi⟩
  distinct i := by
    by_cases hi : i < ps.length
    · rw [← yieldsOf_append qs hi]; exact h.distinct i
    · rw [yieldsOf_of_le (Nat.le_of_not_lt hi)]; exact List.nodup_nil
  unique i j key hi hj := by
    refine h.unique i j key ?_ ?_
    · rwa [yieldsOf_append _ (lt_of_mem_yieldsOf hi)]
    · rwa [yieldsOf_append _ (lt_of_mem_yieldsOf hj)]

/-- The last step of consistent steps fits behind those before it. -/
theorem Consistent.fits (h : Consistent (ps ++ [step])) : Fits ps step where
  start hstart := by
    have := h.starts _ (isStart_concat_length.2 hstart)
    rwa [referencesOf_concat_length, referenceKeys_eq_nil] at this
  resolved key hkey := by
    obtain ⟨i, hi, hy⟩ := h.resolved ps.length key (by rwa [referencesOf_concat_length])
    exact ⟨i, by rwa [yieldsOf_append _ hi] at hy⟩
  distinct := by
    have := h.distinct ps.length
    rwa [yieldsOf_concat_length] at this
  fresh key hkey i hi := by
    have hlt := lt_of_mem_yieldsOf hi
    have := h.unique i ps.length key (mem_yieldsOf_concat.2 (.inl hi))
      (mem_yieldsOf_concat.2 (.inr ⟨rfl, hkey⟩))
    omega

theorem Consistent.concat (h : Consistent ps) (hf : Fits ps step) : Consistent (ps ++ [step]) where
  starts j hj := by
    rcases isStart_concat.1 hj with hold | ⟨rfl, hnew⟩
    · rw [referencesOf_append _ hold.lt]; exact h.starts j hold
    · rw [referencesOf_concat_length]; exact referenceKeys_eq_nil.2 (hf.start hnew)
  resolved j key hkey := by
    rcases mem_referencesOf_concat.1 hkey with hold | ⟨rfl, hnew⟩
    · obtain ⟨i, hij, hi⟩ := h.resolved j key hold
      exact ⟨i, hij, mem_yieldsOf_concat.2 (.inl hi)⟩
    · obtain ⟨i, hi⟩ := hf.resolved key hnew
      exact ⟨i, lt_of_mem_yieldsOf hi, mem_yieldsOf_concat.2 (.inl hi)⟩
  distinct i := by
    rcases Nat.lt_trichotomy i ps.length with hi | rfl | hi
    · rw [yieldsOf_append _ hi]; exact h.distinct i
    · rw [yieldsOf_concat_length]; exact hf.distinct
    · rw [yieldsOf_of_le (by rw [List.length_append]; exact hi)]; exact List.nodup_nil
  unique i j key hi hj := by
    rcases mem_yieldsOf_concat.1 hi with hi' | ⟨rfl, hi'⟩ <;>
      rcases mem_yieldsOf_concat.1 hj with hj' | ⟨rfl, hj'⟩
    · exact h.unique i j key hi' hj'
    · exact absurd hi' (hf.fresh key hj' i)
    · exact absurd hj' (hf.fresh key hi' j)
    · rfl

end StepGraph
end RecipeBook
