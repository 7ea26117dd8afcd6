import Mathlib.Data.List.Basic

/-!
# Stable sorting

`List.mergeSort` keeps the order of elements of one rank (`pairwise_mergeSort_stable`), so that sorting
and filtering can change places (`filter_mergeSort`). Both are by induction on the list:
`exists_mergeSort_cons` says where one more element at the front goes. Where no two elements are of one
rank, the order in which they come makes no difference (`mergeSort_eq_of_perm`), and a list in strict
order is determined by its elements (`eq_of_pairwise_of_mem_iff`).
-/

namespace RecipeBook

variable {α : Type*} {le : α → α → Bool}

/-- One more element at the front goes behind the smaller ones and before all others. -/
theorem exists_mergeSort_cons (htrans : ∀ a b c, le a b → le b c → le a c)
    (htotal : ∀ a b, le a b || le b a) (x : α) (xs : List α) :
    ∃ ys zs, (x :: xs).mergeSort le = ys ++ x :: zs ∧ xs.mergeSort le = ys ++ zs ∧
      (∀ y ∈ ys, le x y = false) ∧ ∀ z ∈ zs, le x z := by
  obtain ⟨ys, zs, hcons, htail, hys⟩ := List.mergeSort_cons htrans htotal x xs
  have hsorted := List.pairwise_mergeSort htrans htotal (x :: xs)
  rw [hcons, List.pairwise_append, List.pairwise_cons] at hsorted
  exact ⟨ys, zs, hcons, htail, fun y hy => by simpa using hys y hy, hsorted.2.1.1⟩

/-- Sorted elements are in order, and those of one rank are in the order in which they were. -/
theorem pairwise_mergeSort_stable (htrans : ∀ a b c, le a b → le b c → le a c)
    (htotal : ∀ a b, le a b || le b a) (xs : List α) :
    (xs.mergeSort le).Pairwise fun a b => le a b ∧ (le b a → [a, b].Sublist xs) := by
  induction xs with
  | nil => rw [List.mergeSort_nil]; exact .nil
  | cons x xs ih =>
    obtain ⟨ys, zs, hcons, htail, hys, hzs⟩ := exists_mergeSort_cons htrans htotal x xs
    have hold : ∀ {a b}, le a b ∧ (le b a → [a, b].Sublist xs) →
        le a b ∧ (le b a → [a, b].Sublist (x :: xs)) :=
      fun h => ⟨h.1, fun hle => (h.2 hle).cons x⟩
    rw [htail, List.pairwise_append] at ih
    rw [hcons, List.pairwise_append, List.pairwise_cons]
    refine ⟨ih.1.imp hold, ⟨fun z hz => ⟨hzs z hz, fun _ => ?_⟩, ih.2.1.imp hold⟩, fun y hy b hb => ?_⟩
    · have hmem : z ∈ xs.mergeSort le := htail ▸ List.mem_append_right ys hz
      exact (List.singleton_sublist.2 (List.mem_mergeSort.1 hmem)).cons_cons x
    · rcases List.mem_cons.1 hb with rfl | hb
      · have hle : le y b := by simpa [hys y hy] using htotal y b
        exact ⟨hle, fun hle' => absurd hle' (by simp [hys y hy])⟩
      · exact hold (ih.2.2 y hy b hb)

theorem eq_of_append_eq_append {p : α → Bool} {xs ys xs' ys' : List α} (h : xs ++ ys = xs' ++ ys')
    (hxs : ∀ x ∈ xs, p x = false) (hys : ∀ y ∈ ys, p y) (hxs' : ∀ x ∈ xs', p x = false)
    (hys' : ∀ y ∈ ys', p y) : xs = xs' ∧ ys = ys' := by
  have hright : ys = ys' := by
    have hfilter := congrArg (List.filter p) h
    simp only [List.filter_append, List.filter_eq_self.2 hys, List.filter_eq_self.2 hys'] at hfilter
    rwa [List.filter_eq_nil_iff.2 (by simpa using hxs), List.filter_eq_nil_iff.2 (by simpa using hxs')]
      at hfilter
  exact ⟨List.append_cancel_right (hright ▸ h), hright⟩

/-- Sorting and filtering can change places. -/
theorem filter_mergeSort (htrans : ∀ a b c, le a b → le b c → le a c)
    (htotal : ∀ a b, le a b || le b a) (p : α → Bool) (xs : List α) :
    (xs.mergeSort le).filter p = (xs.filter p).mergeSort le := by
  induction xs with
  | nil => rw [List.mergeSort_nil, List.filter_nil, List.mergeSort_nil]
  | cons x xs ih =>
    obtain ⟨ys, zs, hcons, htail, hys, hzs⟩ := exists_mergeSort_cons htrans htotal x xs
    rw [htail, List.filter_append] at ih
    rw [hcons, List.filter_append]
    by_cases hx : p x
    · obtain ⟨ys', zs', hcons', htail', hys', hzs'⟩ :=
        exists_mergeSort_cons htrans htotal x (xs.filter p)
      obtain ⟨hy, hz⟩ := eq_of_append_eq_append (ih.trans htail')
        (fun y hy => hys y (List.mem_of_mem_filter hy))
        (fun z hz => hzs z (List.mem_of_mem_filter hz)) hys' hzs'
      rw [List.filter_cons_of_pos hx, List.filter_cons_of_pos hx, hcons', hy, hz]
    · rw [List.filter_cons_of_neg hx, List.filter_cons_of_neg hx, ih]

theorem mergeSort_eq_of_perm (htrans : ∀ a b c, le a b → le b c → le a c)
    (htotal : ∀ a b, le a b || le b a) (hantisymm : ∀ a b, le a b → le b a → a = b) {xs ys : List α}
    (h : xs.Perm ys) : xs.mergeSort le = ys.mergeSort le := by
  have hperm : (xs.mergeSort le).Perm (ys.mergeSort le) :=
    (List.mergeSort_perm xs le).trans (h.trans (List.mergeSort_perm ys le).symm)
  exact hperm.eq_of_pairwise (fun a b _ _ => hantisymm a b)
    (List.pairwise_mergeSort htrans htotal xs) (List.pairwise_mergeSort htrans htotal ys)

theorem eq_of_pairwise_of_mem_iff {lt : α → α → Prop} (hasymm : ∀ a b, lt a b → ¬ lt b a) {xs ys : List α}
    (hxs : xs.Pairwise lt) (hys : ys.Pairwise lt) (hmem : ∀ a, a ∈ xs ↔ a ∈ ys) : xs = ys := by
  have hne : ∀ {a b}, lt a b → a ≠ b := fun hab heq => hasymm _ _ hab (heq ▸ heq ▸ hab)
  have hperm : xs.Perm ys := (List.perm_ext_iff_of_nodup (hxs.imp hne) (hys.imp hne)).2 hmem
  exact hperm.eq_of_pairwise (fun a b _ _ hab hba => absurd hba (hasymm a b hab)) hxs hys

end RecipeBook
