import Mathlib.Data.List.Basic
import RecipeBook.Index

/-!
# Indexes of collected values

`collected key put empty xs` is the index that arises when every element of `xs` is put, one after
the other, into the value under its key, `empty` where there is none yet. What is found under a key
then depends on the elements with that key alone (`find?_collected`).
-/

namespace RecipeBook.Index

variable {α β : Type} {m : Index α} {xs : List β}

/-- The elements put into the values under their keys, in order. -/
def collected (key : β → String) (put : β → α → α) (empty : α) (xs : List β) : Index α :=
  xs.foldl (fun m x => m.update (key x) fun a => put x (a.getD empty)) []

theorem Sorted.foldl_update (h : m.Sorted) (key : β → String) (f : β → Option α → α)
    (xs : List β) : (xs.foldl (fun m x => m.update (key x) (f x)) m).Sorted := by
  induction xs generalizing m with
  | nil => exact h
  | cons x xs ih => exact ih h.update

/-- What is found under a key is what the elements with that key make of it. -/
theorem Sorted.find?_foldl_update (h : m.Sorted) (key : β → String) (f : β → Option α → α)
    (xs : List β) (k : String) :
    (xs.foldl (fun m x => m.update (key x) (f x)) m).find? k =
      (xs.filter (key · = k)).foldl (fun a x => some (f x a)) (m.find? k) := by
  induction xs generalizing m with
  | nil => rfl
  | cons x xs ih =>
    rw [List.foldl_cons, ih h.update, h.find?_update]
    by_cases hk : key x = k
    · rw [if_pos hk.symm, List.filter_cons_of_pos (by simpa using hk), List.foldl_cons, hk]
    · rw [if_neg (Ne.symm hk), List.filter_cons_of_neg (by simpa using hk)]

variable (key : β → String) (put : β → α → α) (empty : α)

theorem sorted_collected (xs : List β) : (collected key put empty xs).Sorted :=
  sorted_nil.foldl_update _ _ xs

theorem foldl_some (a : Option α) (hxs : xs ≠ []) :
    xs.foldl (fun a x => some (put x (a.getD empty))) a =
      some (xs.foldl (fun a x => put x a) (a.getD empty)) := by
  induction xs generalizing a with
  | nil => exact absurd rfl hxs
  | cons x xs ih =>
    rw [List.foldl_cons, List.foldl_cons]
    by_cases hxs : xs = []
    · rw [hxs, List.foldl_nil, List.foldl_nil]
    · exact ih _ hxs

theorem filter_key_eq_nil {k : String} : xs.filter (key · = k) = [] ↔ ¬ ∃ x ∈ xs, key x = k := by
  simp [List.filter_eq_nil_iff]

theorem find?_collected (xs : List β) (k : String) :
    (collected key put empty xs).find? k =
      if xs.filter (key · = k) = [] then none
      else some ((xs.filter (key · = k)).foldl (fun a x => put x a) empty) := by
  rw [collected, sorted_nil.find?_foldl_update]
  split
  · next h => rw [h, List.foldl_nil, find?_nil]
  · next h => exact foldl_some put empty _ h

theorem getD_find?_collected (xs : List β) (k : String) :
    ((collected key put empty xs).find? k).getD empty =
      (xs.filter (key · = k)).foldl (fun a x => put x a) empty := by
  rw [find?_collected]
  split
  · next h => rw [h, List.foldl_nil, Option.getD_none]
  · rw [Option.getD_some]

theorem mem_keys_collected {k : String} :
    k ∈ (collected key put empty xs).keys ↔ ∃ x ∈ xs, key x = k := by
  rw [(sorted_collected key put empty xs).mem_keys_iff, find?_collected]
  split
  · next h =>
    have hnot := (filter_key_eq_nil key).1 h
    exact iff_of_false Bool.false_ne_true hnot
  · next h =>
    have hx := not_not.1 (mt (filter_key_eq_nil key).2 h)
    exact iff_of_true rfl hx

/-- Elements that are put behind the others are collected as they are. -/
theorem foldl_append_singleton (g : β → α) (xs : List β) (as : List α) :
    xs.foldl (fun as x => as ++ [g x]) as = as ++ xs.map g := by
  induction xs generalizing as with
  | nil => simp
  | cons x xs ih => rw [List.foldl_cons, ih, List.append_assoc, List.singleton_append, List.map_cons]

end RecipeBook.Index
