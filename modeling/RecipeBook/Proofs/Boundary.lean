import Mathlib.Data.List.TakeWhile

/-!
# Lists cut where a property ends

What `takeWhile` and `dropWhile` make of `xs ++ ys` when `ys` begins with an element that does not
have the property, or is empty, or when `xs` has such an element: the cut is the one of `xs`.
-/

namespace RecipeBook

variable {α : Type*} {p : α → Bool} {xs ys : List α}

theorem takeWhile_eq_nil_of_head? (hys : ∀ y ∈ ys.head?, p y = false) : ys.takeWhile p = [] := by
  cases ys with
  | nil => rfl
  | cons y ys => rw [List.takeWhile_cons, hys y rfl, if_neg Bool.false_ne_true]

theorem takeWhile_append_of_head? (hys : ∀ y ∈ ys.head?, p y = false) (xs : List α) :
    (xs ++ ys).takeWhile p = xs.takeWhile p := by
  induction xs with
  | nil => exact takeWhile_eq_nil_of_head? hys
  | cons x xs ih => rw [List.cons_append, List.takeWhile_cons, List.takeWhile_cons, ih]

theorem dropWhile_append_of_head? (hys : ∀ y ∈ ys.head?, p y = false) (xs : List α) :
    (xs ++ ys).dropWhile p = xs.dropWhile p ++ ys := by
  induction xs with
  | nil =>
    cases ys with
    | nil => rfl
    | cons y ys => rw [List.nil_append, List.dropWhile_cons, hys y rfl]; rfl
  | cons x xs ih =>
    rw [List.cons_append, List.dropWhile_cons, List.dropWhile_cons, ih]
    split <;> rfl

theorem head?_dropWhile_eq_false (p : α → Bool) (xs : List α) :
    ∀ x ∈ (xs.dropWhile p).head?, p x = false := by
  intro x hx
  have := List.head?_dropWhile_not p xs
  rw [Option.mem_def.1 hx] at this
  simpa using this

/-- A list is cut in front of an element that does not have the property. -/
theorem takeWhile_eq_of_append (hxs : ∀ x ∈ xs, p x) (hys : ∀ y ∈ ys.head?, p y = false) :
    (xs ++ ys).takeWhile p = xs ∧ (xs ++ ys).dropWhile p = ys := by
  rw [takeWhile_append_of_head? hys, dropWhile_append_of_head? hys,
    List.takeWhile_eq_self_iff.2 hxs, List.dropWhile_eq_nil_iff.2 hxs]
  exact ⟨rfl, rfl⟩

end RecipeBook
