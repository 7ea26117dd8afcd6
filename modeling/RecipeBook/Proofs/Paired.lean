import Mathlib.Data.List.Forall2

/-!
# Lists that are related entry by entry

What `List.Forall₂` says about a single entry of one of the lists.
-/

namespace RecipeBook

variable {α β : Type*} {R : α → β → Prop} {as : List α} {bs : List β}

theorem forall_mem_of_forall₂ {p : α → Prop} (h : List.Forall₂ R as bs)
    (hp : ∀ a b, R a b → p a) : ∀ a ∈ as, p a := by
  induction h with
  | nil => simp
  | cons hab _ ih => exact List.forall_mem_cons.2 ⟨hp _ _ hab, ih⟩

theorem forall_mem_of_forall₂_right {p : β → Prop} (h : List.Forall₂ R as bs)
    (hp : ∀ a b, R a b → p b) : ∀ b ∈ bs, p b :=
  forall_mem_of_forall₂ h.flip fun b a hab => hp a b hab

theorem exists_mem_of_forall₂ {a : α} (h : List.Forall₂ R as bs) (ha : a ∈ as) : ∃ b ∈ bs, R a b := by
  induction h with
  | nil => cases ha
  | @cons a' b as bs hab _ ih =>
    rcases List.mem_cons.1 ha with rfl | ha
    · exact ⟨b, List.mem_cons_self, hab⟩
    · obtain ⟨b', hb', hab'⟩ := ih ha
      exact ⟨b', List.mem_cons_of_mem b hb', hab'⟩

/-- The entries at one place are related. -/
theorem exists_getElem?_of_forall₂ {b : β} {i : Nat} (h : List.Forall₂ R as bs)
    (hb : bs[i]? = some b) : ∃ a, as[i]? = some a ∧ R a b := by
  induction h generalizing i with
  | nil => cases hb
  | @cons a b' as bs hab _ ih =>
    cases i with
    | zero =>
      obtain rfl : b' = b := Option.some.inj hb
      exact ⟨a, rfl, hab⟩
    | succ i => exact ih hb

theorem forall₂_and {S : α → β → Prop} (h : List.Forall₂ R as bs) (h' : List.Forall₂ S as bs) :
    List.Forall₂ (fun a b => R a b ∧ S a b) as bs := by
  induction h with
  | nil => exact .nil
  | cons hab _ ih =>
    obtain ⟨hab', htail⟩ := List.forall₂_cons.1 h'
    exact .cons ⟨hab, hab'⟩ (ih htail)

theorem forall₂_of_map_eq {γ : Type*} {f : α → γ} {g : β → γ} (h : bs.map g = as.map f) :
    List.Forall₂ (fun a b => g b = f a) as bs := by
  induction as generalizing bs with
  | nil => rw [List.map_eq_nil_iff.1 h]; exact .nil
  | cons a as ih =>
    obtain ⟨b, bs, rfl, hb, hbs⟩ := List.map_eq_cons_iff.1 h
    exact .cons hb (ih hbs)

theorem map_eq_map_of_forall₂ {γ : Type*} {f : α → γ} {g : β → γ} (h : List.Forall₂ R as bs)
    (hfg : ∀ a b, R a b → g b = f a) : bs.map g = as.map f := by
  induction h with
  | nil => rfl
  | cons hab _ ih => rw [List.map_cons, List.map_cons, hfg _ _ hab, ih]

variable {p : α → Bool} {q : β → Bool}

/-- Related lists are cut at one place, if related entries are both of a kind or both not. -/
theorem forall₂_takeWhile (h : List.Forall₂ R as bs) (hpq : ∀ a b, R a b → q b = p a) :
    List.Forall₂ R (as.takeWhile p) (bs.takeWhile q) := by
  induction h with
  | nil => exact .nil
  | @cons a b as bs hab _ ih =>
    rw [List.takeWhile_cons, List.takeWhile_cons, hpq a b hab]
    cases p a with
    | true => exact .cons hab ih
    | false => exact .nil

theorem forall₂_dropWhile (h : List.Forall₂ R as bs) (hpq : ∀ a b, R a b → q b = p a) :
    List.Forall₂ R (as.dropWhile p) (bs.dropWhile q) := by
  induction h with
  | nil => exact .nil
  | @cons a b as bs hab htail ih =>
    rw [List.dropWhile_cons, List.dropWhile_cons, hpq a b hab]
    cases p a with
    | true => exact ih
    | false => exact .cons hab htail

end RecipeBook
