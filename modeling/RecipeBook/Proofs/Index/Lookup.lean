import Mathlib.Data.List.Forall2
import RecipeBook.Index

/-!
# Indexes with the same contents

What is found in two sorted indexes tells how they are related: if the values under every key are, then
so are the entries, place by place (`Sorted.forall₂`), and if the values are the same, then so are
the indexes (`Sorted.ext`). Where the entries stand in another order, the same is found
(`find?_eq_of_perm`), as long as no key comes twice.
-/

namespace RecipeBook.Index

variable {α β : Type} {m : Index α} {m' : Index β} {R : α → β → Prop} {k : String} {a : α}

theorem isSome_eq_of_rel {o : Option α} {o' : Option β} (h : Option.Rel R o o') :
    o.isSome = o'.isSome := by
  cases h <;> rfl

theorem mem_iff_of_nodup (h : m.keys.Nodup) : (k, a) ∈ m ↔ m.find? k = some a := by
  induction m with
  | nil => simp
  | cons p m ih =>
    obtain ⟨key, b⟩ := p
    obtain ⟨hkey, hm⟩ := List.nodup_cons.1 h
    by_cases hk : k = key
    · subst hk
      have hnot : (k, a) ∉ m := fun hmem => hkey (List.mem_map.2 ⟨(k, a), hmem, rfl⟩)
      simp [find?_cons_self, hnot, eq_comm]
    · rw [find?_cons_of_ne hk, ← ih hm, List.mem_cons]
      simp [hk]

/-- What is found does not depend on the order of the entries. -/
theorem find?_eq_of_perm {m' : Index α} (h : m'.Perm m) (hm : m.keys.Nodup) (k : String) :
    m'.find? k = m.find? k := by
  have hm' : m'.keys.Nodup := (h.map Prod.fst).nodup_iff.2 hm
  refine Option.ext fun a => ?_
  rw [← mem_iff_of_nodup hm', ← mem_iff_of_nodup hm, h.mem_iff]

theorem find?_rel_of_forall₂ (h : List.Forall₂ (fun p q => p.1 = q.1 ∧ R p.2 q.2) m m')
    (k : String) : Option.Rel R (m.find? k) (m'.find? k) := by
  induction h with
  | nil => exact .none
  | @cons p q m m' hpq _ ih =>
    obtain ⟨key, a⟩ := p
    obtain ⟨key', b⟩ := q
    obtain ⟨rfl, hab⟩ := hpq
    by_cases hk : k = key
    · subst hk
      rw [find?_cons_self, find?_cons_self]
      exact .some hab
    · rw [find?_cons_of_ne hk, find?_cons_of_ne hk]
      exact ih

/-- The least keys of two sorted indexes with the same keys are the same. -/
theorem le_of_find?_isSome (h : Sorted ((k, a) :: m)) {key : String}
    (hfind : (find? ((k, a) :: m) key).isSome) : k ≤ key := by
  rcases List.mem_cons.1 (h.mem_keys_iff.2 hfind) with rfl | hkey
  · exact String.le_refl _
  · exact fun hlt => String.lt_asymm hlt ((sorted_cons.1 h).1 key hkey)

theorem Sorted.forall₂ (h : m.Sorted) (h' : m'.Sorted)
    (hfind : ∀ k, Option.Rel R (m.find? k) (m'.find? k)) :
    List.Forall₂ (fun p q => p.1 = q.1 ∧ R p.2 q.2) m m' := by
  induction m generalizing m' with
  | nil =>
    cases m' with
    | nil => exact .nil
    | cons q m' =>
      have hq := hfind q.1
      rw [find?_cons_self] at hq
      cases hq
  | cons p m ih =>
    obtain ⟨k, a⟩ := p
    cases m' with
    | nil =>
      have hp := hfind k
      rw [find?_cons_self] at hp
      cases hp
    | cons q m' =>
      obtain ⟨k', b⟩ := q
      obtain rfl : k = k' := by
        refine String.le_antisymm (le_of_find?_isSome h ?_) (le_of_find?_isSome h' ?_)
        · rw [isSome_eq_of_rel (hfind k'), find?_cons_self]; rfl
        · rw [← isSome_eq_of_rel (hfind k), find?_cons_self]; rfl
      have hab := hfind k
      rw [find?_cons_self, find?_cons_self, Option.rel_some_some] at hab
      refine .cons ⟨rfl, hab⟩ (ih (sorted_cons.1 h).2 (sorted_cons.1 h').2 fun key => ?_)
      by_cases hkey : key = k
      -- the key at the front comes nowhere behind it
      · subst hkey
        rw [find?_eq_none_of_lt (sorted_cons.1 h).1, find?_eq_none_of_lt (sorted_cons.1 h').1]
        exact .none
      · have hrel := hfind key
        rwa [find?_cons_of_ne hkey, find?_cons_of_ne hkey] at hrel

/-- A sorted index is determined by what is found in it. -/
theorem Sorted.ext {m' : Index α} (h : m.Sorted) (h' : m'.Sorted)
    (hfind : ∀ k, m.find? k = m'.find? k) : m = m' := by
  have hrel : ∀ k, Option.Rel Eq (m.find? k) (m'.find? k) := fun k => by
    rw [hfind k]
    cases m'.find? k with
    | none => exact .none
    | some a => exact .some rfl
  refine List.forall₂_eq_eq_eq ▸ (h.forall₂ h' hrel).imp fun p q hpq => ?_
  exact Prod.ext hpq.1 hpq.2

end RecipeBook.Index
