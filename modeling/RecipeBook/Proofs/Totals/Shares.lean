import RecipeBook.Proofs.Totals.Merge

/-!
# Totals of portioned ingredients

When every occurrence has the share that its amount gives for the serving count of the recipe, the
share of an entry is the sum of the shares of its amounts (`shares_eq_sum?`): it makes no difference
whether the first amount makes a new entry or goes to one that is there. So the entries with an
amount are the totals of the occurrences with an amount alone (`filter_ofList`).
-/

namespace RecipeBook.Totals

/-- The share of each occurrence is its amount over the serving count, and there is none without an
amount. -/
def Portioned (serves : Nat) (l : List Ingredient) : Prop :=
  ∀ i ∈ l, i.perServing = i.amount.map (· / Float.ofNat serves)

variable {serves : Nat} {l occ : List Ingredient} {new : Ingredient} {k : Key}

theorem Portioned.filter (h : Portioned serves l) (p : Ingredient → Bool) :
    Portioned serves (l.filter p) := fun i hi => h i (List.mem_filter.1 hi).1

theorem Portioned.tail {i : Ingredient} (h : Portioned serves (i :: l)) : Portioned serves l :=
  fun j hj => h j (List.mem_cons_of_mem i hj)

/-! ### The share of an entry -/

theorem map_perServing (h : Portioned serves occ) :
    (occ.filter Ingredient.isQuantified).map Ingredient.perServing =
      (occ.filterMap Ingredient.amount).map fun a => some (a / Float.ofNat serves) := by
  induction occ with
  | nil => rfl
  | cons i occ ih =>
    have hi := h i List.mem_cons_self
    cases ha : i.amount with
    | none =>
      rw [List.filter_cons_of_neg (by simp [Ingredient.isQuantified, ha]),
        List.filterMap_cons_none ha, ih h.tail]
    | some a =>
      rw [ha, Option.map_some] at hi
      rw [List.filter_cons_of_pos (Ingredient.isQuantified_of_some ha),
        List.filterMap_cons_some ha, List.map_cons, List.map_cons, ih h.tail, hi]

/-- The first share is the one of the first amount, wherever that is. -/
theorem firstShare_eq (h : Portioned serves occ) :
    firstShare serves occ = (occ.filterMap Ingredient.amount).head?.map (· / Float.ofNat serves) := by
  cases occ with
  | nil => rfl
  | cons first later =>
    rw [firstShare]
    cases ha : first.amount with
    | some a => rw [List.filterMap_cons_some ha]; rfl
    | none =>
      rw [List.filterMap_cons_none ha]
      have hmap := congrArg List.head? (map_perServing h.tail)
      rw [List.head?_map, List.head?_map, List.head?_filter] at hmap
      show (later.find? Ingredient.isQuantified).bind Ingredient.perServing = _
      cases hfind : later.find? Ingredient.isQuantified with
      | none =>
        rw [hfind] at hmap
        rw [Option.map_eq_none_iff.1 hmap.symm]
        rfl
      | some i =>
        rw [hfind, Option.map_some] at hmap
        obtain ⟨a, ha, hshare⟩ := Option.map_eq_some_iff.1 hmap.symm
        rw [ha]
        exact hshare.symm

theorem foldl_merge_some (s : Float) (as : List Float) :
    (as.map fun a => some (a / Float.ofNat serves)).foldl (Option.merge (· + ·)) (some s) =
      some ((as.map (· / Float.ofNat serves)).foldl (· + ·) s) := by
  induction as generalizing s with
  | nil => rfl
  | cons a as ih => exact ih (s + a / Float.ofNat serves)

theorem shares_eq_sum? (h : Portioned serves occ) :
    shares serves occ = sum? ((occ.filterMap Ingredient.amount).map (· / Float.ofNat serves)) := by
  rw [shares, List.map_tail, map_perServing h, firstShare_eq h]
  cases occ.filterMap Ingredient.amount with
  | nil => rfl
  | cons a as => exact foldl_merge_some (a / Float.ofNat serves) as

/-! ### Entries with an amount -/

theorem quantifiedKeys_filter (l : List Ingredient) :
    quantifiedKeys (l.filter Ingredient.isQuantified) = quantifiedKeys l := by
  rw [quantifiedKeys, List.filter_filter, quantifiedKeys]
  simp only [Bool.and_self]

theorem bareKeys_filter (l : List Ingredient) :
    bareKeys (l.filter Ingredient.isQuantified) = [] := by
  refine List.eq_nil_iff_forall_not_mem.2 fun k hk => ?_
  obtain ⟨hmem, hnot⟩ := mem_bareKeys.1 hk
  obtain ⟨i, hi, rfl⟩ := List.mem_map.1 hmem
  exact hnot (mem_quantifiedKeys.2 ⟨i, hi, (List.mem_filter.1 hi).2, rfl⟩)

theorem amounts_filter (l : List Ingredient) (k : Key) :
    (occurrences (l.filter Ingredient.isQuantified) k).filterMap Ingredient.amount =
      (occurrences l k).filterMap Ingredient.amount := by
  have hamount : ∀ occ : List Ingredient,
      (occ.filter Ingredient.isQuantified).filterMap Ingredient.amount =
        occ.filterMap Ingredient.amount := by
    intro occ
    rw [List.filterMap_filter]
    refine List.filterMap_congr fun i _ => ?_
    cases ha : i.amount <;> simp [Ingredient.isQuantified, ha]
  rw [occurrences, List.filter_comm, hamount, occurrences]

theorem total_filter (h : Portioned serves l) (k : Key) :
    total serves (l.filter Ingredient.isQuantified) k = total serves l k := by
  have hall : Portioned serves (occurrences l k) := h.filter _
  have hsome : Portioned serves (occurrences (l.filter Ingredient.isQuantified) k) :=
    (h.filter _).filter _
  rw [total, total, shares_eq_sum? hsome, shares_eq_sum? hall, amounts_filter]

theorem filter_closedForm (serves : Nat) (l : List Ingredient) :
    (closedForm serves l).filter Ingredient.isQuantified =
      (quantifiedKeys l).map (total serves l) := by
  rw [closedForm, List.filter_append, List.filter_eq_self.2 isQuantified_of_mem_map_total,
    List.filter_eq_nil_iff.2, List.append_nil]
  intro e he
  rw [not_isQuantified_of_mem_map_bare e he]
  exact Bool.false_ne_true

/-- Occurrences without an amount change nothing about the entries that have one. -/
theorem filter_ofList (h : Portioned serves l) :
    (ofList serves l).filter Ingredient.isQuantified =
      ofList serves (l.filter Ingredient.isQuantified) := by
  rw [ofList, ofList, foldl_merge_eq_closedForm, foldl_merge_eq_closedForm, filter_closedForm,
    closedForm, quantifiedKeys_filter, bareKeys_filter, List.map_nil, List.append_nil]
  exact List.map_congr_left fun k _ => (total_filter h k).symm

theorem perServing_of_mem_ofList {e : Ingredient} (h : Portioned serves l)
    (he : e ∈ ofList serves l) (hq : e.isQuantified) : e.perServing =
      sum? (((occurrences l e.key).filterMap Ingredient.amount).map (· / Float.ofNat serves)) := by
  have hmem : e ∈ (closedForm serves l).filter Ingredient.isQuantified := by
    rw [← foldl_merge_eq_closedForm]
    exact List.mem_filter.2 ⟨he, hq⟩
  rw [filter_closedForm] at hmem
  obtain ⟨k, -, rfl⟩ := List.mem_map.1 hmem
  exact shares_eq_sum? (h.filter _)

/-- What gets its first amount gets the entry that the occurrence is, whether it had one before. -/
theorem find?_merge (hnew : new.perServing = new.amount.map (· / Float.ofNat serves)) (h : new.isQuantified)
    (hk : new.key ∉ quantifiedKeys l) :
    (merge serves (ofList serves l) new).find? (·.sameKey new) = some new := by
  obtain ⟨a, ha⟩ := Option.isSome_iff_exists.1 h
  have htotal : total serves (l ++ [new]) new.key = new := by
    by_cases hmem : new.key ∈ l.map Ingredient.key
    · rw [total_concat_of_mem_bareKeys ha (mem_bareKeys.2 ⟨hmem, hk⟩), ← ha]
      rfl
    · rw [total_concat_of_not_mem ha hmem, Ingredient.make_eq, ← hnew]
  have hbefore : ∀ e ∈ (quantifiedKeys l).map (total serves l), e.key ≠ new.key :=
    key_ne_of_mem_map (fun _ => rfl) hk
  rw [ofList, foldl_merge_eq_closedForm, merge_closedForm,
    closedForm_concat_of_not_mem_quantifiedKeys h hk, htotal, find?_sameKey hbefore rfl]

end RecipeBook.Totals
