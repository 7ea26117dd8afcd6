import RecipeBook.Proofs.Totals.ClosedForm

/-!
# Merging gives the closed form

`merge_closedForm`: merging one more occurrence takes the closed form of the totals to the closed
form. The cases are those of the occurrence: its name and unit are new, known without an amount or
known with one, and it has an amount or not.
-/

namespace RecipeBook.Totals

variable {serves : Nat} {l : List Ingredient} {new : Ingredient}

/-! ### What merging does to a list -/

section
variable {t : Totals} {entry : Ingredient} {old a : Float}

theorem merge_of_find?_eq_none (hfind : t.find? (·.sameKey new) = none) :
    merge serves t new =
      if new.isQuantified then
        insertQuantified t (Ingredient.make serves new.name new.amount new.unit)
      else t ++ [Ingredient.make serves new.name new.amount new.unit] := by
  have hmake : (Ingredient.make serves new.name new.amount new.unit).isQuantified =
      new.isQuantified := rfl
  simp only [merge, hfind, hmake]

theorem merge_of_amount_eq_none (hfind : t.find? (·.sameKey new) = some entry)
    (h : new.amount = none) : merge serves t new = t := by
  cases ha : entry.amount <;> simp only [merge, hfind, h, ha]

theorem merge_of_adopt (hfind : t.find? (·.sameKey new) = some entry) (he : entry.amount = none)
    (h : new.amount = some a) : merge serves t new =
      insertQuantified (t.eraseP (·.sameKey new))
        { entry with amount := some a, perServing := new.perServing } := by
  simp only [merge, hfind, he, h]

theorem merge_of_plus (hfind : t.find? (·.sameKey new) = some entry) (he : entry.amount = some old)
    (h : new.amount = some a) :
    merge serves t new = replaceFirst t new (entry.plus new old a) := by
  simp only [merge, hfind, he, h]

end

section
variable {as bs : Totals} {e entry : Ingredient}

theorem find?_sameKey (has : ∀ x ∈ as, x.key ≠ new.key) (he : e.key = new.key) :
    (as ++ e :: bs).find? (·.sameKey new) = some e := by
  refine List.find?_eq_some_iff_append.2 ⟨Ingredient.sameKey_iff.2 he, as, bs, rfl, fun x hx => ?_⟩
  simpa using mt Ingredient.sameKey_iff.1 (has x hx)

theorem replaceFirst_append (has : ∀ x ∈ as, x.key ≠ new.key) (he : e.key = new.key) :
    replaceFirst (as ++ e :: bs) new entry = as ++ entry :: bs := by
  induction as with
  | nil => simp only [List.nil_append, replaceFirst, Ingredient.sameKey_iff.2 he, if_true]
  | cons x as ih =>
    have hx : ¬ x.sameKey new := mt Ingredient.sameKey_iff.1 (has x List.mem_cons_self)
    simp only [List.cons_append, replaceFirst, hx, ih fun y hy => has y (List.mem_cons_of_mem _ hy)]
    rfl

theorem eraseP_sameKey (has : ∀ x ∈ as, x.key ≠ new.key) (he : e.key = new.key) :
    (as ++ e :: bs).eraseP (·.sameKey new) = as ++ bs := by
  rw [List.eraseP_append_right _ fun x hx => mt Ingredient.sameKey_iff.1 (has x hx)]
  simp only [List.eraseP_cons, Ingredient.sameKey_iff.2 he, cond_true]

theorem insertQuantified_append (has : ∀ x ∈ as, x.isQuantified)
    (hbs : ∀ x ∈ bs, x.isQuantified = false) : insertQuantified (as ++ bs) e = as ++ e :: bs := by
  rw [insertQuantified, List.takeWhile_append_of_pos has, List.dropWhile_append_of_pos has]
  cases bs with
  | nil => simp
  | cons b bs => simp [hbs b List.mem_cons_self]

end

/-! ### Merging one more occurrence -/

theorem merge_bare_of_mem (h : new.amount = none) (hk : new.key ∈ l.map Ingredient.key) :
    merge serves (closedForm serves l) new = closedForm serves (l ++ [new]) := by
  have hb := Ingredient.not_isQuantified_iff.2 h
  have htotal : (quantifiedKeys l).map (total serves (l ++ [new])) =
      (quantifiedKeys l).map (total serves l) :=
    List.map_congr_left fun k hq => total_concat_of_bare hb (mem_keys_of_mem_quantifiedKeys hq)
  obtain ⟨entry, hfind⟩ := Option.isSome_iff_exists.1 (find?_closedForm_isSome_iff.2 hk)
  rw [merge_of_amount_eq_none hfind h, closedForm, closedForm, quantifiedKeys_concat_of_bare hb,
    bareKeys_concat_of_mem hb hk, htotal]

theorem merge_bare_of_not_mem (h : new.amount = none) (hk : new.key ∉ l.map Ingredient.key) :
    merge serves (closedForm serves l) new = closedForm serves (l ++ [new]) := by
  have hb := Ingredient.not_isQuantified_iff.2 h
  have hmake : Ingredient.make serves new.name new.amount new.unit = bare new.key := by rw [h]; rfl
  rw [merge_of_find?_eq_none (find?_closedForm_eq_none hk), if_neg (by simp [hb]), hmake, closedForm,
    closedForm, quantifiedKeys_concat_of_bare hb, bareKeys_concat_of_not_mem hb hk,
    map_total_concat (mt mem_keys_of_mem_quantifiedKeys hk), List.map_append, List.map_singleton,
    List.append_assoc]

theorem merge_quantified_of_not_mem {a : Float} (h : new.amount = some a)
    (hk : new.key ∉ l.map Ingredient.key) :
    merge serves (closedForm serves l) new = closedForm serves (l ++ [new]) := by
  have hq := Ingredient.isQuantified_of_some h
  have hkq : new.key ∉ quantifiedKeys l := mt mem_keys_of_mem_quantifiedKeys hk
  have hbare : (bareKeys l).filter (· ≠ new.key) = bareKeys l :=
    filter_ne_eq_self fun hb => hk (mem_bareKeys.1 hb).1
  rw [merge_of_find?_eq_none (find?_closedForm_eq_none hk), if_pos hq,
    closedForm_concat_of_not_mem_quantifiedKeys hq hkq, hbare, total_concat_of_not_mem h hk, closedForm,
    insertQuantified_append isQuantified_of_mem_map_total not_isQuantified_of_mem_map_bare]

theorem merge_quantified_of_mem_bareKeys {a : Float} (h : new.amount = some a)
    (hk : new.key ∈ bareKeys l) :
    merge serves (closedForm serves l) new = closedForm serves (l ++ [new]) := by
  have hq := Ingredient.isQuantified_of_some h
  have hkq := (mem_bareKeys.1 hk).2
  -- the entry without an amount goes, and the one that takes its place joins the first block
  obtain ⟨as, bs, hsplit, has, hbs⟩ := exists_split_of_nodup nodup_bareKeys hk
  have hfilter : (bareKeys l).filter (· ≠ new.key) = as ++ bs := by
    rw [hsplit, List.filter_append, List.filter_cons_of_neg (by simp),
      filter_ne_eq_self has, filter_ne_eq_self hbs]
  have hform : closedForm serves l =
      ((quantifiedKeys l).map (total serves l) ++ as.map bare) ++ bare new.key :: bs.map bare := by
    rw [closedForm, hsplit, List.map_append, List.map_cons, List.append_assoc]
  have hne : ∀ x ∈ (quantifiedKeys l).map (total serves l) ++ as.map bare, x.key ≠ new.key := by
    refine List.forall_mem_append.2 ⟨key_ne_of_mem_map (fun _ => rfl) hkq, ?_⟩
    exact key_ne_of_mem_map (fun _ => rfl) has
  rw [hform, merge_of_adopt (find?_sameKey hne key_bare) rfl h,
    eraseP_sameKey hne key_bare, closedForm_concat_of_not_mem_quantifiedKeys hq hkq, hfilter,
    total_concat_of_mem_bareKeys h hk, List.append_assoc, ← List.map_append,
    insertQuantified_append isQuantified_of_mem_map_total not_isQuantified_of_mem_map_bare]

theorem merge_quantified_of_mem_quantifiedKeys {a : Float} (h : new.amount = some a)
    (hk : new.key ∈ quantifiedKeys l) :
    merge serves (closedForm serves l) new = closedForm serves (l ++ [new]) := by
  have hq := Ingredient.isQuantified_of_some h
  obtain ⟨old, hold⟩ := exists_amount_total serves hk
  obtain ⟨as, bs, hsplit, has, hbs⟩ := exists_split_of_nodup nodup_quantifiedKeys hk
  have hbare : (bareKeys l).filter (· ≠ new.key) = bareKeys l :=
    filter_ne_eq_self fun hb => (mem_bareKeys.1 hb).2 hk
  -- both closed forms have the same keys, and differ in the entry of this one only
  have hform : ∀ l', quantifiedKeys l' = quantifiedKeys l → bareKeys l' = bareKeys l →
      closedForm serves l' = as.map (total serves l') ++ total serves l' new.key ::
        (bs.map (total serves l') ++ (bareKeys l).map bare) := by
    intro l' hq' hb'
    rw [closedForm, hq', hb', hsplit, List.map_append, List.map_cons, List.append_assoc,
      List.cons_append]
  have hne := key_ne_of_mem_map (f := total serves l) (fun _ => rfl) has
  rw [hform l rfl rfl, merge_of_plus (find?_sameKey hne key_total) hold h,
    replaceFirst_append hne key_total,
    hform (l ++ [new]) (quantifiedKeys_concat_of_mem hq hk)
      ((bareKeys_concat_of_quantified hq).trans hbare),
    map_total_concat has, map_total_concat hbs, total_concat_of_mem_quantifiedKeys h hk hold]

/-- One more occurrence takes the closed form to the closed form. -/
theorem merge_closedForm (serves : Nat) (l : List Ingredient) (new : Ingredient) :
    merge serves (closedForm serves l) new = closedForm serves (l ++ [new]) := by
  cases h : new.amount with
  | none =>
    by_cases hk : new.key ∈ l.map Ingredient.key
    exacts [merge_bare_of_mem h hk, merge_bare_of_not_mem h hk]
  | some a =>
    by_cases hq : new.key ∈ quantifiedKeys l
    · exact merge_quantified_of_mem_quantifiedKeys h hq
    by_cases hk : new.key ∈ l.map Ingredient.key
    exacts [merge_quantified_of_mem_bareKeys h (mem_bareKeys.2 ⟨hk, hq⟩),
      merge_quantified_of_not_mem h hk]

theorem foldl_merge_eq_closedForm (serves : Nat) (l : List Ingredient) :
    l.foldl (merge serves) [] = closedForm serves l := by
  induction l using List.reverseRecOn with
  | nil => rfl
  | append_singleton l new ih =>
    rw [List.foldl_append, List.foldl_cons, List.foldl_nil, ih]
    exact merge_closedForm serves l new

/-- The totals of some occurrences are their closed form, which has one entry for each name and unit
that occurs. -/
theorem ofList_eq_closedForm (serves : Nat) (l : List Ingredient) :
    ofList serves l = closedForm serves l ∧
      ((ofList serves l).map Ingredient.key).Nodup ∧
        ∀ k, k ∈ (ofList serves l).map Ingredient.key ↔ k ∈ l.map Ingredient.key := by
  rw [ofList, foldl_merge_eq_closedForm]
  exact ⟨rfl, nodup_keys_closedForm, fun _ => mem_keys_closedForm⟩

end RecipeBook.Totals
