import RecipeBook.Proofs.Library.Offered
import RecipeBook.Proofs.Recipe.Loaded

/-!
# What a library answers

Every index of the library of some recipes collects them under a key, so that what it answers can be
said of the recipes themselves: the editions of an identifier, the recipes of a language, those with
a tag and their number, and the language that most recipes have (`Answers`). The two indexes of tags
agree because tags of loaded recipes are in lower case, as those that one asks for are made to be.
-/

namespace RecipeBook.Library

variable {rs : List Recipe} {r : Recipe} {id lang tag : String}

/-! ### Languages -/

theorem byLanguage_ofRecipes (rs : List Recipe) : (ofRecipes rs).byLanguage =
    Index.collected Recipe.lang (fun r rs => rs ++ [r]) [] rs :=
  (List.foldl_hom byLanguage fun _ _ => rfl).symm

theorem sorted_byLanguage (rs : List Recipe) : (ofRecipes rs).byLanguage.Sorted := by
  rw [byLanguage_ofRecipes]
  exact Index.sorted_collected _ _ _ _

theorem foldl_concat_eq (rs : List Recipe) : rs.foldl (fun rs r => rs ++ [r]) [] = rs := by
  rw [Index.foldl_append_singleton (fun r => r), List.map_id', List.nil_append]

theorem find?_byLanguage (rs : List Recipe) (lang : String) :
    (ofRecipes rs).byLanguage.find? lang =
      if rs.filter (·.lang = lang) = [] then none else some (rs.filter (·.lang = lang)) := by
  rw [byLanguage_ofRecipes, Index.find?_collected, foldl_concat_eq]

theorem recipes_ofRecipes (rs : List Recipe) (lang : String) :
    (ofRecipes rs).recipes lang = rs.filter (·.lang = lang) := by
  rw [recipes, byLanguage_ofRecipes, Index.getD_find?_collected, foldl_concat_eq]

theorem hasLanguage_ofRecipes : (ofRecipes rs).hasLanguage lang ↔ (ofRecipes rs).recipes lang ≠ [] := by
  rw [hasLanguage, recipes_ofRecipes, find?_byLanguage]
  split
  · next h => simp [h]
  · next h => simp [h]

/-! ### Tags -/

/-- The recipes of a language, each under every one of its tags. -/
def uses (rs : List Recipe) (lang : String) : List (String × Recipe) :=
  (rs.filter (·.lang = lang)).flatMap fun r => r.metadata.tags.map fun tag => (tag, r)

theorem foldl_uses {β : Type} (f : β → String × Recipe → β) (init : β) (rs : List Recipe)
    (lang : String) : (uses rs lang).foldl f init =
      (rs.filter (·.lang = lang)).foldl
        (fun b r => r.metadata.tags.foldl (fun b tag => f b (tag, r)) b) init := by
  simp only [uses, List.foldl_flatMap, List.foldl_map]

theorem byTag_ofRecipes (rs : List Recipe) : (ofRecipes rs).byTag =
    Index.collected Recipe.lang (fun r tags => r.metadata.tags.foldl
      (fun tags tag => Index.update tag (fun rs => rs.getD [] ++ [r]) tags) tags) [] rs :=
  (List.foldl_hom byTag fun _ _ => rfl).symm

theorem tagCounts_ofRecipes (rs : List Recipe) : (ofRecipes rs).tagCounts =
    Index.collected Recipe.lang (fun r counts => r.metadata.tags.foldl
      (fun counts tag => Index.update tag (fun n => n.getD 0 + 1) counts) counts) [] rs :=
  (List.foldl_hom tagCounts fun _ _ => rfl).symm

theorem getD_find?_byTag (rs : List Recipe) (lang : String) :
    ((ofRecipes rs).byTag.find? lang).getD [] =
      Index.collected Prod.fst (fun use rs => rs ++ [use.2]) [] (uses rs lang) := by
  rw [byTag_ofRecipes, Index.getD_find?_collected, Index.collected, foldl_uses]

theorem getD_find?_tagCounts (rs : List Recipe) (lang : String) :
    ((ofRecipes rs).tagCounts.find? lang).getD [] =
      Index.collected Prod.fst (fun _ n => n + 1) 0 (uses rs lang) := by
  rw [tagCounts_ofRecipes, Index.getD_find?_collected, Index.collected, foldl_uses]

theorem map_snd_filter_map_pair (tags : List String) (tag : String) (r : Recipe) :
    ((tags.map fun tag => (tag, r)).filter (·.1 = tag)).map Prod.snd =
      List.replicate (tags.count tag) r := by
  induction tags with
  | nil => rfl
  | cons t tags ih =>
    rw [List.map_cons, List.count_cons]
    by_cases h : t = tag
    · rw [List.filter_cons_of_pos (by simpa using h), List.map_cons, ih, if_pos (by simpa using h),
        List.replicate_succ]
    · rw [List.filter_cons_of_neg (by simpa using h), ih, if_neg (by simpa using h), Nat.add_zero]

/-- A recipe stands as often under a tag as it has it. -/
theorem map_snd_filter_uses (rs : List Recipe) (lang tag : String) :
    ((uses rs lang).filter (·.1 = tag)).map Prod.snd =
      (rs.filter (·.lang = lang)).flatMap fun r =>
        List.replicate (r.metadata.tags.count tag) r := by
  simp only [uses, List.filter_flatMap, List.map_flatMap, map_snd_filter_map_pair]

theorem recipesWithTag_ofRecipes (rs : List Recipe) (lang tag : String) :
    (ofRecipes rs).recipesWithTag lang tag =
      (rs.filter (·.lang = lang)).flatMap fun r =>
        List.replicate (r.metadata.tags.count (lowered tag)) r := by
  have hbind : (ofRecipes rs).recipesWithTag lang tag =
      ((((ofRecipes rs).byTag.find? lang).getD []).find? (lowered tag)).getD [] := by
    rw [recipesWithTag]
    cases (ofRecipes rs).byTag.find? lang <;> rfl
  rw [hbind, getD_find?_byTag, Index.getD_find?_collected,
    Index.foldl_append_singleton Prod.snd, List.nil_append, map_snd_filter_uses]

theorem mem_recipesWithTag_ofRecipes : r ∈ (ofRecipes rs).recipesWithTag lang tag ↔
    r ∈ rs ∧ r.lang = lang ∧ lowered tag ∈ r.metadata.tags := by
  simp only [recipesWithTag_ofRecipes, List.mem_flatMap, List.mem_replicate, ← Nat.pos_iff_ne_zero,
    List.count_pos_iff, List.mem_filter, decide_eq_true_eq]
  constructor
  · rintro ⟨_, ⟨hr, hlang⟩, htag, rfl⟩
    exact ⟨hr, hlang, htag⟩
  · rintro ⟨hr, hlang, htag⟩
    exact ⟨r, ⟨hr, hlang⟩, htag, rfl⟩

theorem mem_map_fst_uses :
    (∃ use ∈ uses rs lang, use.1 = tag) ↔
      ∃ r ∈ rs.filter (·.lang = lang), tag ∈ r.metadata.tags := by
  simp only [uses, List.mem_flatMap, List.mem_map]
  constructor
  · rintro ⟨_, ⟨r, hr, t, ht, rfl⟩, rfl⟩
    exact ⟨r, hr, ht⟩
  · rintro ⟨r, hr, ht⟩
    exact ⟨(tag, r), ⟨r, hr, tag, ht, rfl⟩, rfl⟩

theorem mem_tagsByUse {n : Nat} :
    (tag, n) ∈ (ofRecipes rs).tagsByUse lang ↔
      (∃ r ∈ rs.filter (·.lang = lang), tag ∈ r.metadata.tags) ∧
        ((uses rs lang).filter (·.1 = tag)).length = n := by
  rw [tagsByUse, List.mem_mergeSort, getD_find?_tagCounts, (Index.sorted_collected _ _ _ _).mem_iff,
    Index.find?_collected, List.foldl_add_const, ← mem_map_fst_uses]
  split
  · next h =>
    have hnot := (Index.filter_key_eq_nil Prod.fst).1 h
    simp only [reduceCtorEq, hnot, false_and]
  · next h =>
    have huse := not_not.1 (mt (Index.filter_key_eq_nil Prod.fst).2 h)
    simp [huse]

theorem nodup_tagsByUse (rs : List Recipe) (lang : String) :
    (((ofRecipes rs).tagsByUse lang).map Prod.fst).Nodup := by
  have hperm := (List.mergeSort_perm (((ofRecipes rs).tagCounts.find? lang).getD []) fun a b =>
    b.2 < a.2 || (a.2 == b.2 && decide (a.1 ≤ b.1))).map Prod.fst
  rw [tagsByUse]
  refine hperm.nodup_iff.2 ?_
  rw [getD_find?_tagCounts]
  exact Index.Sorted.nodup_keys (Index.sorted_collected _ _ _ _)

/-! ### Numbers of recipes -/

theorem size_ofRecipes (rs : List Recipe) :
    (ofRecipes rs).size = (rs.map Recipe.id).eraseDups.length := by
  have hperm : (ofRecipes rs).byId.keys.Perm (rs.map Recipe.id).eraseDups := by
    refine (List.perm_ext_iff_of_nodup (Index.Sorted.nodup_keys (sorted_byId rs))
      (nodup_eraseDups _)).2 fun id => ?_
    rw [(sorted_byId rs).mem_keys_iff, find?_byId_isSome, List.mem_eraseDups, List.mem_map]
  rw [size, ← hperm.length_eq, Index.keys, List.length_map]

theorem mostRecipes_eq_none {xs : List (String × Nat)} : mostRecipes xs = none ↔ xs = [] := by
  cases xs with
  | nil => simp [mostRecipes]
  | cons x xs =>
    rw [mostRecipes]
    cases mostRecipes xs with
    | none => simp
    | some best => by_cases h : x.2 < best.2 <;> simp [h]

/-- Of languages by name, the one with the most recipes, and the first of several. -/
theorem of_mostRecipes_eq_some {xs : List (String × Nat)} (hxs : Index.Sorted xs) {x : String × Nat}
    (h : mostRecipes xs = some x) :
    x ∈ xs ∧ ∀ y ∈ xs, y.2 < x.2 ∨ (y.2 = x.2 ∧ x.1 ≤ y.1) := by
  induction xs generalizing x with
  | nil => cases h
  | cons y xs ih =>
    obtain ⟨hlt, hxs⟩ := Index.sorted_cons.1 hxs
    rw [mostRecipes] at h
    cases hbest : mostRecipes xs with
    | none =>
      obtain rfl := mostRecipes_eq_none.1 hbest
      obtain rfl : y = x := by simpa [hbest] using h
      refine ⟨List.mem_cons_self, fun z hz => .inr ?_⟩
      rw [List.mem_singleton.1 hz]
      exact ⟨rfl, String.le_refl _⟩
    | some best =>
      obtain ⟨hmem, hmost⟩ := ih hxs hbest
      simp only [hbest] at h
      split at h
      · next hless =>
        obtain rfl : best = x := Option.some.inj h
        refine ⟨List.mem_cons_of_mem _ hmem, fun z hz => ?_⟩
        rcases List.mem_cons.1 hz with rfl | hz
        · exact .inl hless
        · exact hmost z hz
      · next hnot =>
        obtain rfl : y = x := Option.some.inj h
        refine ⟨List.mem_cons_self, fun z hz => ?_⟩
        rcases List.mem_cons.1 hz with rfl | hz
        · exact .inr ⟨rfl, String.le_refl _⟩
        -- all others come behind `y` in the order of languages, and none has more recipes
        · have hle : y.1 ≤ z.1 := fun hzy =>
            String.lt_asymm hzy (hlt z.1 (List.mem_map_of_mem hz))
          have hmostz : z.2 ≤ y.2 := by
            rcases hmost z hz with hz2 | ⟨hz2, -⟩ <;> omega
          exact (Nat.lt_or_eq_of_le hmostz).imp_right fun hz2 => ⟨hz2, hle⟩

theorem sorted_languages (rs : List Recipe) : Index.Sorted (ofRecipes rs).languages := by
  have hkeys : Index.keys (ofRecipes rs).languages = (ofRecipes rs).byLanguage.keys := by
    rw [languages, Index.keys, List.map_map]
    rfl
  rw [Index.Sorted, hkeys]
  exact sorted_byLanguage rs

theorem mem_languages {n : Nat} : (lang, n) ∈ (ofRecipes rs).languages ↔
    (ofRecipes rs).recipes lang ≠ [] ∧ ((ofRecipes rs).recipes lang).length = n := by
  have hmem : (lang, n) ∈ (ofRecipes rs).languages ↔
      ∃ held, (ofRecipes rs).byLanguage.find? lang = some held ∧ held.length = n := by
    simp only [languages, List.mem_map, Prod.mk.injEq, ← (sorted_byLanguage rs).mem_iff]
    constructor
    · rintro ⟨⟨lang, held⟩, hheld, rfl, rfl⟩
      exact ⟨held, hheld, rfl⟩
    · rintro ⟨held, hheld, hn⟩
      exact ⟨(lang, held), hheld, rfl, hn⟩
  rw [hmem, find?_byLanguage, recipes_ofRecipes]
  split
  · next h => simp [h]
  · next h => simp [h]

/-- The default language is one with the most recipes, and the smallest of several. -/
theorem defaultLanguage_ofRecipes (hrs : rs ≠ []) :
    (ofRecipes rs).recipes (ofRecipes rs).defaultLanguage ≠ [] ∧
      ∀ lang, ((ofRecipes rs).recipes lang).length <
          ((ofRecipes rs).recipes (ofRecipes rs).defaultLanguage).length ∨
        ((ofRecipes rs).recipes lang).length =
            ((ofRecipes rs).recipes (ofRecipes rs).defaultLanguage).length ∧
          (ofRecipes rs).defaultLanguage ≤ lang := by
  obtain ⟨r, hr⟩ := List.exists_mem_of_ne_nil rs hrs
  have hlang : (ofRecipes rs).recipes r.lang ≠ [] := by
    rw [recipes_ofRecipes]
    exact List.ne_nil_of_mem (List.mem_filter.2 ⟨hr, decide_eq_true rfl⟩)
  cases hbest : mostRecipes (ofRecipes rs).languages with
  | none =>
    have hmem := mem_languages.2 ⟨hlang, rfl⟩
    rw [mostRecipes_eq_none.1 hbest] at hmem
    exact absurd hmem List.not_mem_nil
  | some best =>
    obtain ⟨default, most⟩ := best
    obtain ⟨hmem, hmost⟩ := of_mostRecipes_eq_some (sorted_languages rs) hbest
    obtain ⟨hne, rfl⟩ := mem_languages.1 hmem
    have hdefault : (ofRecipes rs).defaultLanguage = default := by
      rw [defaultLanguage, hbest, Option.map_some, Option.getD_some]
    rw [hdefault]
    refine ⟨hne, fun lang => ?_⟩
    by_cases hnil : (ofRecipes rs).recipes lang = []
    · rw [hnil]
      exact .inl (List.length_pos_of_ne_nil hne)
    · exact hmost _ (mem_languages.2 ⟨hnil, rfl⟩)

/-! ### Translations -/

theorem mem_get? {s : String} (hrs : (rs.map Recipe.edition).Nodup) :
    (lang, r) ∈ ((ofRecipes rs).get? s).getD [] ↔ r ∈ rs ∧ r.id = normalizeId s ∧ r.lang = lang := by
  rw [get?, (sorted_editions rs _).mem_iff, find?_editions_eq_some hrs, Recipe.edition,
    Prod.mk.injEq]

theorem get?_ne_nil (rs : List Recipe) (s : String) : (ofRecipes rs).get? s ≠ some [] := by
  intro h
  obtain ⟨r, hr, hid⟩ := find?_byId_isSome.1 (Option.isSome_of_eq_some h)
  have hnone : (((ofRecipes rs).byId.find? (normalizeId s)).getD []).find? r.lang = none := by
    rw [get?] at h
    rw [h, Option.getD_some, Index.find?_nil]
  exact find?_editions_eq_none.1 hnone (hid ▸ List.mem_map_of_mem hr)

/-! ### All answers -/

/-- What a library answers if the given recipes are the ones it took, in order. -/
structure Answers (l : Library) (rs : List Recipe) : Prop where
  /-- A recipe is refused exactly if its identifier and language are taken. -/
  refused_iff : ∀ r, (l.offer r).2 ≠ none ↔ ∃ r' ∈ rs, r'.id = r.id ∧ r'.lang = r.lang
  /-- A recipe that is refused changes no index. -/
  offer_of_refused : ∀ r, (l.offer r).2 ≠ none → (l.offer r).1 = l
  distinct : rs.Pairwise fun r r' => ¬ (r.id = r'.id ∧ r.lang = r'.lang)
  mem_get? : ∀ s lang r,
    (lang, r) ∈ (l.get? s).getD [] ↔ r ∈ rs ∧ r.id = normalizeId s ∧ r.lang = lang
  sorted_get? : ∀ s, ((l.get? s).getD []).Sorted
  get?_ne_nil : ∀ s, l.get? s ≠ some []
  recipes_eq : ∀ lang, l.recipes lang = rs.filter (·.lang = lang)
  recipesWithTag_eq : ∀ lang tag, l.recipesWithTag lang tag =
    (l.recipes lang).flatMap fun r => List.replicate (r.metadata.tags.count (lowered tag)) r
  /-- The tags in use, each with the number of recipes that are listed under it. -/
  mem_mostCommonTags : ∀ lang limit, (l.tagsByUse lang).length ≤ limit → ∀ tag n,
    (tag, n) ∈ l.mostCommonTags lang limit ↔
      (∃ r ∈ l.recipes lang, tag ∈ r.metadata.tags) ∧ (l.recipesWithTag lang tag).length = n
  nodup_mostCommonTags : ∀ lang limit, ((l.mostCommonTags lang limit).map Prod.fst).Nodup
  hasLanguage_iff : ∀ lang, l.hasLanguage lang ↔ l.recipes lang ≠ []
  size_eq : l.size = (rs.map Recipe.id).eraseDups.length
  defaultLanguage_nil : rs = [] → l.defaultLanguage = "en"
  /-- A language of the library, the one with the most recipes, and the smallest of several. -/
  defaultLanguage_ne_nil : rs ≠ [] → l.recipes l.defaultLanguage ≠ [] ∧
    ∀ lang, (l.recipes lang).length < (l.recipes l.defaultLanguage).length ∨
      (l.recipes lang).length = (l.recipes l.defaultLanguage).length ∧ l.defaultLanguage ≤ lang

theorem refused_iff_mem : ((ofRecipes rs).offer r).2 ≠ none ↔ r.edition ∈ rs.map Recipe.edition := by
  by_cases h : r.edition ∈ rs.map Recipe.edition
  · obtain ⟨first, -, -, hoffer⟩ := offer_ofRecipes_of_mem h
    simp [hoffer, h]
  · simp [offer_ofRecipes_of_not_mem h, h]

theorem mem_map_edition : r.edition ∈ rs.map Recipe.edition ↔
    ∃ r' ∈ rs, r'.id = r.id ∧ r'.lang = r.lang := by
  simp [Recipe.edition]

theorem mem_mostCommonTags_ofRecipes {limit n : Nat}
    (hrs : ∀ r ∈ rs, ∀ tag ∈ r.metadata.tags, lowered tag = tag)
    (hlimit : ((ofRecipes rs).tagsByUse lang).length ≤ limit) :
    (tag, n) ∈ (ofRecipes rs).mostCommonTags lang limit ↔
      (∃ r ∈ (ofRecipes rs).recipes lang, tag ∈ r.metadata.tags) ∧
        ((ofRecipes rs).recipesWithTag lang tag).length = n := by
  rw [mostCommonTags, List.take_of_length_le hlimit, mem_tagsByUse, recipes_ofRecipes]
  -- the tag is one of a recipe, and so it is what it is looked up as
  refine and_congr_right fun ⟨r, hr, htag⟩ => ?_
  rw [recipesWithTag_ofRecipes, hrs r (List.mem_of_mem_filter hr) tag htag, ← map_snd_filter_uses,
    List.length_map]

theorem answers_ofRecipes (hrs : (rs.map Recipe.edition).Nodup)
    (hlow : ∀ r ∈ rs, ∀ tag ∈ r.metadata.tags, lowered tag = tag) : Answers (ofRecipes rs) rs where
  refused_iff _ := refused_iff_mem.trans mem_map_edition
  offer_of_refused r h := by
    obtain ⟨first, -, -, hoffer⟩ := offer_ofRecipes_of_mem (refused_iff_mem.1 h)
    rw [hoffer]
  distinct := (List.pairwise_map.1 hrs).imp fun hne h => hne (Prod.mk.injEq .. ▸ h)
  mem_get? _ _ _ := mem_get? hrs
  sorted_get? s := sorted_editions rs (normalizeId s)
  get?_ne_nil := get?_ne_nil rs
  recipes_eq := recipes_ofRecipes rs
  recipesWithTag_eq lang tag := by rw [recipesWithTag_ofRecipes, recipes_ofRecipes]
  mem_mostCommonTags _ _ hlimit _ _ := mem_mostCommonTags_ofRecipes hlow hlimit
  nodup_mostCommonTags lang limit := by
    rw [mostCommonTags, List.map_take]
    exact (nodup_tagsByUse rs lang).sublist (List.take_sublist _ _)
  hasLanguage_iff _ := hasLanguage_ofRecipes
  size_eq := size_ofRecipes rs
  defaultLanguage_nil h := by rw [h]; rfl
  defaultLanguage_ne_nil := defaultLanguage_ofRecipes

/-- However many loaded recipes are offered to a library, it answers for those that it took. -/
theorem answers_filled {offers : List Recipe} (h : ∀ r ∈ offers, r.IsLoaded) :
    Answers (filled offers).1 (filled offers).2 := by
  rw [filled_eq_firsts]
  refine answers_ofRecipes (nodup_firsts offers) fun r hr => ?_
  exact (h r ((firsts_sublist offers).subset hr)).sound.lowered_of_mem_tags

open Recipe in
/-- The second soup is refused, as the identifier and the language of the first are taken. -/
theorem answers_filled_onionSoups :
    onionSoups.map Recipe.edition = [("onion-soup", "en"), ("onion-soup", "en"), ("onion-soup", "de")] ∧
      (filled onionSoups).2.map Recipe.name = ["Onion soup", "Zwiebelsuppe"] ∧
      Answers (filled onionSoups).1 (filled onionSoups).2 :=
  ⟨by decide +kernel, by decide +kernel, answers_filled fun _ => isLoaded_of_mem_onionSoups⟩

end RecipeBook.Library
