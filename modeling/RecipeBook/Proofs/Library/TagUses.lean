import RecipeBook.Proofs.Library.Loading
import RecipeBook.Proofs.Library.Search
import RecipeBook.Proofs.Web.Fields

/-!
# What a tag is counted for

The number shown for a tag and the list of recipes under it are made of the entries of tag lists, where
a search asks each recipe whether it has the tag. The two agree up to repeated entries: the number is
that of the entries of the recipes found, and each of these is listed once per entry
(`mostCommonTags_counts`). They are the same exactly if no recipe of the language has the tag twice.
-/

namespace RecipeBook.Library

/-- A library to which nothing but recipes that were read from documents has been offered. -/
def IsLoaded (l : Library) : Prop :=
  ∃ offers, (∀ r ∈ offers, Recipe.IsLoaded r) ∧ l = (filled offers).1

/-- How the number `n` shown for a tag and the recipes listed under it go with those a search finds. -/
structure CountsTag (l : Library) (lang tag : String) (n : Nat) : Prop where
  mem_search : ∀ r, r ∈ l.search lang (.tag tag) ↔ r ∈ l.recipes lang ∧ tag ∈ r.metadata.tags
  nodup_search : ((l.search lang (.tag tag)).map Recipe.id).Nodup
  /-- As often as the tag stands in the lists of tags of the recipes found. -/
  eq_count : n = ((l.search lang (.tag tag)).flatMap fun r => r.metadata.tags).count tag
  /-- Every recipe found is listed as often as it has the tag, and no other recipe is. -/
  perm : (l.recipesWithTag lang tag).Perm
    ((l.search lang (.tag tag)).flatMap fun r => List.replicate (r.metadata.tags.count tag) r)
  length_le : (l.search lang (.tag tag)).length ≤ n
  eq_length_iff : n = (l.search lang (.tag tag)).length ↔
    ∀ r ∈ l.recipes lang, r.metadata.tags.count tag ≤ 1
  /-- Every recipe found is listed exactly once. -/
  perm_search_iff : (l.recipesWithTag lang tag).Perm (l.search lang (.tag tag)) ↔
    ∀ r ∈ l.recipes lang, r.metadata.tags.count tag ≤ 1

variable {l : Library} {rs : List Recipe} {lang tag location : String}

theorem isLoaded_of_load {folder : Option FileTree} {report : Report}
    (h : load location folder = .ok (l, report)) : l.IsLoaded := by
  cases folder with
  | none => cases h
  | some tree =>
    obtain ⟨rfl, -⟩ : (loadEntries location tree.walk).library = l ∧ _ = report := by
      simpa [load] using h
    exact exists_filled_eq_loadEntries location tree.walk

theorem IsLoaded.exists_ofRecipes (hl : l.IsLoaded) : ∃ rs, l = ofRecipes rs ∧
    (∀ r ∈ rs, Recipe.IsLoaded r) ∧ (rs.map Recipe.edition).Nodup := by
  obtain ⟨offers, hoffers, rfl⟩ := hl
  refine ⟨firsts offers, ?_, fun r hr => hoffers r ((firsts_sublist offers).subset hr),
    nodup_firsts offers⟩
  rw [filled_eq_firsts]

/-! ### Lists that say some elements several times -/

section Repeated

variable {α : Type} {f : α → Nat} {xs ys : List α}

theorem flatMap_replicate_filter (p : α → Bool) (h : ∀ x, p x = false → f x = 0) (xs : List α) :
    ((xs.filter p).flatMap fun x => List.replicate (f x) x) =
      xs.flatMap fun x => List.replicate (f x) x := by
  induction xs with
  | nil => rfl
  | cons x xs ih =>
    cases hp : p x with
    | false => rw [List.filter_cons_of_neg (by simp [hp]), ih, List.flatMap_cons, h x hp]; rfl
    | true => rw [List.filter_cons_of_pos hp, List.flatMap_cons, List.flatMap_cons, ih]

theorem length_le_flatMap_replicate (h : ∀ x ∈ xs, 0 < f x) :
    xs.length ≤ (xs.flatMap fun x => List.replicate (f x) x).length := by
  induction xs with
  | nil => exact Nat.zero_le _
  | cons x xs ih =>
    have hx := h x List.mem_cons_self
    have hxs := ih fun y hy => h y (List.mem_cons_of_mem x hy)
    rw [List.flatMap_cons, List.length_append, List.length_replicate, List.length_cons]
    omega

theorem length_flatMap_replicate_eq_iff (h : ∀ x ∈ xs, 0 < f x) :
    (xs.flatMap fun x => List.replicate (f x) x).length = xs.length ↔ ∀ x ∈ xs, f x = 1 := by
  induction xs with
  | nil => simp
  | cons x xs ih =>
    have hxs : ∀ y ∈ xs, 0 < f y := fun y hy => h y (List.mem_cons_of_mem x hy)
    have hx := h x List.mem_cons_self
    have hle := length_le_flatMap_replicate hxs
    rw [List.forall_mem_cons, ← ih hxs, List.flatMap_cons, List.length_append, List.length_replicate,
      List.length_cons]
    omega

/-- A list is one with repetitions exactly if there are none. -/
theorem flatMap_replicate_perm_iff (h : ∀ x ∈ xs, 0 < f x) :
    (xs.flatMap fun x => List.replicate (f x) x).Perm xs ↔ ∀ x ∈ xs, f x = 1 := by
  constructor
  · exact fun hperm => (length_flatMap_replicate_eq_iff h).1 hperm.length_eq
  · intro hone
    have hsingle : (xs.flatMap fun x => List.replicate (f x) x) = xs.flatMap fun x => [x] :=
      List.flatMap_congr fun x hx => by rw [hone x hx, List.replicate_one]
    rw [hsingle, List.flatMap_singleton']

end Repeated

/-! ### The uses of a tag -/

theorem mem_search_tag (l : Library) (htag : lowered tag = tag) {r : Recipe} :
    r ∈ l.search lang (.tag tag) ↔ r ∈ l.recipes lang ∧ tag ∈ r.metadata.tags := by
  rw [search, mem_sortByName, List.mem_filter, Query.isMatch, Recipe.hasTag_iff, htag]

theorem recipesWithTag_perm (rs : List Recipe) (lang : String) (htag : lowered tag = tag) :
    ((ofRecipes rs).recipesWithTag lang tag).Perm (((ofRecipes rs).search lang (.tag tag)).flatMap
      fun r => List.replicate (r.metadata.tags.count tag) r) := by
  have hnone : ∀ r : Recipe, (Query.tag tag).isMatch r = false → r.metadata.tags.count tag = 0 := by
    intro r hr
    rw [List.count_eq_zero, ← htag, ← Recipe.hasTag_iff]
    simpa only [Query.isMatch, Bool.not_eq_true] using hr
  rw [recipesWithTag_ofRecipes, htag, ← recipes_ofRecipes, ← flatMap_replicate_filter _ hnone]
  exact ((List.mergeSort_perm _ _).flatMap_right _).symm

/-- No recipe has the tag twice exactly if those found have it once. -/
theorem forall_count_le_one_iff (htag : lowered tag = tag) :
    (∀ r ∈ l.recipes lang, r.metadata.tags.count tag ≤ 1) ↔
      ∀ r ∈ l.search lang (.tag tag), r.metadata.tags.count tag = 1 := by
  simp only [mem_search_tag l htag, and_imp]
  refine forall₂_congr fun r _ => ⟨fun h hr => ?_, fun h => ?_⟩
  · exact Nat.le_antisymm h (List.count_pos_iff.2 hr)
  · by_cases hr : tag ∈ r.metadata.tags
    · exact (h hr).le
    · rw [List.count_eq_zero.2 hr]
      exact Nat.zero_le 1

theorem countsTag_ofRecipes (hrs : (rs.map Recipe.edition).Nodup) (htag : lowered tag = tag) :
    CountsTag (ofRecipes rs) lang tag ((ofRecipes rs).recipesWithTag lang tag).length := by
  have hperm := recipesWithTag_perm rs lang htag
  have hpos : ∀ r ∈ (ofRecipes rs).search lang (.tag tag), 0 < r.metadata.tags.count tag := fun r hr =>
    List.count_pos_iff.2 ((mem_search_tag _ htag).1 hr).2
  refine ⟨fun r => mem_search_tag _ htag, nodup_search_ofRecipes hrs lang _, ?_, hperm, ?_, ?_, ?_⟩
  · rw [hperm.length_eq]
    simp only [List.length_flatMap, List.length_replicate, List.count_flatMap, Function.comp_def]
  · rw [hperm.length_eq]
    exact length_le_flatMap_replicate hpos
  · rw [hperm.length_eq, length_flatMap_replicate_eq_iff hpos, forall_count_le_one_iff htag]
  · rw [forall_count_le_one_iff htag, ← flatMap_replicate_perm_iff hpos]
    exact ⟨hperm.symm.trans, hperm.trans⟩

/-- In every language, every tag of a loaded library is shown with the number of its uses by the
recipes that a search for it finds, unless there is none in the language. A site that has the library
answers with the most common tags, all of them or ten along with the recipes. -/
theorem mostCommonTags_counts (hl : l.IsLoaded) (lang : String) :
    (∀ limit, l.mostCommonTags lang limit <+: l.tagsByUse lang) ∧
    (∀ site : Web.Site, site.library = l →
      (∀ limit, (l.tagsByUse lang).length ≤ limit →
        Web.IsShown "tags" (l.mostCommonTags lang limit) (Web.View.tags site lang)) ∧
      Web.IsShown "popular_tags" (l.mostCommonTags lang 10) (Web.View.recipes site lang)) ∧
    (∀ tag n, (tag, n) ∈ l.tagsByUse lang → CountsTag l lang tag n) ∧
    ∀ lang' r, r ∈ l.recipes lang' → ∀ tag ∈ r.metadata.tags,
      (∃ n, ∀ limit, (l.tagsByUse lang).length ≤ limit → (tag, n) ∈ l.mostCommonTags lang limit) ∨
        l.search lang (.tag tag) = [] ∧ l.recipesWithTag lang tag = [] := by
  obtain ⟨rs, rfl, hloaded, hnodup⟩ := hl.exists_ofRecipes
  have hlow : ∀ r ∈ rs, ∀ tag ∈ r.metadata.tags, lowered tag = tag := fun r hr =>
    (hloaded r hr).sound.lowered_of_mem_tags
  have hmem : ∀ {lang r}, r ∈ (ofRecipes rs).recipes lang → r ∈ rs := fun {lang r} hr => by
    rw [recipes_ofRecipes] at hr
    exact List.mem_of_mem_filter hr
  refine ⟨fun limit => List.take_prefix limit _, fun site hsite => ⟨fun limit hlimit => ?_, ?_⟩,
    fun tag n hn => ?_, fun lang' r hr tag htag => ?_⟩
  · rw [mostCommonTags, List.take_of_length_le hlimit, ← hsite]
    exact Web.View.isShown_tags site lang
  · rw [← hsite]
    exact Web.View.isShown_popularTags site lang
  · have hall : (tag, n) ∈ (ofRecipes rs).mostCommonTags lang
        ((ofRecipes rs).tagsByUse lang).length := by
      rwa [mostCommonTags, List.take_length]
    obtain ⟨⟨r, hr, htag⟩, rfl⟩ := (mem_mostCommonTags_ofRecipes hlow (Nat.le_refl _)).1 hall
    exact countsTag_ofRecipes hnodup (hlow r (hmem hr) tag htag)
  · have htagLow := hlow r (hmem hr) tag htag
    by_cases hsome : ∃ r ∈ (ofRecipes rs).recipes lang, tag ∈ r.metadata.tags
    · exact .inl ⟨_, fun limit hlimit => (mem_mostCommonTags_ofRecipes hlow hlimit).2 ⟨hsome, rfl⟩⟩
    · have hnone : (ofRecipes rs).search lang (.tag tag) = [] :=
        List.eq_nil_iff_forall_not_mem.2 fun r hr => hsome ⟨r, (mem_search_tag _ htagLow).1 hr⟩
      have hperm := recipesWithTag_perm rs lang htagLow
      rw [hnone] at hperm
      exact .inr ⟨hnone, hperm.eq_nil⟩

open Recipe in
/-- The soup that is taken is hot twice and a soup once. -/
theorem mostCommonTags_counts_onionSoups :
    IsLoaded (filled onionSoups).1 ∧ CountsTag (filled onionSoups).1 "en" "hot" 2 ∧
      CountsTag (filled onionSoups).1 "en" "soup" 1 := by
  have hloaded : IsLoaded (filled onionSoups).1 :=
    ⟨onionSoups, fun _ => isLoaded_of_mem_onionSoups, rfl⟩
  obtain ⟨-, -, hcounts, -⟩ := mostCommonTags_counts hloaded "en"
  have huses : ∀ use ∈ [("hot", 2), ("soup", 1)],
      (∃ r ∈ (firsts onionSoups).filter (·.lang = "en"), use.1 ∈ r.metadata.tags) ∧
        ((uses (firsts onionSoups) "en").filter (·.1 = use.1)).length = use.2 := by
    decide +kernel
  have hshown : ∀ use ∈ [("hot", 2), ("soup", 1)], use ∈ (filled onionSoups).1.tagsByUse "en" :=
    fun use huse => by
      rw [filled_eq_firsts, mem_tagsByUse]
      exact huses use huse
  exact ⟨hloaded, hcounts _ _ (hshown _ (by simp)), hcounts _ _ (hshown _ (by simp))⟩

/-- A folder with one soup, which is warm twice. -/
def warmFolder : FileTree :=
  ⟨[(["soup.en.recipe"], .file "name Soup\nserves 2\ntags warm, warm\n".toUTF8)]⟩

/-- A repeated tag counts twice, and its recipe is listed twice, where a search finds one. -/
theorem warmFolder_counts_twice : ∃ l report, load "recipes" (some warmFolder) = .ok (l, report) ∧
    l.mostCommonTags "en" 10 = [("warm", 2)] ∧
    (l.search "en" (.tag "warm")).map Recipe.id = ["soup"] ∧
    (l.recipesWithTag "en" "warm").map Recipe.id = ["soup", "soup"] := by
  refine ⟨_, _, rfl, ?_⟩
  have hwalk : warmFolder.walk = warmFolder.entries.map fun e => .file e.1 (.bytes
      "name Soup\nserves 2\ntags warm, warm\n".toUTF8) := by
    rw [FileTree.walk, warmFolder, List.mergeSort_singleton]
    rfl
  have huses : ((loadEntries "recipes" warmFolder.walk).library.tagCounts.find? "en").getD [] =
      [("warm", 2)] := by
    rw [hwalk]
    decide +kernel
  have hfound : (((loadEntries "recipes" warmFolder.walk).library.recipes "en").filter
      (Query.tag "warm").isMatch).map Recipe.id = ["soup"] := by
    simp only [hwalk, Query.isMatch]
    decide +kernel
  refine ⟨?_, List.perm_singleton.1 ?_, ?_⟩
  · rw [mostCommonTags, tagsByUse, huses, List.mergeSort_singleton, List.take_of_length_le (by decide)]
  · rw [← hfound]
    exact (List.mergeSort_perm _ _).map Recipe.id
  · rw [hwalk]
    decide +kernel

end RecipeBook.Library
