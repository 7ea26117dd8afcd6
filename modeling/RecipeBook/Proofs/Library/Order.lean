import Mathlib.Data.List.Perm.Basic
import RecipeBook.Proofs.Index.Lookup
import RecipeBook.Proofs.Library.Search

/-!
# The order in which recipes are added

Recipes of which no two have the same identifier and language can be added in any order, and the
library then answers alike (`Alike`). The indexes by identifier and of the numbers of uses come out
the same, because a sorted index is determined by what is found in it; the lists under a language or
a tag come out in the order of the recipes (`byLanguage_of_perm`). Sorting by name leaves only recipes
of one name in that order. Tags and their numbers of uses are kept in no order that an answer could
show: that the entries stand in another one changes nothing (`Reordered`).
-/

namespace RecipeBook.Library

/-- The same recipes in the same order, but for that of recipes of one name. -/
def SameButForTies (xs ys : List Recipe) : Prop :=
  xs.Perm ys ∧ xs.map Recipe.name = ys.map Recipe.name

/-- The libraries give the same answers, up to the order of the recipes where none is promised. -/
structure Alike (l l' : Library) : Prop where
  get?_eq : ∀ s, l.get? s = l'.get? s
  size_eq : l.size = l'.size
  languages_eq : l.languages = l'.languages
  hasLanguage_eq : ∀ lang, l.hasLanguage lang = l'.hasLanguage lang
  defaultLanguage_eq : l.defaultLanguage = l'.defaultLanguage
  tagCount_eq : l.tagCount = l'.tagCount
  mostCommonTags_eq : ∀ lang limit, l.mostCommonTags lang limit = l'.mostCommonTags lang limit
  recipes_perm : ∀ lang, (l.recipes lang).Perm (l'.recipes lang)
  recipesWithTag_perm : ∀ lang tag, (l.recipesWithTag lang tag).Perm (l'.recipesWithTag lang tag)
  relatedWarnings_perm : l.relatedWarnings.Perm l'.relatedWarnings
  listing_same : ∀ lang, SameButForTies (l.listing lang) (l'.listing lang)
  search_same : ∀ lang q, SameButForTies (l.search lang q) (l'.search lang q)

/-- The library with the entries in another order where they are kept in none: the languages of the
two indexes of tags, and the tags of a language with their numbers of uses. -/
structure Reordered (l l' : Library) : Prop where
  byId_eq : l'.byId = l.byId
  byLanguage_eq : l'.byLanguage = l.byLanguage
  byTag_perm : l'.byTag.Perm l.byTag
  tagCounts_perm : ∃ m : Index (Index Nat), l'.tagCounts.Perm m ∧
    List.Forall₂ (fun p q => p.1 = q.1 ∧ p.2.Perm q.2) m l.tagCounts

theorem Reordered.refl (l : Library) : Reordered l l where
  byId_eq := rfl
  byLanguage_eq := rfl
  byTag_perm := .refl _
  tagCounts_perm := ⟨l.tagCounts, .refl _, List.forall₂_same.2 fun _ _ => ⟨rfl, .refl _⟩⟩

variable {rs rs' : List Recipe} {l l' k k' : Library}

/-! ### The indexes -/

theorem option_eq_of_getD_eq {α : Type} {o o' : Option α} {d : α} (hsome : o.isSome = o'.isSome)
    (hgetD : o.getD d = o'.getD d) : o = o' := by
  cases o <;> cases o' <;> simp_all

theorem eq_nil_iff_of_perm {α : Type} {xs ys : List α} (h : xs.Perm ys) : xs = [] ↔ ys = [] := by
  rw [← List.length_eq_zero_iff, h.length_eq, List.length_eq_zero_iff]

/-- As no two recipes have the same identifier and language, the editions do not compete. -/
theorem byId_of_perm (h : rs.Perm rs') (hrs : (rs.map Recipe.edition).Nodup) :
    (ofRecipes rs).byId = (ofRecipes rs').byId := by
  have hrs' : (rs'.map Recipe.edition).Nodup := (h.map Recipe.edition).nodup_iff.1 hrs
  refine (sorted_byId rs).ext (sorted_byId rs') fun id => option_eq_of_getD_eq (d := []) ?_ ?_
  · rw [Bool.eq_iff_iff, find?_byId_isSome, find?_byId_isSome]
    exact exists_congr fun r => and_congr_left' h.mem_iff
  · refine (sorted_editions rs id).ext (sorted_editions rs' id) fun lang => Option.ext fun r => ?_
    rw [find?_editions_eq_some hrs, find?_editions_eq_some hrs', h.mem_iff]

theorem byLanguage_of_perm (h : rs.Perm rs') : List.Forall₂ (fun p q => p.1 = q.1 ∧ p.2.Perm q.2)
    (ofRecipes rs).byLanguage (ofRecipes rs').byLanguage := by
  refine (sorted_byLanguage rs).forall₂ (sorted_byLanguage rs') fun lang => ?_
  have hfilter : (rs.filter (·.lang = lang)).Perm (rs'.filter (·.lang = lang)) := h.filter _
  rw [find?_byLanguage, find?_byLanguage]
  by_cases hnil : rs.filter (·.lang = lang) = []
  · rw [if_pos hnil, if_pos ((eq_nil_iff_of_perm hfilter).1 hnil)]
    exact .none
  · rw [if_neg hnil, if_neg (mt (eq_nil_iff_of_perm hfilter).2 hnil)]
    exact .some hfilter

theorem sorted_byTag (rs : List Recipe) : (ofRecipes rs).byTag.Sorted := by
  rw [byTag_ofRecipes]
  exact Index.sorted_collected _ _ _ _

theorem sorted_tagCounts (rs : List Recipe) : (ofRecipes rs).tagCounts.Sorted := by
  rw [tagCounts_ofRecipes]
  exact Index.sorted_collected _ _ _ _

theorem uses_perm (h : rs.Perm rs') (lang : String) : (uses rs lang).Perm (uses rs' lang) :=
  (h.filter _).flatMap_right _

theorem tagCounts_of_perm (h : rs.Perm rs') : (ofRecipes rs).tagCounts = (ofRecipes rs').tagCounts := by
  refine (sorted_tagCounts rs).ext (sorted_tagCounts rs') fun lang =>
    option_eq_of_getD_eq (d := []) ?_ ?_
  · rw [Bool.eq_iff_iff, ← (sorted_tagCounts rs).mem_keys_iff, ← (sorted_tagCounts rs').mem_keys_iff,
      tagCounts_ofRecipes, tagCounts_ofRecipes, Index.mem_keys_collected, Index.mem_keys_collected]
    exact exists_congr fun r => and_congr_left' h.mem_iff
  · rw [getD_find?_tagCounts, getD_find?_tagCounts]
    refine (Index.sorted_collected _ _ _ _).ext (Index.sorted_collected _ _ _ _) fun tag => ?_
    have hfilter : ((uses rs lang).filter (·.1 = tag)).Perm ((uses rs' lang).filter (·.1 = tag)) :=
      (uses_perm h lang).filter _
    rw [Index.find?_collected, Index.find?_collected, List.foldl_add_const, List.foldl_add_const,
      hfilter.length_eq]
    simp only [eq_nil_iff_of_perm hfilter]

/-! ### Answers from related indexes -/

theorem perm_flatMap_of_forall₂ {α β γ : Type} {f : α → List γ} {g : β → List γ} {as : List α}
    {bs : List β} (h : List.Forall₂ (fun a b => (f a).Perm (g b)) as bs) :
    (as.flatMap f).Perm (bs.flatMap g) := by
  induction h with
  | nil => exact .nil
  | cons hab _ ih =>
    rw [List.flatMap_cons, List.flatMap_cons]
    exact hab.append ih

theorem relatedWarnings_perm (hid : l.byId = l'.byId)
    (hlang : List.Forall₂ (fun p q => p.1 = q.1 ∧ p.2.Perm q.2) l.byLanguage l'.byLanguage) :
    l.relatedWarnings.Perm l'.relatedWarnings := by
  have hwarning : ∀ lang r related,
      l.relatedWarning? lang r related = l'.relatedWarning? lang r related :=
    fun lang r related => by rw [relatedWarning?, relatedWarning?, hid]
  refine perm_flatMap_of_forall₂ (hlang.imp fun p q hpq => ?_)
  obtain ⟨lang, rs⟩ := p
  obtain ⟨lang', rs'⟩ := q
  obtain ⟨rfl, hperm⟩ := hpq
  simp only [hwarning]
  exact hperm.flatMap_right _

theorem map_eq_of_forall₂ {α β γ : Type} {f : α → γ} {g : β → γ} {as : List α} {bs : List β}
    (h : List.Forall₂ (fun a b => f a = g b) as bs) : as.map f = bs.map g := by
  induction h with
  | nil => rfl
  | cons hab _ ih => rw [List.map_cons, List.map_cons, hab, ih]

theorem languages_eq_of_forall₂
    (h : List.Forall₂ (fun p q => p.1 = q.1 ∧ p.2.Perm q.2) l.byLanguage l'.byLanguage) :
    l.languages = l'.languages :=
  map_eq_of_forall₂ (h.imp fun _ _ hpq => Prod.ext hpq.1 hpq.2.length_eq)

theorem perm_getD_of_rel {α : Type} {o o' : Option (List α)} (h : Option.Rel List.Perm o o') :
    (o.getD []).Perm (o'.getD []) := by
  cases h with
  | none => exact .nil
  | some hperm => exact hperm

theorem recipes_perm_of_forall₂
    (h : List.Forall₂ (fun p q => p.1 = q.1 ∧ p.2.Perm q.2) l.byLanguage l'.byLanguage)
    (lang : String) : (l.recipes lang).Perm (l'.recipes lang) :=
  perm_getD_of_rel (Index.find?_rel_of_forall₂ h lang)

theorem sameButForTies_sortByName (h : rs.Perm rs') :
    SameButForTies (sortByName rs) (sortByName rs') := by
  have hperm : (sortByName rs).Perm (sortByName rs') :=
    (List.mergeSort_perm _ _).trans (h.trans (List.mergeSort_perm _ _).symm)
  have hsorted : ∀ rs, ((sortByName rs).map Recipe.name).Pairwise (· ≤ ·) := fun rs =>
    List.pairwise_map.2 ((List.pairwise_mergeSort nameLE_trans nameLE_total rs).imp of_decide_eq_true)
  exact ⟨hperm, (hperm.map Recipe.name).eq_of_pairwise (fun _ _ _ _ => String.le_antisymm)
    (hsorted rs) (hsorted rs')⟩

/-- The tag `a` with its number of uses goes before `b` or is the same. -/
def useLE (a b : String × Nat) : Bool := b.2 < a.2 || (a.2 == b.2 && decide (a.1 ≤ b.1))

theorem useLE_iff {a b : String × Nat} : useLE a b ↔ b.2 < a.2 ∨ a.2 = b.2 ∧ a.1 ≤ b.1 := by
  simp [useLE]

theorem useLE_trans (a b c : String × Nat) (hab : useLE a b) (hbc : useLE b c) : useLE a c := by
  rw [useLE_iff] at hab hbc ⊢
  rcases hab with hab | ⟨hab, hab'⟩
  · left; omega
  · rcases hbc with hbc | ⟨hbc, hbc'⟩
    · left; omega
    · exact .inr ⟨hab.trans hbc, String.le_trans hab' hbc'⟩

theorem useLE_total (a b : String × Nat) : useLE a b || useLE b a := by
  rw [Bool.or_eq_true, useLE_iff, useLE_iff]
  rcases Nat.lt_trichotomy a.2 b.2 with h | h | h
  · exact .inr (.inl h)
  · exact (String.le_total a.1 b.1).imp (fun hle => .inr ⟨h, hle⟩) fun hle => .inr ⟨h.symm, hle⟩
  · exact .inl (.inl h)

theorem useLE_antisymm (a b : String × Nat) (hab : useLE a b) (hba : useLE b a) : a = b := by
  rw [useLE_iff] at hab hba
  have heq : a.2 = b.2 := by omega
  have hle : a.1 ≤ b.1 := (hab.resolve_left (by omega)).2
  have hge : b.1 ≤ a.1 := (hba.resolve_left (by omega)).2
  exact Prod.ext (String.le_antisymm hle hge) heq

theorem tagsByUse_eq_of_perm {lang : String}
    (h : ((l.tagCounts.find? lang).getD []).Perm ((l'.tagCounts.find? lang).getD [])) :
    l.tagsByUse lang = l'.tagsByUse lang :=
  mergeSort_eq_of_perm useLE_trans useLE_total useLE_antisymm h

/-- It is enough that the libraries hold the same under every key. -/
theorem alike_of_indexes (hid : l.byId = l'.byId)
    (hlang : List.Forall₂ (fun p q => p.1 = q.1 ∧ p.2.Perm q.2) l.byLanguage l'.byLanguage)
    (htag : ∀ lang tag, (l.recipesWithTag lang tag).Perm (l'.recipesWithTag lang tag))
    (huses : ∀ lang, ((l.tagCounts.find? lang).getD []).Perm ((l'.tagCounts.find? lang).getD []))
    (hcount : l.tagCount = l'.tagCount) : Alike l l' where
  get?_eq s := by rw [get?, get?, hid]
  size_eq := by rw [size, size, hid]
  languages_eq := languages_eq_of_forall₂ hlang
  hasLanguage_eq lang := Index.isSome_eq_of_rel (Index.find?_rel_of_forall₂ hlang lang)
  defaultLanguage_eq := by rw [defaultLanguage, defaultLanguage, languages_eq_of_forall₂ hlang]
  tagCount_eq := hcount
  mostCommonTags_eq lang limit := by
    rw [mostCommonTags, mostCommonTags, tagsByUse_eq_of_perm (huses lang)]
  recipes_perm := recipes_perm_of_forall₂ hlang
  recipesWithTag_perm := htag
  relatedWarnings_perm := relatedWarnings_perm hid hlang
  listing_same lang := sameButForTies_sortByName ((recipes_perm_of_forall₂ hlang lang).filter _)
  search_same lang _ := sameButForTies_sortByName ((recipes_perm_of_forall₂ hlang lang).filter _)

/-! ### Entries in another order -/

namespace Reordered

theorem recipesWithTag_eq (h : Reordered l k) (hl : l.byTag.Sorted) (lang tag : String) :
    k.recipesWithTag lang tag = l.recipesWithTag lang tag := by
  rw [recipesWithTag, recipesWithTag, Index.find?_eq_of_perm h.byTag_perm hl.nodup_keys]

theorem uses_perm (h : Reordered l k) (hl : l.tagCounts.Sorted) (lang : String) :
    ((k.tagCounts.find? lang).getD []).Perm ((l.tagCounts.find? lang).getD []) := by
  obtain ⟨m, hm, hrel⟩ := h.tagCounts_perm
  have hkeys : m.keys = l.tagCounts.keys := map_eq_of_forall₂ (hrel.imp fun _ _ hpq => hpq.1)
  rw [Index.find?_eq_of_perm hm (hkeys ▸ hl.nodup_keys)]
  exact perm_getD_of_rel (Index.find?_rel_of_forall₂ hrel lang)

theorem tagCount_eq (h : Reordered l k) : k.tagCount = l.tagCount := by
  obtain ⟨m, hm, hrel⟩ := h.tagCounts_perm
  have hlengths : m.map (fun p => p.2.length) = l.tagCounts.map fun p => p.2.length :=
    map_eq_of_forall₂ (hrel.imp fun _ _ hpq => hpq.2.length_eq)
  simp only [tagCount, Index.values, List.map_map, Function.comp_def]
  rw [← hlengths]
  exact (hm.map _).foldl_eq 0

end Reordered

/-! ### Recipes in another order -/

theorem foldlM_insert (hrs : (rs.map Recipe.edition).Nodup) :
    rs.foldlM insert empty = .ok (ofRecipes rs) := by
  induction rs using List.reverseRecOn with
  | nil => rfl
  | append_singleton rs r ih =>
    rw [List.map_append, List.map_singleton, nodup_concat_iff] at hrs
    have hinsert : (ofRecipes rs).insert r = .ok (ofRecipes (rs ++ [r])) := by
      simp only [insert, offer_ofRecipes_of_not_mem hrs.1]
    exact StepGraph.Scan.foldlM_concat_eq_ok_iff.2 ⟨_, ih hrs.2, hinsert⟩

/-- Recipes of which no two have the same identifier and language are all taken, in whatever order
they are added, and the libraries answer alike, in whatever order they keep what has none. -/
theorem alike_of_perm (h : rs.Perm rs') (hrs : (rs.map Recipe.edition).Nodup) :
    ∃ l l', rs.foldlM insert empty = .ok l ∧ rs'.foldlM insert empty = .ok l' ∧
      ∀ k k', Reordered l k → Reordered l' k' → Alike k k' := by
  have hrs' : (rs'.map Recipe.edition).Nodup := (h.map Recipe.edition).nodup_iff.1 hrs
  refine ⟨ofRecipes rs, ofRecipes rs', foldlM_insert hrs, foldlM_insert hrs', fun k k' hk hk' => ?_⟩
  refine alike_of_indexes ?_ ?_ (fun lang tag => ?_) (fun lang => ?_) ?_
  · rw [hk.byId_eq, hk'.byId_eq, byId_of_perm h hrs]
  · rw [hk.byLanguage_eq, hk'.byLanguage_eq]
    exact byLanguage_of_perm h
  · rw [hk.recipesWithTag_eq (sorted_byTag rs), hk'.recipesWithTag_eq (sorted_byTag rs'),
      recipesWithTag_ofRecipes, recipesWithTag_ofRecipes]
    exact (h.filter _).flatMap_right _
  · refine (hk.uses_perm (sorted_tagCounts rs) lang).trans ?_
    rw [tagCounts_of_perm h]
    exact (hk'.uses_perm (sorted_tagCounts rs') lang).symm
  · rw [hk.tagCount_eq, hk'.tagCount_eq, tagCount, tagCount, tagCounts_of_perm h]

/-- Two recipes of one name, and an edition of the first in another language. -/
def breads : List Recipe :=
  [(⟨"rye", "en", "rye.en.recipe"⟩, "name Bread\nserves 8\ntags Dark, baking\nrelated wheat, butter\n"),
    (⟨"wheat", "en", "wheat.en.recipe"⟩, "name Bread\nserves 6\ntags baking, light\n"),
    (⟨"rye", "de", "rye.de.recipe"⟩, "name Brot\nserves 8\nrelated wheat\n")].filterMap
    fun (source, text) => (Document.read source text).toOption

theorem alike_of_perm_breads :
    breads.Perm breads.reverse ∧
      breads.map Recipe.edition = [("rye", "en"), ("wheat", "en"), ("rye", "de")] ∧
      ∃ l l', breads.foldlM insert empty = .ok l ∧ breads.reverse.foldlM insert empty = .ok l' ∧
        ∀ k k', Reordered l k → Reordered l' k' → Alike k k' := by
  have heditions : breads.map Recipe.edition = [("rye", "en"), ("wheat", "en"), ("rye", "de")] := by
    decide +kernel
  have hperm : breads.Perm breads.reverse := (List.reverse_perm breads).symm
  exact ⟨hperm, heditions, alike_of_perm hperm (by rw [heditions]; decide)⟩

end RecipeBook.Library
