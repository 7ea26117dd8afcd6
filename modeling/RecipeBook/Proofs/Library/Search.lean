import RecipeBook.Proofs.Library.Indexes
import RecipeBook.Proofs.Query.Holds
import RecipeBook.Proofs.StableSort
import RecipeBook.Query.Read

/-!
# What a search finds

A search keeps the recipes of a language that match and sorts them by name. As the sort is stable,
recipes of one name stay in the order in which they were taken, and a longer query finds a part of
what a shorter one does, in the same order.
-/

namespace RecipeBook.Library

variable {rs : List Recipe} {r : Recipe} {lang : String}

theorem nameLE_trans : ∀ a b c : Recipe, decide (a.name ≤ b.name) → decide (b.name ≤ c.name) →
    decide (a.name ≤ c.name) := by
  intro a b c hab hbc
  simp only [decide_eq_true_eq] at hab hbc ⊢
  exact String.le_trans hab hbc

theorem nameLE_total : ∀ a b : Recipe, decide (a.name ≤ b.name) || decide (b.name ≤ a.name) := by
  intro a b
  simp only [Bool.or_eq_true, decide_eq_true_eq]
  exact String.le_total a.name b.name

theorem mem_sortByName : r ∈ sortByName rs ↔ r ∈ rs := List.mem_mergeSort

theorem filter_sortByName (p : Recipe → Bool) (rs : List Recipe) :
    (sortByName rs).filter p = sortByName (rs.filter p) :=
  filter_mergeSort nameLE_trans nameLE_total p rs

theorem pairwise_sortByName (rs : List Recipe) : (sortByName rs).Pairwise fun a b =>
    a.name < b.name ∨ a.name = b.name ∧ [a, b].Sublist rs := by
  refine (pairwise_mergeSort_stable nameLE_trans nameLE_total rs).imp fun {a b} ⟨hle, hstable⟩ => ?_
  have hab : a.name ≤ b.name := of_decide_eq_true hle
  by_cases hba : b.name ≤ a.name
  · exact .inr ⟨String.le_antisymm hab hba, hstable (decide_eq_true hba)⟩
  · exact .inl (String.not_le.1 hba)

theorem mem_search_ofRecipes {q : Query} : r ∈ (ofRecipes rs).search lang q ↔
    r ∈ rs ∧ r.lang = lang ∧ q.isMatch r := by
  rw [search, mem_sortByName, recipes_ofRecipes, List.mem_filter, List.mem_filter, decide_eq_true_iff,
    and_assoc]

/-- In one language, recipes with different identifiers and languages differ in their identifiers. -/
theorem nodup_search_ofRecipes (hrs : (rs.map Recipe.edition).Nodup) (lang : String) (q : Query) :
    (((ofRecipes rs).search lang q).map Recipe.id).Nodup := by
  have hperm : ((ofRecipes rs).search lang q).Perm (((ofRecipes rs).recipes lang).filter q.isMatch) :=
    List.mergeSort_perm _ _
  rw [(hperm.map Recipe.id).nodup_iff, recipes_ofRecipes]
  have hpair : ((rs.filter (·.lang = lang)).filter q.isMatch).Pairwise fun a b =>
      a.edition ≠ b.edition :=
    (List.pairwise_map.1 hrs).sublist (List.filter_sublist.trans List.filter_sublist)
  refine List.pairwise_map.2 (hpair.imp_of_mem fun {a b} ha hb hne hid => hne ?_)
  have hlang : ∀ {r}, r ∈ (rs.filter (·.lang = lang)).filter q.isMatch → r.lang = lang :=
    fun hr => of_decide_eq_true (List.mem_filter.1 (List.mem_of_mem_filter hr)).2
  exact Prod.ext hid ((hlang ha).trans (hlang hb).symm)

theorem search_append (l : Library) (lang : String) (cs cs' : List Query) :
    l.search lang (.all (cs ++ cs')) =
      (l.search lang (.all cs)).filter fun r => (Query.all cs').isMatch r := by
  rw [search, search, filter_sortByName, List.filter_filter]
  refine congrArg sortByName (List.filter_congr fun r _ => ?_)
  rw [Bool.eq_iff_iff, Bool.and_eq_true, Query.isMatch_all, Query.isMatch_all, Query.isMatch_all]
  simp only [List.mem_append, or_imp, forall_and, and_comm]

theorem listing_eq_filter_search (l : Library) (lang : String) :
    l.listing lang = (l.search lang (.all [])).filter fun r => !r.metadata.hideFromAll := by
  have hall : ∀ r : Recipe, (Query.all []).isMatch r = true := fun r =>
    Query.isMatch_all.2 fun _ hq => absurd hq List.not_mem_nil
  rw [listing, search, filter_sortByName]
  simp only [hall, List.filter_true]

/-- What searches in a library find, if the given recipes are the ones it took, in order. -/
structure Finds (l : Library) (rs : List Recipe) (lang : String) : Prop where
  nodup : ∀ q, ((l.search lang q).map Recipe.id).Nodup
  mem_iff : ∀ s r, r ∈ l.search lang (.read s) ↔
    r ∈ rs ∧ r.lang = lang ∧ ∀ c ∈ Query.clauses s.toList, c.Holds r
  /-- By name, and those of one name as they were taken. -/
  ordered : ∀ q, (l.search lang q).Pairwise fun a b =>
    a.name < b.name ∨ a.name = b.name ∧ [a, b].Sublist rs
  search_append : ∀ cs cs', l.search lang (.all (cs ++ cs')) =
    (l.search lang (.all cs)).filter fun r => (Query.all cs').isMatch r
  listing_eq : l.listing lang =
    (l.search lang (.all [])).filter fun r => !r.metadata.hideFromAll

theorem finds_filled {offers : List Recipe} (h : ∀ r ∈ offers, r.IsLoaded) (lang : String) :
    Finds (filled offers).1 (filled offers).2 lang := by
  rw [filled_eq_firsts]
  have hloaded : ∀ r ∈ firsts offers, r.IsLoaded := fun r hr => h r ((firsts_sublist offers).subset hr)
  refine ⟨nodup_search_ofRecipes (nodup_firsts offers) lang, fun s r => ?_, fun q => ?_,
    search_append _ lang, listing_eq_filter_search _ lang⟩
  · rw [mem_search_ofRecipes, Query.read]
    refine and_congr_right fun hr => and_congr_right fun _ => ?_
    rw [Query.isMatch_iff_holds (hloaded r hr), Query.holds_all]
  · refine (pairwise_sortByName _).imp fun hab => hab.imp_right fun ⟨hname, hsub⟩ => ⟨hname, ?_⟩
    rw [recipes_ofRecipes] at hsub
    exact hsub.trans (List.filter_sublist.trans List.filter_sublist)

open Recipe in
theorem finds_filled_onionSoups :
    onionSoups.map (fun r => (r.name, r.hasIngredient "Onions")) =
        [("Onion soup", true), ("Quick soup", false), ("Zwiebelsuppe", false)] ∧
      Finds (filled onionSoups).1 (filled onionSoups).2 "en" :=
  ⟨by decide +kernel, finds_filled (fun _ => isLoaded_of_mem_onionSoups) "en"⟩

end RecipeBook.Library
