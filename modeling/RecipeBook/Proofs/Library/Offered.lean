import RecipeBook.Library
import RecipeBook.Proofs.FirstOccurrence
import RecipeBook.Proofs.Index.Collected

/-!
# Recipes offered to a library

However many recipes have been offered to a library, it is the library of those that it took
(`filled_eq_firsts`): every index is what the taken recipes make of it, and a refused one leaves no trace,
because the entry that is made for its identifier is already there. A recipe is refused exactly if
one with its identifier and language has been taken before (`offer_ofRecipes_of_mem`,
`offer_ofRecipes_of_not_mem`).
-/

namespace RecipeBook

/-- The identifier and the language, of which a library holds one recipe. -/
def Recipe.edition (r : Recipe) : String × String := (r.id, r.lang)

namespace Library

/-- The library with the given recipes in every index, in order. -/
def ofRecipes (rs : List Recipe) : Library := rs.foldl added empty

/-- The recipes less those whose identifier and language come earlier. -/
def firsts (offers : List Recipe) : List Recipe :=
  offers.foldl (fun rs r => if r.edition ∈ rs.map Recipe.edition then rs else rs ++ [r]) []

/-- A library after one more recipe has been offered to it, and those that it took, in order. -/
def fill (s : Library × List Recipe) (r : Recipe) : Library × List Recipe :=
  match s.1.offer r with
  | (l, none) => (l, s.2 ++ [r])
  | (l, some _) => (l, s.2)

/-- An empty library after the recipes have been offered to it, and those that it took. -/
def filled (offers : List Recipe) : Library × List Recipe := offers.foldl fill (empty, [])

variable {rs offers : List Recipe} {r : Recipe} {id lang : String}

theorem ofRecipes_concat (rs : List Recipe) (r : Recipe) :
    ofRecipes (rs ++ [r]) = (ofRecipes rs).added r := by
  rw [ofRecipes, List.foldl_append, List.foldl_cons, List.foldl_nil, ofRecipes]

/-! ### Editions -/

theorem byId_ofRecipes (rs : List Recipe) : (ofRecipes rs).byId =
    Index.collected Recipe.id (fun r editions => Index.insert editions r.lang r) [] rs :=
  (List.foldl_hom byId fun _ _ => rfl).symm

theorem sorted_byId (rs : List Recipe) : (ofRecipes rs).byId.Sorted := by
  rw [byId_ofRecipes]
  exact Index.sorted_collected _ _ _ _

theorem find?_byId_isSome : ((ofRecipes rs).byId.find? id).isSome ↔ ∃ r ∈ rs, r.id = id := by
  rw [← (sorted_byId rs).mem_keys_iff, byId_ofRecipes, Index.mem_keys_collected]

theorem getD_find?_byId (rs : List Recipe) (id : String) :
    ((ofRecipes rs).byId.find? id).getD [] =
      (rs.filter (·.id = id)).foldl (fun editions r => Index.update r.lang (fun _ => r) editions) [] := by
  rw [byId_ofRecipes, Index.getD_find?_collected]
  rfl

theorem sorted_editions (rs : List Recipe) (id : String) :
    (((ofRecipes rs).byId.find? id).getD []).Sorted := by
  rw [getD_find?_byId]
  exact Index.sorted_nil.foldl_update _ _ _

theorem foldl_some_eq_getLast? (rs : List Recipe) :
    rs.foldl (fun _ r => some r) (none : Option Recipe) = rs.getLast? := by
  induction rs using List.reverseRecOn with
  | nil => rfl
  | append_singleton rs r _ => rw [List.foldl_append, List.getLast?_concat]; rfl

/-- The edition found last is the one that was put there last. -/
theorem find?_editions (rs : List Recipe) (id lang : String) :
    (((ofRecipes rs).byId.find? id).getD []).find? lang =
      (rs.filter (·.edition = (id, lang))).getLast? := by
  have hfilter : (rs.filter (·.id = id)).filter (·.lang = lang) =
      rs.filter (·.edition = (id, lang)) := by
    rw [List.filter_filter]
    exact List.filter_congr fun r _ => by simp [Recipe.edition, Bool.and_comm]
  rw [getD_find?_byId, Index.sorted_nil.find?_foldl_update, hfilter, Index.find?_nil,
    foldl_some_eq_getLast?]

theorem find?_editions_eq_none :
    (((ofRecipes rs).byId.find? id).getD []).find? lang = none ↔
      (id, lang) ∉ rs.map Recipe.edition := by
  rw [find?_editions, List.getLast?_eq_none_iff, List.filter_eq_nil_iff]
  simp [Recipe.edition]

theorem mem_of_find?_editions (h : (((ofRecipes rs).byId.find? id).getD []).find? lang = some r) :
    r ∈ rs ∧ r.edition = (id, lang) := by
  rw [find?_editions] at h
  have := List.mem_filter.1 (List.mem_of_getLast? h)
  exact ⟨this.1, of_decide_eq_true this.2⟩

/-- As no two recipes have the same identifier and language, all of them are found. -/
theorem find?_editions_eq_some (hrs : (rs.map Recipe.edition).Nodup) :
    (((ofRecipes rs).byId.find? id).getD []).find? lang = some r ↔
      r ∈ rs ∧ r.edition = (id, lang) := by
  refine ⟨mem_of_find?_editions, fun ⟨hr, he⟩ => ?_⟩
  cases hfind : (((ofRecipes rs).byId.find? id).getD []).find? lang with
  | none =>
    exact absurd (he ▸ List.mem_map_of_mem hr) (find?_editions_eq_none.1 hfind)
  | some r' =>
    obtain ⟨hr', he'⟩ := mem_of_find?_editions hfind
    rw [List.inj_on_of_nodup_map hrs hr' hr (he'.trans he.symm)]

/-! ### One more recipe -/

theorem opened_eq_self (h : ∃ r ∈ rs, r.id = id) : (ofRecipes rs).opened id = ofRecipes rs := by
  obtain ⟨editions, hfind⟩ := Option.isSome_iff_exists.1 (find?_byId_isSome.2 h)
  have hself := (sorted_byId rs).update_eq_self (f := fun editions => editions.getD []) hfind rfl
  rw [opened, hself]

theorem added_opened (l : Library) (r : Recipe) : (l.opened r.id).added r = l.added r := by
  simp only [added, opened, Index.update_update, Option.getD_some]

/-- What is found under the identifier does not depend on whether its entry has been made. -/
theorem find?_opened (rs : List Recipe) (id : String) :
    (((ofRecipes rs).opened id).byId.find? id).getD [] = ((ofRecipes rs).byId.find? id).getD [] := by
  rw [opened, (sorted_byId rs).find?_update, if_pos rfl, Option.getD_some]

theorem offer_ofRecipes_of_mem (h : r.edition ∈ rs.map Recipe.edition) :
    ∃ first ∈ rs, first.edition = r.edition ∧ (ofRecipes rs).offer r =
      (ofRecipes rs, some (.of (.duplicateRecipe r.id r.lang first.metadata.fileName))) := by
  have hid : ∃ r' ∈ rs, r'.id = r.id := by
    obtain ⟨r', hr', he⟩ := List.mem_map.1 h
    exact ⟨r', hr', (Prod.mk.inj he).1⟩
  cases hfind : (((ofRecipes rs).byId.find? r.id).getD []).find? r.lang with
  | none => exact absurd h (find?_editions_eq_none.1 hfind)
  | some first =>
    obtain ⟨hfirst, he⟩ := mem_of_find?_editions hfind
    refine ⟨first, hfirst, he, ?_⟩
    simp only [offer, hfind, opened_eq_self hid]

theorem offer_ofRecipes_of_not_mem (h : r.edition ∉ rs.map Recipe.edition) :
    (ofRecipes rs).offer r = (ofRecipes (rs ++ [r]), none) := by
  have hfind : (((ofRecipes rs).byId.find? r.id).getD []).find? r.lang = none :=
    find?_editions_eq_none.2 h
  simp only [offer, find?_opened, hfind, added_opened, ofRecipes_concat]

/-! ### Any number of recipes -/

theorem firsts_concat (offers : List Recipe) (r : Recipe) :
    firsts (offers ++ [r]) =
      if r.edition ∈ (firsts offers).map Recipe.edition then firsts offers
      else firsts offers ++ [r] := by
  rw [firsts, List.foldl_append, List.foldl_cons, List.foldl_nil, firsts]

theorem nodup_firsts (offers : List Recipe) : ((firsts offers).map Recipe.edition).Nodup := by
  induction offers using List.reverseRecOn with
  | nil => exact List.nodup_nil
  | append_singleton offers r ih =>
    rw [firsts_concat]
    split
    · exact ih
    · next h =>
      rw [List.map_append, List.map_singleton, nodup_concat_iff]
      exact ⟨h, ih⟩

theorem firsts_sublist (offers : List Recipe) : (firsts offers).Sublist offers := by
  induction offers using List.reverseRecOn with
  | nil => exact .slnil
  | append_singleton offers r ih =>
    rw [firsts_concat]
    split
    · exact ih.trans (List.sublist_append_left offers [r])
    · exact ih.append (.refl [r])

/-- What is offered is there, from then or from earlier. -/
theorem mem_map_edition_firsts {e : String × String} :
    e ∈ (firsts offers).map Recipe.edition ↔ e ∈ offers.map Recipe.edition := by
  induction offers using List.reverseRecOn with
  | nil => rfl
  | append_singleton offers r ih =>
    rw [firsts_concat, List.map_append, List.mem_append, ← ih, List.map_singleton,
      List.mem_singleton]
    split
    · next h => exact ⟨.inl, fun he => he.elim id fun he => he ▸ h⟩
    · rw [List.map_append, List.mem_append, List.map_singleton, List.mem_singleton]

theorem find?_firsts (offers : List Recipe) (edition : String × String) :
    (firsts offers).find? (·.edition = edition) = offers.find? (·.edition = edition) := by
  induction offers using List.reverseRecOn with
  | nil => rfl
  | append_singleton offers r ih =>
    rw [firsts_concat, List.find?_append, ← ih]
    split
    · next h =>
      obtain ⟨first, hfirst, he⟩ := List.mem_map.1 h
      by_cases hr : r.edition = edition
      · have hsome : ((firsts offers).find? (·.edition = edition)).isSome :=
          List.find?_isSome.2 ⟨first, hfirst, decide_eq_true (he.trans hr)⟩
        rw [Option.or_of_isSome hsome]
      · simp [hr]
    · rw [List.find?_append]

theorem find?_edition_eq_some (hrs : (rs.map Recipe.edition).Nodup) (hr : r ∈ rs) :
    rs.find? (·.edition = r.edition) = some r := by
  cases hfind : rs.find? (·.edition = r.edition) with
  | none => exact absurd (decide_eq_true rfl) (List.find?_eq_none.1 hfind r hr)
  | some r' =>
    have he : r'.edition = r.edition := by simpa using List.find?_some hfind
    rw [List.inj_on_of_nodup_map hrs (List.mem_of_find?_eq_some hfind) hr he]

theorem find?_edition_eq_none {edition : String × String} :
    offers.find? (·.edition = edition) = none ↔ edition ∉ offers.map Recipe.edition := by
  simp only [List.find?_eq_none, decide_eq_true_eq, List.mem_map, not_exists, not_and]

/-- An offer is refused because of the first recipe with the identifier and the language. -/
theorem offer_firsts (offers : List Recipe) (r : Recipe) : (ofRecipes (firsts offers)).offer r =
    match offers.find? (·.edition = r.edition) with
    | none => (ofRecipes (firsts offers ++ [r]), none)
    | some first => (ofRecipes (firsts offers),
        some (.of (.duplicateRecipe r.id r.lang first.metadata.fileName))) := by
  cases hfind : offers.find? (·.edition = r.edition) with
  | none =>
    rw [find?_edition_eq_none, ← mem_map_edition_firsts] at hfind
    exact offer_ofRecipes_of_not_mem hfind
  | some first =>
    have hmem : r.edition ∈ (firsts offers).map Recipe.edition := by
      rw [mem_map_edition_firsts]
      exact not_not.1 fun hnot => Option.some_ne_none first (hfind ▸ find?_edition_eq_none.2 hnot)
    obtain ⟨first', hfirst', he, hoffer⟩ := offer_ofRecipes_of_mem hmem
    have hfind' := find?_edition_eq_some (nodup_firsts offers) hfirst'
    rw [find?_firsts, he, hfind] at hfind'
    rw [hoffer, Option.some.inj hfind']

theorem fill_ofRecipes (rs : List Recipe) (r : Recipe) :
    fill (ofRecipes rs, rs) r =
      if r.edition ∈ rs.map Recipe.edition then (ofRecipes rs, rs)
      else (ofRecipes (rs ++ [r]), rs ++ [r]) := by
  split
  · next h =>
    obtain ⟨first, -, -, hoffer⟩ := offer_ofRecipes_of_mem h
    simp only [fill, hoffer]
  · next h => simp only [fill, offer_ofRecipes_of_not_mem h]

/-- A library is that of the recipes it has taken: the first with each identifier and language. -/
theorem filled_eq_firsts (offers : List Recipe) :
    filled offers = (ofRecipes (firsts offers), firsts offers) := by
  induction offers using List.reverseRecOn with
  | nil => rfl
  | append_singleton offers r ih =>
    rw [filled, List.foldl_append, List.foldl_cons, List.foldl_nil, ← filled, ih, fill_ofRecipes,
      firsts_concat]
    split
    · rfl
    · rfl

end Library
end RecipeBook
