import RecipeBook.Proofs.Library.Search
import RecipeBook.Proofs.Text.Trimmed

/-!
# The form of tags

Tags are looked up trimmed and in lower case. Tags that stand in a text with commas between them are
in that form (`isTag_of_mem_splitList`). An item of a list of the first generation is trimmed before
the commas at its ends are taken away, so that a blank character behind them stays
(`trimmed_tagOf_iff`); then the recipe is not found by the trimmed tag.
-/

namespace RecipeBook

/-- A tag in the form in which it is looked up. -/
structure IsTag (tag : String) : Prop where
  ne_empty : tag ≠ ""
  lowered_eq : lowered tag = tag
  trimmed_eq : trimmed tag = tag

/-- Less the blank characters at its ends, the item has a blank character behind the commas at its
front or before those at its end. -/
def HasLooseComma (item : String) : Prop :=
  ∃ commas c rest, (∀ a ∈ commas, a = ',') ∧ Text.isBlank c ∧
    (Text.trim item.toList = commas ++ c :: rest ∨ Text.trim item.toList = rest ++ c :: commas)

/-- Every library that takes the recipe finds it under a tag with the given text. -/
def Recipe.FoundBy (r : Recipe) (text : String) : Prop :=
  ∀ offers, r ∈ (Library.filled offers).2 →
    r ∈ (Library.filled offers).1.recipesWithTag r.lang text ∧
      r ∈ (Library.filled offers).1.search r.lang (.tag text)

/-! ### Tags in a text with commas -/

theorem isTag_of_mem_splitList {value tag : String} (h : tag ∈ splitList value) : IsTag tag := by
  obtain ⟨hmem, hne⟩ := List.mem_filter.1 h
  obtain ⟨text, -, rfl⟩ := List.mem_map.1 hmem
  exact ⟨of_decide_eq_true hne, lowered_nameKey _, trimmed_nameKey _⟩

/-! ### Items of a list -/

theorem ne_empty_of_mem_toTags {tags : OneOrMany} {tag : String} (h : tag ∈ tags.toTags) : tag ≠ "" := by
  cases tags with
  | one text => exact (isTag_of_mem_splitList h).ne_empty
  | many items => exact of_decide_eq_true (List.mem_filter.1 h).2

theorem find?_ne_comma_iff {s : List Char} :
    (∀ c ∈ s.find? (fun c => !decide (c = ',')), Text.isBlank c = false) ↔
      ∀ commas c rest, (∀ a ∈ commas, a = ',') → Text.isBlank c → s ≠ commas ++ c :: rest := by
  constructor
  · rintro h commas c rest hcommas hblank rfl
    have hc : c ≠ ',' := fun hc => by
      subst hc
      revert hblank
      decide
    have hfind : (commas ++ c :: rest).find? (fun c => !decide (c = ',')) = some c :=
      List.find?_eq_some_iff_append.2 ⟨by simpa using hc, commas, rest, rfl, by simpa using hcommas⟩
    rw [h c hfind] at hblank
    cases hblank
  · intro h c hfind
    obtain ⟨-, commas, rest, hs, hcommas⟩ := List.find?_eq_some_iff_append.1 hfind
    exact Bool.eq_false_iff.2 fun hblank => h commas c rest (by simpa using hcommas) hblank hs

/-- What commas enclose at the ends of a text is trimmed unless there is a blank character next to
them. -/
theorem isTrimmed_stripCommas_iff {s : List Char} : Text.IsTrimmed (stripCommas s) ↔
    ¬ ∃ commas c rest, (∀ a ∈ commas, a = ',') ∧ Text.isBlank c ∧
      (s = commas ++ c :: rest ∨ s = rest ++ c :: commas) := by
  have hstrip : stripCommas s = (s.dropWhile (· = ',')).rdropWhile (· = ',') := rfl
  rw [Text.IsTrimmed, hstrip, Text.head?_rdropWhile_dropWhile, Text.getLast?_rdropWhile_dropWhile,
    find?_ne_comma_iff, find?_ne_comma_iff]
  constructor
  · rintro ⟨hfront, hend⟩ ⟨commas, c, rest, hcommas, hblank, hs | hs⟩
    · exact hfront commas c rest hcommas hblank hs
    · exact hend commas.reverse c rest.reverse (by simpa using hcommas) hblank (by simp [hs])
  · refine fun h => ⟨fun commas c rest hcommas hblank hs => ?_, fun commas c rest hcommas hblank hs => ?_⟩
    · exact h ⟨commas, c, rest, hcommas, hblank, .inl hs⟩
    · have hs' : s = rest.reverse ++ c :: commas.reverse := by
        rw [← List.reverse_reverse s, hs]
        simp
      exact h ⟨commas.reverse, c, rest.reverse, by simpa using hcommas, hblank, .inr hs'⟩

theorem trimmed_tagOf_iff {item : String} :
    trimmed (OneOrMany.tagOf item) = OneOrMany.tagOf item ↔ ¬ HasLooseComma item := by
  rw [trimmed_eq_self_iff, OneOrMany.tagOf, String.toList_ofList, Text.isTrimmed_lower_iff,
    isTrimmed_stripCommas_iff, HasLooseComma]

theorem trimmed_toTags_iff {tags : OneOrMany} : (∀ tag ∈ tags.toTags, trimmed tag = tag) ↔
    ∀ items, tags = .many items → ∀ item ∈ items, ¬ HasLooseComma item := by
  cases tags with
  | one text => exact iff_of_true (fun tag htag => (isTag_of_mem_splitList htag).trimmed_eq) nofun
  | many items =>
    simp only [OneOrMany.many.injEq, forall_eq', ← trimmed_tagOf_iff]
    constructor
    · intro h item hitem
      by_cases hempty : OneOrMany.tagOf item = ""
      · rw [hempty]
        rfl
      · exact h _ (List.mem_filter.2 ⟨List.mem_map_of_mem hitem, decide_eq_true hempty⟩)
    · intro h tag htag
      obtain ⟨item, hitem, rfl⟩ := List.mem_map.1 (List.mem_of_mem_filter htag)
      exact h item hitem

/-! ### Tags of a header -/

theorem Document.tags_of_read {source : Source} {text : String} {r : Recipe}
    (h : read source text = .ok r) : r.metadata.tags = [] ∨ ∃ value, splitList value = r.metadata.tags := by
  obtain ⟨b, metadata, drafts, hb, -, hbuild, hassemble⟩ := exists_builder_of_read h
  obtain ⟨-, rfl⟩ := Recipe.assemble_eq_ok_iff.1 hassemble
  show metadata.tags = [] ∨ ∃ value, splitList value = metadata.tags
  rw [(Builder.build_eq_ok hbuild).2.2.1]
  cases htags : b.get? Entry.tags? with
  | none => exact .inl rfl
  | some tags => exact .inr (hb _ (Builder.tags_mem_of_get? htags))

namespace LegacyRecipe

variable {record : LegacyRecipe} {source : Document.Source} {r : Recipe}

theorem tags_of_metadata {m : Metadata} (h : record.metadata source = .ok m) :
    m.tags = (record.tags.map OneOrMany.toTags).getD [] := by
  rw [metadata] at h
  split at h
  · cases h
  · next b hadd =>
    have hentries : b.entries = record.entries := by
      rw [(Builder.addAll_eq_ok_iff.1 hadd).2]
      rfl
    rw [(Builder.build_eq_ok h).2.2.1]
    cases hget : b.get? Entry.tags? with
    | some list =>
      have hmem := Builder.tags_mem_of_get? hget
      rw [hentries] at hmem
      obtain ⟨tags, htags, rfl⟩ := tags_mem_entries.1 hmem
      rw [htags]
      rfl
    | none =>
      cases htags : record.tags with
      | none => rfl
      | some tags =>
        have hmem := tags_mem_entries.2 ⟨tags, htags, rfl⟩
        rw [← hentries] at hmem
        cases List.findSome?_eq_none_iff.1 hget _ hmem

theorem tags_of_toRecipe (h : record.toRecipe source = .ok r) :
    r.metadata.tags = (record.tags.map OneOrMany.toTags).getD [] := by
  rw [toRecipe] at h
  split at h
  · cases h
  · obtain ⟨m, hmetadata, hassemble⟩ := bind_eq_ok.1 h
    obtain ⟨-, rfl⟩ := Recipe.assemble_eq_ok_iff.1 hassemble
    exact tags_of_metadata hmetadata

theorem ne_empty_of_mem_tags (h : record.toRecipe source = .ok r) {tag : String}
    (htag : tag ∈ r.metadata.tags) : tag ≠ "" := by
  rw [tags_of_toRecipe h] at htag
  cases hrecord : record.tags with
  | none => simp [hrecord] at htag
  | some tags =>
    rw [hrecord] at htag
    exact ne_empty_of_mem_toTags htag

theorem trimmed_tags_iff (h : record.toRecipe source = .ok r) :
    (∀ tag ∈ r.metadata.tags, trimmed tag = tag) ↔
      ∀ items, record.tags = some (.many items) → ∀ item ∈ items, ¬ HasLooseComma item := by
  rw [tags_of_toRecipe h]
  cases record.tags with
  | none => simp
  | some tags =>
    simp only [Option.map_some, Option.getD_some, Option.some.injEq]
    exact trimmed_toTags_iff

end LegacyRecipe

/-! ### Recipes that are found -/

namespace Recipe

variable {r : Recipe} {text tag : String}

theorem foundBy_iff : r.FoundBy text ↔ lowered text ∈ r.metadata.tags := by
  constructor
  · intro h
    have hmem := (h [r] (by rw [Library.filled_eq_firsts]; exact List.mem_singleton_self r)).1
    rw [Library.filled_eq_firsts] at hmem
    exact (Library.mem_recipesWithTag_ofRecipes.1 hmem).2.2
  · intro h offers hr
    rw [Library.filled_eq_firsts] at hr ⊢
    refine ⟨Library.mem_recipesWithTag_ofRecipes.2 ⟨hr, rfl, h⟩,
      Library.mem_search_ofRecipes.2 ⟨hr, rfl, ?_⟩⟩
    rwa [Query.isMatch, hasTag_iff]

theorem foundBy_of_mem (htag : tag ∈ r.metadata.tags) (hform : IsTag tag) :
    r.FoundBy (trimmed tag) := by
  rwa [foundBy_iff, hform.trimmed_eq, hform.lowered_eq]

/-- Every tag of a document is in the form in which it is looked up, and so the recipe is found by it.
That holds of the tags of a record exactly if it has no list of tags in which a comma is loose. -/
theorem foundBy_tags_iff (source : Document.Source) (r : Recipe) :
    (∀ text, Document.read source text = .ok r →
      ∀ tag ∈ r.metadata.tags, IsTag tag ∧ r.FoundBy (trimmed tag)) ∧
    ∀ record : LegacyRecipe, record.toRecipe source = .ok r →
      (∀ tag ∈ r.metadata.tags, tag ≠ "" ∧ lowered tag = tag) ∧
      ((∀ tag ∈ r.metadata.tags, IsTag tag ∧ r.FoundBy (trimmed tag)) ↔
        ∀ items, record.tags = some (.many items) → ∀ item ∈ items, ¬ HasLooseComma item) := by
  constructor
  · intro text h tag htag
    have hform : IsTag tag := by
      rcases Document.tags_of_read h with hnil | ⟨value, hvalue⟩
      · rw [hnil] at htag
        cases htag
      · exact isTag_of_mem_splitList (hvalue ▸ htag)
    exact ⟨hform, foundBy_of_mem htag hform⟩
  · intro record h
    have hform : ∀ tag ∈ r.metadata.tags, tag ≠ "" ∧ lowered tag = tag := fun tag htag =>
      ⟨LegacyRecipe.ne_empty_of_mem_tags h htag,
        (IsLoaded.legacy source record h).sound.lowered_of_mem_tags tag htag⟩
    refine ⟨hform, ?_⟩
    rw [← LegacyRecipe.trimmed_tags_iff h]
    constructor
    · exact fun hall tag htag => (hall tag htag).1.trimmed_eq
    · intro htrim tag htag
      have htag' : IsTag tag := ⟨(hform tag htag).1, (hform tag htag).2, htrim tag htag⟩
      exact ⟨htag', foundBy_of_mem htag htag'⟩

theorem foundBy_tags_tea : ∃ record r,
    LegacyRecipe.ofBytes "name: Tea\nserves: 1\ntags: [Hot, ' Drink,']\n".toUTF8 = .ok record ∧
    record.toRecipe ⟨"tea", "en", "tea.en.yml"⟩ = .ok r ∧ r.metadata.tags = ["hot", "drink"] ∧
    ∀ tag ∈ ["hot", "drink"], r.FoundBy (trimmed tag) := by
  have hread : ((LegacyRecipe.ofBytes "name: Tea\nserves: 1\ntags: [Hot, ' Drink,']\n".toUTF8).toOption.bind
      fun record => (record.toRecipe ⟨"tea", "en", "tea.en.yml"⟩).toOption.map fun r =>
        (record.tags, r.metadata.tags)) = some (some (.many ["Hot", " Drink,"]), ["hot", "drink"]) := by
    decide +kernel
  obtain ⟨record, hrecord, hread⟩ := Option.bind_eq_some_iff.1 hread
  obtain ⟨r, hr, htags⟩ := Option.map_eq_some_iff.1 hread
  obtain ⟨hitems, htags⟩ := Prod.mk.inj htags
  have hr := toOption_eq_some.1 hr
  have hfine : ∀ items, record.tags = some (.many items) → ∀ item ∈ items, ¬ HasLooseComma item := by
    intro items h
    obtain rfl := OneOrMany.many.inj (Option.some.inj (hitems.symm.trans h))
    simp only [← trimmed_tagOf_iff]
    decide +kernel
  have hfound := ((foundBy_tags_iff _ r).2 record hr).2.2 hfine
  refine ⟨record, r, toOption_eq_some.1 hrecord, hr, htags, fun tag htag => ?_⟩
  exact (hfound tag (htags ▸ htag)).2

/-- The comma behind a blank character is taken away, and the blank character stays. -/
theorem not_foundBy_drink : ∃ r, LegacyRecipe.readBytes ⟨"tea", "en", "tea.en.yml"⟩
      "name: Tea\nserves: 1\ntags: ['Drink ,']\n".toUTF8 = .ok r ∧
    r.metadata.tags = ["drink "] ∧ trimmed "drink " = "drink" ∧ ¬ r.FoundBy "drink" := by
  have hread : (LegacyRecipe.readBytes ⟨"tea", "en", "tea.en.yml"⟩
      "name: Tea\nserves: 1\ntags: ['Drink ,']\n".toUTF8).toOption.map (·.metadata.tags) =
        some ["drink "] := by
    decide +kernel
  obtain ⟨r, hr, htags⟩ := Option.map_eq_some_iff.1 hread
  have hnot : lowered "drink" ∉ ["drink "] := by decide +kernel
  exact ⟨r, toOption_eq_some.1 hr, htags, by decide +kernel, by rwa [foundBy_iff, htags]⟩

end Recipe
end RecipeBook
