import RecipeBook.Proofs.Library.Order
import RecipeBook.Proofs.Library.Related
import RecipeBook.Proofs.Web.Fields
import RecipeBook.Proofs.Web.Respond

/-!
# The related recipes that a client is told

A client is told those related recipes of a recipe that there is an edition of, and a library warns of
the others: both look an identifier up, the one made again and the other as it stands. For recipes that
were loaded that is the same (`get?_of_mem_related`), and an edition is always found where there is an
entry, whatever the languages that are asked for (`ids_ofRecipe`).
-/

namespace RecipeBook

namespace Library

open Web (Relation)

/-- The related recipes of a recipe that the library does not warn of as unknown. -/
def knownRelated (l : Library) (r : Recipe) : List String :=
  r.metadata.related.filter fun related => !l.relatedWarnings.any (Warning.isUnknown r.id related)

/-- What a library tells of the related recipes of a recipe agrees with what it warns of. -/
structure TellsRelated (l : Library) (r : Recipe) : Prop where
  ids_eq : ∀ lang fallback, (Relation.ofRecipe l lang fallback r).map Relation.id = l.knownRelated r
  missing_iff : ∀ related, .missingEdition r.id related r.lang ∈ l.relatedWarnings ↔
    related ∈ r.metadata.related ∧ (∃ lang, l.HasEdition related lang) ∧ ¬ l.HasEdition related r.lang
  /-- Looking an identifier up as it stands and made again finds the same. -/
  get?_eq : ∀ related ∈ r.metadata.related, l.get? related = l.byId.find? related

variable {rs : List Recipe} {r : Recipe}

/-- An identifier is told exactly if it has an entry. -/
theorem map_id_relation (related lang fallback : String) :
    ((((ofRecipes rs).byId.find? related).bind fun e => e.choose? lang fallback).map
        fun other => (⟨related, other.name⟩ : Relation)).map Relation.id =
      Option.guard (fun related => ((ofRecipes rs).byId.find? related).isSome) related := by
  cases hfind : (ofRecipes rs).byId.find? related with
  | none => simp [Option.guard, hfind]
  | some editions =>
    obtain ⟨other, hchoose, -⟩ := exists_isChosen_of_byId hfind lang fallback
    simp [Option.guard, hfind, hchoose]

theorem ids_ofRecipe (hr : r.IsLoaded) (lang fallback : String) :
    (Relation.ofRecipe (ofRecipes rs) lang fallback r).map Relation.id =
      r.metadata.related.filter fun related => ((ofRecipes rs).byId.find? related).isSome := by
  rw [Relation.ofRecipe, List.map_filterMap, ← List.filterMap_eq_filter]
  refine List.filterMap_congr fun related hrelated => ?_
  rw [get?_of_mem_related _ hr hrelated, map_id_relation]

theorem tellsRelated_ofRecipes (hrs : (rs.map Recipe.edition).Nodup) (hr : r ∈ rs)
    (hloaded : r.IsLoaded) : (ofRecipes rs).TellsRelated r where
  ids_eq lang fallback := by
    rw [ids_ofRecipe hloaded, knownRelated]
    refine List.filter_congr fun related hrelated => ?_
    rw [Bool.eq_iff_iff, Bool.not_eq_true', ← Bool.not_eq_true, any_isUnknown_iff hr hrelated,
      not_not, exists_hasEdition_iff]
  missing_iff _ := missingEdition_mem_iff hrs hr
  get?_eq _ := get?_of_mem_related _ hloaded

end Library

namespace Web

open Library (breads filled ofRecipes)

variable {site : Site}

/-- A recipe is shown under its identifier in its language. -/
theorem Site.exists_detail?_of_mem {rs : List Recipe} {r : Recipe} (hsite : site.library = ofRecipes rs)
    (hrs : (rs.map Recipe.edition).Nodup) (hr : r ∈ rs) (hloaded : r.IsLoaded) (fallback : String) :
    ∃ d, site.detail? r.id r.lang fallback = some d ∧ d.recipe = r := by
  have hedition : (ofRecipes rs).HasEdition r.id r.lang :=
    ⟨r, Library.mem_recipes_ofRecipes.2 ⟨hr, rfl⟩, rfl⟩
  obtain ⟨editions, r', hfind, hchoose, hchosen⟩ :=
    Library.exists_isChosen ⟨r.lang, hedition⟩ r.lang fallback
  have hr' : r' = r :=
    List.inj_on_of_nodup_map hrs (Library.mem_recipes_ofRecipes.1 hchosen.mem).1 hr
      (Prod.ext hchosen.id_eq (hchosen.lang_eq hedition))
  have hget : site.library.get? r.id = some editions := by
    rw [Library.get?, hloaded.normalizeId_id, hsite, hfind]
  exact ⟨_, Site.detail?_eq_some.2 ⟨editions, r', hget, hchoose, rfl⟩, hr'⟩

/-- Of every recipe of a loaded library a client is told just those related recipes, in order, that
the library does not warn of as unknown, in whatever language the recipe is asked for. -/
theorem tells_known_related (h : site.library.IsLoaded) :
    (∀ lang, ∀ r ∈ site.library.recipes lang, site.library.TellsRelated r ∧
      ∀ fallback, ∃ d, site.detail? r.id lang fallback = some d ∧ d.recipe = r) ∧
    ∀ request id, request.Gets site.settings.bodyLimit (.recipe id) →
      (respond site request).status = 200 →
      ∃ (name : String) (d : Detail) (j : Json), Resource.decodeId? id = some name ∧
        (respond site request).body = .json j ∧ d.IsTold j ∧
        d.recipe ∈ site.library.recipes d.recipe.lang ∧ d.recipe.id = normalizeId name ∧
        d.related.map Relation.id = site.library.knownRelated d.recipe := by
  obtain ⟨rs, hsite, hloaded, hrs⟩ := h.exists_ofRecipes
  rw [hsite]
  refine ⟨fun lang r hr => ?_, fun request id hgets hstatus => ?_⟩
  · obtain ⟨hmem, rfl⟩ := Library.mem_recipes_ofRecipes.1 hr
    exact ⟨Library.tellsRelated_ofRecipes hrs hmem (hloaded r hmem),
      Site.exists_detail?_of_mem hsite hrs hmem (hloaded r hmem)⟩
  · rw [status_respond_of_gets hgets] at hstatus
    rw [body_respond_of_gets hgets]
    obtain ⟨name, lang, d, hid, hd, hbody⟩ := exists_detail_of_status hstatus
    obtain ⟨editions, r, hget, hchoose, rfl⟩ := Site.detail?_eq_some.1 hd
    rw [hsite, Library.get?] at hget
    obtain ⟨r', hchoose', hchosen⟩ :=
      Library.exists_isChosen_of_byId hget lang site.standardLanguage
    obtain rfl : r' = r := Option.some.inj (hchoose'.symm.trans hchoose)
    have hmem := (Library.mem_recipes_ofRecipes.1 hchosen.mem).1
    refine ⟨name, _, _, hid, hbody, View.isTold_detail _, hchosen.mem, hchosen.id_eq, ?_⟩
    rw [hsite]
    exact (Library.tellsRelated_ofRecipes hrs hmem (hloaded r' hmem)).ids_eq lang _

/-- A site with two recipes, of which one has editions in two languages. -/
def breadSite : Site where
  library := (filled breads).1
  folder := .top ⟨[]⟩
  changedAt := 0
  settings := ⟨"0.0.0.0", 8080, none, 100, 65536, "recipes", none, "Cookbook", none⟩
  loadedAt := "2024-01-01T00:00:00Z"

/-- A request for the target without headers. -/
def Request.plain (path : String) (query : Option String) : Request := ⟨"GET", ⟨"", path, query⟩, []⟩

theorem isLoaded_breadSite : breadSite.library.IsLoaded :=
  ⟨breads, fun _ => Recipe.isLoaded_of_mem_filterMap, rfl⟩

theorem mem_recipes_breadSite {r : Recipe} {lang : String}
    (h : r ∈ breadSite.library.recipes lang) : r ∈ breads ∧ r.lang = lang := by
  have hlibrary : breadSite.library = ofRecipes (Library.firsts breads) :=
    congrArg Prod.fst (Library.filled_eq_firsts breads)
  rw [hlibrary] at h
  exact (Library.mem_recipes_ofRecipes.1 h).imp_left fun hr => (Library.firsts_sublist breads).subset hr

/-- The library has wheat bread, which rye bread is related to, and no butter. -/
theorem tells_known_related_breads :
    breads.map (fun r => r.metadata.related) = [["wheat", "butter"], [], ["wheat"]] ∧
    ∃ j wheat, (respond breadSite (.plain "/api/recipes/Rye" none)).body = .json j ∧
      j.field? "id" = some (.text "rye") ∧
      j.field? "related" = some (.list [.object [("id", .text "wheat"), ("name", .text wheat)]]) := by
  have hgets : (Request.plain "/api/recipes/Rye" none).Gets breadSite.settings.bodyLimit
      (.recipe "Rye".toList) := ⟨rfl, by decide +kernel, by decide +kernel⟩
  have hstatus : (respond breadSite (.plain "/api/recipes/Rye" none)).status = 200 := by
    decide +kernel
  obtain ⟨name, d, j, hname, hbody, htold, hmem, hid, hrelated⟩ :=
    (tells_known_related isLoaded_breadSite).2 _ _ hgets hstatus
  obtain rfl : "Rye" = name :=
    Option.some.inj ((by decide +kernel : Resource.decodeId? "Rye".toList = some "Rye").symm.trans hname)
  have hrye : d.recipe.id = "rye" := hid.trans (by decide +kernel)
  have hknown : ∀ r ∈ breads, r.id = "rye" → breadSite.library.knownRelated r = ["wheat"] := by
    decide +kernel
  rw [hknown _ (mem_recipes_breadSite hmem).1 hrye, List.map_eq_singleton_iff] at hrelated
  obtain ⟨wheat, hwheat, hwheatId⟩ := hrelated
  refine ⟨by decide +kernel, j, wheat.name, hbody, ?_, ?_⟩
  · rw [htold.id, hrye]
  · rw [htold.related, hwheat, List.map_singleton, hwheatId]

end Web
end RecipeBook
