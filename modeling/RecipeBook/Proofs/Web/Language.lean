import RecipeBook.Proofs.Web.Related

/-!
# The language that a request is answered in

`Spoken` is the order in which a language is looked for: the one that a request names, or else the one
in its cookie, the configured one, and the library's own, where all but the first are passed over if
there are no recipes in them. A request is refused only if it names a language without recipes
(`Language.speaks_of_isFilled`). A recipe is shown in that language, or else in the language of a request
that says nothing, or else in any, and it is always shown in one (`answers_in_language`). The tags are
told in that language alone (`shows_tags_of_gets`, `shows_popularTags_of_gets`).
-/

namespace RecipeBook.Web

namespace Language

/-- The language of a request that names the first language, if any, and has the second in its
cookie. -/
inductive Spoken (l : Library) (configured : Option String) :
    Option String → Option String → String → Prop
  | named {cookie : Option String} {lang : String} (h : l.recipes lang ≠ []) :
    Spoken l configured (some lang) cookie lang
  | remembered {lang : String} (h : l.recipes lang ≠ []) : Spoken l configured none (some lang) lang
  | configured {cookie : Option String} {lang : String}
    (hcookie : ∀ other, cookie = some other → l.recipes other = [])
    (hconfigured : configured = some lang) (h : l.recipes lang ≠ []) :
    Spoken l configured none cookie lang
  | own {cookie : Option String} (hcookie : ∀ other, cookie = some other → l.recipes other = [])
    (hconfigured : ∀ other, configured = some other → l.recipes other = []) :
    Spoken l configured none cookie l.defaultLanguage

/-- How a library comes to the language of a request. -/
structure Speaks (l : Library) (configured : Option String) : Prop where
  /-- A request is refused exactly if it names a language without recipes. -/
  refused_iff : ∀ named cookie f, resolve l configured named cookie = .error f ↔
    ∃ lang, named = some lang ∧ l.recipes lang = [] ∧ f = .notFound ("No recipes in language " ++ lang)
  resolved_iff : ∀ named cookie lang,
    resolve l configured named cookie = .ok lang ↔ Spoken l configured named cookie lang
  recipes_ne_nil : l.isEmpty = false → ∀ named cookie lang,
    resolve l configured named cookie = .ok lang → l.recipes lang ≠ []
  remembered_iff : ∀ named lang, remembered l named = some lang ↔
    named = some lang ∧ l.recipes lang ≠ []
  /-- A language that is remembered comes back, in every library that has it. -/
  returns : ∀ named lang, remembered l named = some lang → ∀ l' : Library, l'.IsFilled →
    l'.recipes lang ≠ [] → ∀ configured', resolve l' configured' none (some lang) = .ok lang

variable {l : Library} {configured named cookie o : Option String} {lang : String}

theorem filter_eq_some (hl : l.IsFilled) :
    o.filter l.hasLanguage = some lang ↔ o = some lang ∧ l.recipes lang ≠ [] := by
  rw [Option.filter_eq_some_iff, hl.hasLanguage_iff]

theorem filter_eq_none (hl : l.IsFilled) :
    o.filter l.hasLanguage = none ↔ ∀ lang, o = some lang → l.recipes lang = [] := by
  simp only [Option.filter_eq_none_iff, hl.hasLanguage_iff, not_not]

theorem standard_eq (l : Library) (configured : Option String) :
    standard l configured = (configured.filter l.hasLanguage).getD l.defaultLanguage := by
  cases configured with
  | none => rfl
  | some lang =>
    rw [standard, Option.filter_some]
    split <;> rfl

theorem resolve_of_spoken (hl : l.IsFilled) (h : Spoken l configured named cookie lang) :
    resolve l configured named cookie = .ok lang := by
  cases h with
  | named h => rw [resolve, if_pos (hl.hasLanguage_iff.2 h)]
  | remembered h => rw [resolve, (filter_eq_some hl).2 ⟨rfl, h⟩]
  | configured hcookie hconfigured h =>
    rw [resolve, (filter_eq_none hl).2 hcookie, standard_eq,
      (filter_eq_some hl).2 ⟨hconfigured, h⟩, Option.getD_some]
  | own hcookie hconfigured =>
    rw [resolve, (filter_eq_none hl).2 hcookie, standard_eq, (filter_eq_none hl).2 hconfigured,
      Option.getD_none]

theorem exists_spoken (hl : l.IsFilled) (configured cookie : Option String) :
    ∃ lang, Spoken l configured none cookie lang := by
  cases hcookie : cookie.filter l.hasLanguage with
  | some lang =>
    obtain ⟨rfl, h⟩ := (filter_eq_some hl).1 hcookie
    exact ⟨lang, .remembered h⟩
  | none =>
    rw [filter_eq_none hl] at hcookie
    cases hconfigured : configured.filter l.hasLanguage with
    | some lang =>
      obtain ⟨hlang, h⟩ := (filter_eq_some hl).1 hconfigured
      exact ⟨lang, .configured hcookie hlang h⟩
    | none => exact ⟨_, .own hcookie ((filter_eq_none hl).1 hconfigured)⟩

/-- A request comes to a language or is refused, and not both. -/
theorem refused_or_spoken (hl : l.IsFilled) (configured named cookie : Option String) :
    (∃ lang, named = some lang ∧ l.recipes lang = []) ∨
      ∃ lang, Spoken l configured named cookie lang := by
  cases named with
  | none => exact .inr (exists_spoken hl configured cookie)
  | some lang =>
    by_cases h : l.recipes lang = []
    · exact .inl ⟨lang, rfl, h⟩
    · exact .inr ⟨lang, .named h⟩

theorem resolve_of_refused (hl : l.IsFilled) (h : l.recipes lang = []) :
    resolve l configured (some lang) cookie = .error (.notFound ("No recipes in language " ++ lang)) := by
  rw [resolve, if_neg fun hlang => hl.hasLanguage_iff.1 hlang h]

theorem recipes_ne_nil_of_spoken (hl : l.IsFilled) (hne : l.isEmpty = false)
    (h : Spoken l configured named cookie lang) : l.recipes lang ≠ [] := by
  cases h with
  | named h => exact h
  | remembered h => exact h
  | configured _ _ h => exact h
  | own => exact hl.recipes_defaultLanguage hne

theorem resolve_eq_ok_iff (hl : l.IsFilled) :
    resolve l configured named cookie = .ok lang ↔ Spoken l configured named cookie lang := by
  refine ⟨fun h => ?_, resolve_of_spoken hl⟩
  rcases refused_or_spoken hl configured named cookie with ⟨other, rfl, hnil⟩ | ⟨other, hspoken⟩
  · rw [resolve_of_refused hl hnil] at h
    cases h
  · rw [resolve_of_spoken hl hspoken] at h
    exact Except.ok.inj h ▸ hspoken

theorem resolve_eq_error_iff (hl : l.IsFilled) {f : Failure} :
    resolve l configured named cookie = .error f ↔
      ∃ lang, named = some lang ∧ l.recipes lang = [] ∧
        f = .notFound ("No recipes in language " ++ lang) := by
  constructor
  · intro h
    rcases refused_or_spoken hl configured named cookie with ⟨lang, rfl, hnil⟩ | ⟨lang, hspoken⟩
    · rw [resolve_of_refused hl hnil] at h
      exact ⟨lang, rfl, hnil, (Except.error.inj h).symm⟩
    · rw [resolve_of_spoken hl hspoken] at h
      cases h
  · rintro ⟨lang, rfl, hnil, rfl⟩
    exact resolve_of_refused hl hnil

theorem speaks_of_isFilled (hl : l.IsFilled) (configured : Option String) : Speaks l configured where
  refused_iff _ _ _ := resolve_eq_error_iff hl
  resolved_iff _ _ _ := resolve_eq_ok_iff hl
  recipes_ne_nil hne _ _ _ h := recipes_ne_nil_of_spoken hl hne ((resolve_eq_ok_iff hl).1 h)
  remembered_iff _ _ := filter_eq_some hl
  returns _ _ _ _ hl' h _ := resolve_of_spoken hl' (.remembered h)

end Language

open RecipeBook.Web.Language (Spoken Speaks)
open Library (breads)

/-- What becomes of a request that is told something in a language. -/
structure AnswersIn (site : Site) (request : Request) (answer : String → Except Failure Json) :
    Prop where
  refused : ∀ lang, request.named? = some lang → site.library.recipes lang = [] →
    (respond site request).status = 404 ∧ (respond site request).body =
      .json (.object [("error", .text ("No recipes in language " ++ lang))])
  answered : ∀ lang,
    Spoken site.library site.settings.defaultLang request.named? request.remembered? lang →
    (respond site request).status = (outcome (answer lang)).status ∧
      (respond site request).body = (outcome (answer lang)).body
  /-- A cookie is set exactly if a language is named and has recipes, and it holds that language, as far
  as a header can. -/
  header?_eq_some_iff : ∀ c, (respond site request).header? "set-cookie" = some c ↔
    ∃ lang, request.named? = some lang ∧ site.library.recipes lang ≠ [] ∧
      c = "lang=" ++ lang ++ "; Path=/" ∧ ∀ x ∈ c.toList, x = '\t' ∨ ' ' ≤ x ∧ x ≠ '\x7f'

/-- A detail shows the edition of an identifier in the first language, or else in the second, or else
in any, and lists the languages of all others. -/
structure Shows (l : Library) (id lang fallback : String) (d : Detail) : Prop where
  isChosen : l.IsChosen id lang fallback d.recipe
  nodup : (d.recipe.lang :: d.otherLanguages).Nodup
  mem_iff : ∀ other, other ∈ d.recipe.lang :: d.otherLanguages ↔ l.HasEdition id other

variable {site : Site} {request : Request} {resource : Resource} {id : List Char}
  {answer : String → Except Failure Json} {name lang fallback : String}

theorem cookie_eq_some_iff {c : String} : Cookie.header? langCookie lang = some c ↔
    c = "lang=" ++ lang ++ "; Path=/" ∧ ∀ x ∈ c.toList, x = '\t' ∨ ' ' ≤ x ∧ x ≠ '\x7f' := by
  have hchar : ∀ x, Cookie.isHeaderChar x ↔ x = '\t' ∨ ' ' ≤ x ∧ x ≠ '\x7f' := fun x => by
    simp [Cookie.isHeaderChar]
  have hheader : Cookie.header? langCookie lang =
      if ("lang=" ++ lang ++ "; Path=/").toList.all Cookie.isHeaderChar then
        some ("lang=" ++ lang ++ "; Path=/") else none := rfl
  rw [hheader]
  split
  · next hall =>
    simp only [List.all_eq_true, hchar] at hall
    rw [Option.some.injEq]
    exact ⟨fun h => h ▸ ⟨rfl, hall⟩, fun h => h.1.symm⟩
  · next hnot =>
    simp only [List.all_eq_true, hchar] at hnot
    exact iff_of_false nofun fun h => hnot (h.1 ▸ h.2)

theorem answersIn_of_gets (h : site.library.IsFilled)
    (hgets : request.Gets site.settings.bodyLimit resource) (hplain : request.IsPlain resource.known)
    (htell : resource.tell? site request = some answer) : AnswersIn site request answer where
  refused lang hnamed hnil := by
    rw [status_respond_of_gets hgets, body_respond_of_gets hgets,
      respondResource_of_tell? hplain htell, status_inLanguage, body_inLanguage, hnamed,
      Language.resolve_of_refused h hnil]
    exact ⟨rfl, rfl⟩
  answered lang hspoken := by
    rw [status_respond_of_gets hgets, body_respond_of_gets hgets,
      respondResource_of_tell? hplain htell, status_inLanguage, body_inLanguage,
      Language.resolve_of_spoken h hspoken]
    exact ⟨rfl, rfl⟩
  header?_eq_some_iff c := by
    simp only [header?_respond_of_gets hgets, respondResource_of_tell? hplain htell,
      header?_inLanguage, Option.bind_eq_some_iff, Language.remembered, Language.filter_eq_some h,
      cookie_eq_some_iff, and_assoc]

theorem respond_of_answer {j : Json} (h : site.library.IsFilled)
    (hgets : request.Gets site.settings.bodyLimit resource) (hplain : request.IsPlain resource.known)
    (htell : resource.tell? site request = some answer)
    (hspoken : Spoken site.library site.settings.defaultLang request.named? request.remembered? lang)
    (hanswer : answer lang = .ok j) :
    (respond site request).status = 200 ∧ (respond site request).body = .json j := by
  obtain ⟨hstatus, hbody⟩ := (answersIn_of_gets h hgets hplain htell).answered lang hspoken
  rw [hstatus, hbody, hanswer]
  exact ⟨rfl, rfl⟩

/-- A request for the tags gets those of its language, all of them. -/
theorem shows_tags_of_gets (h : site.library.IsFilled)
    (hgets : request.Gets site.settings.bodyLimit .tags) (hplain : request.IsPlain ["lang"])
    (hspoken : Spoken site.library site.settings.defaultLang request.named? request.remembered? lang) :
    ∃ j, (respond site request).status = 200 ∧ (respond site request).body = .json j ∧
      IsShown "tags" (site.library.tagsByUse lang) j := by
  obtain ⟨hstatus, hbody⟩ := respond_of_answer h hgets hplain rfl hspoken rfl
  exact ⟨_, hstatus, hbody, View.isShown_tags site lang⟩

/-- A request for the recipes gets the most common tags of its language along with them. -/
theorem shows_popularTags_of_gets (h : site.library.IsFilled)
    (hgets : request.Gets site.settings.bodyLimit .recipes) (hplain : request.IsPlain ["lang"])
    (hspoken : Spoken site.library site.settings.defaultLang request.named? request.remembered? lang) :
    ∃ j, (respond site request).status = 200 ∧ (respond site request).body = .json j ∧
      IsShown "popular_tags" (site.library.mostCommonTags lang 10) j := by
  obtain ⟨hstatus, hbody⟩ := respond_of_answer h hgets hplain rfl hspoken rfl
  exact ⟨_, hstatus, hbody, View.isShown_popularTags site lang⟩

theorem exists_shows (h : site.library.IsFilled)
    (hname : ∃ other, site.library.HasEdition (normalizeId name) other) (lang fallback : String) :
    ∃ d, site.detail? name lang fallback = some d ∧
      Shows site.library (normalizeId name) lang fallback d := by
  obtain ⟨rs, hsite, -⟩ := h.exists_ofRecipes
  rw [hsite] at hname ⊢
  obtain ⟨editions, r, hfind, hchoose, hchosen⟩ := Library.exists_isChosen hname lang fallback
  have hget : site.library.get? name = some editions := by rw [hsite, Library.get?, hfind]
  refine ⟨_, Site.detail?_eq_some.2 ⟨editions, r, hget, hchoose, rfl⟩, hchosen, ?_, fun other => ?_⟩
  · have hnodup : editions.keys.Nodup := (Library.sorted_of_byId hfind).nodup_keys
    exact List.nodup_cons.2 ⟨by simp, hnodup.filter _⟩
  · rw [← Library.mem_keys_of_byId hfind, List.mem_cons, List.mem_filter, decide_eq_true_eq]
    have hlang : r.lang ∈ editions.keys :=
      (Library.mem_keys_of_byId hfind).2 ⟨r, hchosen.mem, hchosen.id_eq⟩
    refine ⟨?_, fun hother => ?_⟩
    · rintro (rfl | ⟨hother, -⟩)
      · exact hlang
      · exact hother
    · exact (em (other = r.lang)).imp_right fun hne => ⟨hother, hne⟩

/-- A recipe that is there is shown, unless the language of the request is refused. -/
theorem shows_of_gets (h : site.library.IsFilled)
    (hgets : request.Gets site.settings.bodyLimit (.recipe id))
    (hid : Resource.decodeId? id = some name)
    (hname : ∃ other, site.library.HasEdition (normalizeId name) other)
    (hplain : request.IsPlain ["lang"])
    (hspoken : Spoken site.library site.settings.defaultLang request.named? request.remembered? lang) :
    ∃ (d : Detail) (j : Json), (respond site request).status = 200 ∧
      (respond site request).body = .json j ∧ d.IsTold j ∧
      Shows site.library (normalizeId name) lang site.standardLanguage d := by
  obtain ⟨d, hd, hshows⟩ := exists_shows h hname lang site.standardLanguage
  have htell : (Resource.recipe id).tell? site request = some (site.tell name) := by
    rw [Resource.tell?, hid, Option.map_some]
  have hdetail : site.tell name lang = .ok (View.detail d) := by simp only [Site.tell, hd]
  obtain ⟨hstatus, hbody⟩ := respond_of_answer h hgets hplain htell hspoken hdetail
  exact ⟨d, _, hstatus, hbody, View.isTold_detail d, hshows⟩

theorem refused_of_status (h : site.library.IsFilled)
    (hgets : request.Gets site.settings.bodyLimit (.recipe id))
    (hid : Resource.decodeId? id = some name)
    (hname : ∃ other, site.library.HasEdition (normalizeId name) other)
    (hstatus : (respond site request).status = 404) :
    ∃ lang, request.named? = some lang ∧ site.library.recipes lang = [] := by
  by_cases hplain : request.IsPlain ["lang"]
  · rcases Language.refused_or_spoken h site.settings.defaultLang request.named?
      request.remembered? with hrefused | ⟨lang, hspoken⟩
    · exact hrefused
    · obtain ⟨d, j, hok, -⟩ := shows_of_gets h hgets hid hname hplain hspoken
      rw [hok] at hstatus
      cases hstatus
  · have hbad : (withLanguage site request (site.tell name)).status = 400 :=
      status_fields_of_not_isPlain hplain _
    rw [status_respond_of_gets hgets, respondRecipe_of_decodeId? hid, hbad] at hstatus
    cases hstatus

/-- Every request comes to its language or is refused for naming one without recipes, and one that gets
a recipe of the library is shown it in its language, or else in that of a request that says nothing,
or else in the smallest. -/
theorem answers_in_language (h : site.library.IsFilled) :
    Speaks site.library site.settings.defaultLang ∧
    (∀ request resource answer, request.Gets site.settings.bodyLimit resource →
      request.IsPlain resource.known → resource.tell? site request = some answer →
      AnswersIn site request answer) ∧
    ∀ request id name, request.Gets site.settings.bodyLimit (.recipe id) →
      Resource.decodeId? id = some name →
      (∃ other, site.library.HasEdition (normalizeId name) other) →
      ((respond site request).status = 404 →
        ∃ lang, request.named? = some lang ∧ site.library.recipes lang = []) ∧
      (request.IsPlain ["lang"] → ∀ lang fallback,
        Spoken site.library site.settings.defaultLang request.named? request.remembered? lang →
        Spoken site.library site.settings.defaultLang none none fallback →
        ∃ (d : Detail) (j : Json), (respond site request).status = 200 ∧
          (respond site request).body = .json j ∧ d.IsTold j ∧
          Shows site.library (normalizeId name) lang fallback d) := by
  refine ⟨Language.speaks_of_isFilled h _, fun _ _ _ => answersIn_of_gets h,
    fun request id name hgets hid hname => ⟨refused_of_status h hgets hid hname,
      fun hplain lang fallback hspoken hfallback => ?_⟩⟩
  obtain rfl : site.standardLanguage = fallback :=
    Except.ok.inj (Language.resolve_of_spoken h hfallback)
  exact shows_of_gets h hgets hid hname hplain hspoken

/-- Wheat bread, which there is in English alone, is shown in English where German is asked for. -/
theorem answers_in_language_breads :
    breads.map Recipe.edition = [("rye", "en"), ("wheat", "en"), ("rye", "de")] ∧
    ∃ j, (respond breadSite (.plain "/api/recipes/Wheat" (some "lang=de"))).status = 200 ∧
      (respond breadSite (.plain "/api/recipes/Wheat" (some "lang=de"))).body = .json j ∧
      j.field? "id" = some (.text "wheat") ∧ j.field? "lang" = some (.text "en") ∧
      j.field? "translations" = some (.list []) := by
  have hfilled : breadSite.library.IsFilled := ⟨breads, rfl⟩
  obtain ⟨heditions, hen, hde, hdefault⟩ :
      breads.map Recipe.edition = [("rye", "en"), ("wheat", "en"), ("rye", "de")] ∧
        (breadSite.library.recipes "en").map Recipe.id = ["rye", "wheat"] ∧
        (breadSite.library.recipes "de").map Recipe.id = ["rye"] ∧
        breadSite.library.defaultLanguage = "en" := by decide +kernel
  have hwheat : breadSite.library.HasEdition "wheat" "en" :=
    List.mem_map.1 (hen ▸ by decide : "wheat" ∈ (breadSite.library.recipes "en").map Recipe.id)
  have hnot : ¬ breadSite.library.HasEdition "wheat" "de" := fun hyes => by
    have hmem := List.mem_map.2 hyes
    rw [hde] at hmem
    exact absurd hmem (by decide)
  have hgets : (Request.plain "/api/recipes/Wheat" (some "lang=de")).Gets
      breadSite.settings.bodyLimit (.recipe "Wheat".toList) := ⟨rfl, by decide +kernel, by decide +kernel⟩
  have hid : Resource.decodeId? "Wheat".toList = some "Wheat" := by decide +kernel
  have hname : normalizeId "Wheat" = "wheat" := by decide +kernel
  have hnamed : (Request.plain "/api/recipes/Wheat" (some "lang=de")).named? = some "de" := by
    decide +kernel
  have hplain : (Request.plain "/api/recipes/Wheat" (some "lang=de")).IsPlain ["lang"] := by
    decide +kernel
  have hspoken : Spoken breadSite.library none none none "en" := hdefault ▸ .own nofun nofun
  obtain ⟨-, -, hrecipe⟩ := answers_in_language hfilled
  obtain ⟨-, hshown⟩ := hrecipe _ _ _ hgets hid (hname ▸ ⟨"en", hwheat⟩)
  obtain ⟨d, j, hstatus, hbody, htold, hshows⟩ := hshown hplain "de" "en"
    (hnamed ▸ .named (List.ne_nil_of_length_pos (by rw [← List.length_map, hde]; decide))) hspoken
  rw [hname] at hshows
  have hlang : d.recipe.lang = "en" := hshows.isChosen.fallback_eq hnot hwheat
  have hothers : d.otherLanguages = [] := List.eq_nil_iff_forall_not_mem.2 fun other hother => by
    obtain ⟨r, hr, hid⟩ := (hshows.mem_iff other).1 (List.mem_cons_of_mem _ hother)
    obtain ⟨hbread, rfl⟩ := mem_recipes_breadSite hr
    have hedition : r.edition ∈ breads.map Recipe.edition := List.mem_map_of_mem hbread
    rw [heditions, Recipe.edition, hid] at hedition
    have hen : r.lang = d.recipe.lang := by simpa [hlang] using hedition
    exact (List.nodup_cons.1 hshows.nodup).1 (hen ▸ hother)
  refine ⟨heditions, j, hstatus, hbody, ?_, ?_, ?_⟩
  · rw [htold.id, hshows.isChosen.id_eq]
  · rw [htold.lang, hlang]
  · rw [htold.translations, hothers, List.map_nil]

end RecipeBook.Web
