import RecipeBook.Web.Router

/-!
# What a request comes to

A request that gets a resource is answered by `respondResource`, and what is put around the answer
changes neither its status nor its body (`respond_of_gets`). Most resources are answered in a language
(`respondResource_of_tell?`). The answer about a recipe is a detail or a failure
(`exists_detail_of_status`).
-/

namespace RecipeBook.Web

namespace Response

variable (r : Response) (hs : Headers) (name : String)

@[simp] theorem status_withHeaders : (r.withHeaders hs).status = r.status := rfl

@[simp] theorem body_withHeaders : (r.withHeaders hs).body = r.body := rfl

@[simp] theorem status_withLength : r.withLength.status = r.status := rfl

@[simp] theorem body_withLength : r.withLength.body = r.body := rfl

/-- Headers that are added stand back behind those that are there. -/
theorem header?_withHeaders :
    (r.withHeaders hs).header? name = (r.header? name).or (hs.lookup name) := by
  have hlookup : ∀ xs ys : Headers, (xs ++ ys).lookup name = (xs.lookup name).or (ys.lookup name) :=
    fun xs ys => List.lookup_append
  rw [withHeaders, header?, hlookup, ← header?]
  cases hname : r.header? name with
  | some value => rw [Option.some_or, Option.some_or]
  | none =>
    rw [Option.none_or, Option.none_or]
    induction hs with
    | nil => rfl
    | cons h hs ih =>
      obtain ⟨key, value⟩ := h
      by_cases hkey : name = key
      · subst hkey
        simp [hname]
      · have hlookup_cons : ((key, value) :: hs).lookup name = hs.lookup name := by
          rw [List.lookup_cons, beq_false_of_ne hkey]
        rw [hlookup_cons, ← ih, List.filter_cons]
        split
        · rw [List.lookup_cons, beq_false_of_ne hkey]
        · rfl

end Response

namespace Request

/-- The language that the query of a request names. -/
def named? (request : Request) : Option String :=
  (Form.pairs (request.target.query.getD "")).lookup "lang"

/-- The language in the cookie of a request. -/
def remembered? (request : Request) : Option String :=
  Cookie.find? (request.headersOf "cookie") "lang"

/-- No field of the query that counts comes twice. -/
def IsPlain (request : Request) (known : List String) : Prop :=
  Form.repeated? known [] ((Form.pairs (request.target.query.getD "")).map Prod.fst) = none

instance (request : Request) (known : List String) : Decidable (request.IsPlain known) :=
  inferInstanceAs (Decidable (_ = none))

/-- The request gets a resource and announces no body above the limit. -/
structure Gets (request : Request) (limit : Nat) (resource : Resource) : Prop where
  method_eq : request.method = "GET"
  ofPath?_eq : Route.ofPath? request.target.path = some (.resource resource)
  isTooLong_eq : isTooLong limit request = false

end Request

variable {site : Site} {request : Request} {resource : Resource} {answer : String → Except Failure Json}
  {named : Option String} {id : List Char} {name lang : String}

theorem respond_of_gets (h : request.Gets site.settings.bodyLimit resource) :
    respond site request =
      ((respondResource site request resource).withLength).withHeaders commonHeaders := by
  rw [respond, if_neg (by rw [h.method_eq]; decide), h.isTooLong_eq, respondMethod, h.ofPath?_eq]
  simp only [complete, h.method_eq, Bool.false_eq_true, if_false, true_or, if_true]
  rw [if_neg (by decide)]

theorem status_respond_of_gets (h : request.Gets site.settings.bodyLimit resource) :
    (respond site request).status = (respondResource site request resource).status := by
  rw [respond_of_gets h, Response.status_withHeaders, Response.status_withLength]

theorem body_respond_of_gets (h : request.Gets site.settings.bodyLimit resource) :
    (respond site request).body = (respondResource site request resource).body := by
  rw [respond_of_gets h, Response.body_withHeaders, Response.body_withLength]

theorem header?_respond_of_gets (h : request.Gets site.settings.bodyLimit resource) :
    (respond site request).header? "set-cookie" =
      (respondResource site request resource).header? "set-cookie" := by
  have hcommon : commonHeaders.lookup "set-cookie" = none := by decide
  have hlength : ∀ size : String, [("content-length", size)].lookup "set-cookie" = none :=
    fun size => by rw [List.lookup_cons, List.lookup_nil]; rfl
  rw [respond_of_gets h, Response.header?_withHeaders, hcommon, Option.or_none, Response.withLength,
    Response.header?_withHeaders, hlength, Option.or_none]

theorem fields_of_isPlain {known : List String} (h : request.IsPlain known)
    (use : List (String × String) → Response) :
    fields known request use = use (Form.pairs (request.target.query.getD "")) := by
  have hnone : Form.repeated? known []
      ((Form.pairs (request.target.query.getD "")).map Prod.fst) = none := h
  simp only [fields, hnone]

theorem status_fields_of_not_isPlain {known : List String} (h : ¬ request.IsPlain known)
    (use : List (String × String) → Response) : (fields known request use).status = 400 := by
  obtain ⟨field, hfield⟩ := Option.ne_none_iff_exists'.1 h
  simp only [fields, hfield]
  rfl

/-! ### Answers in a language -/

theorem outcome_eq_ok_iff {result : Except Failure Json} :
    (outcome result).status = 200 ↔ ∃ j, result = .ok j := by
  cases result with
  | ok j => exact iff_of_true rfl ⟨j, rfl⟩
  | error f => cases f <;> simp [outcome, Response.ofJson, Failure.status]

theorem header?_outcome (result : Except Failure Json) :
    (outcome result).header? "set-cookie" = none := by
  cases result <;> simp [outcome, Response.ofJson, Response.header?]

theorem status_inLanguage : (inLanguage site request named answer).status =
    (outcome ((Language.resolve site.library site.settings.defaultLang named
      request.remembered?).bind answer)).status := rfl

theorem body_inLanguage : (inLanguage site request named answer).body =
    (outcome ((Language.resolve site.library site.settings.defaultLang named
      request.remembered?).bind answer)).body := rfl

theorem header?_inLanguage : (inLanguage site request named answer).header? "set-cookie" =
    (Language.remembered site.library named).bind (Cookie.header? langCookie) := by
  rw [inLanguage, Response.header?_withHeaders, header?_outcome, Option.none_or]
  cases (Language.remembered site.library named).bind (Cookie.header? langCookie) <;> simp

/-! ### Answers about a recipe -/

/-- The identifier that is written in a path, percent-decoded. -/
def Resource.decodeId? (id : List Char) : Option String :=
  Url.Percent.text? (Url.Percent.decodeText (.ofList id))

/-- What is told of a recipe in a language. -/
def Site.tell (site : Site) (name lang : String) : Except Failure Json :=
  match site.detail? name lang site.standardLanguage with
  | some d => .ok (View.detail d)
  | none => .error (.notFound ("Recipe " ++ name ++ " not found"))

theorem Site.detail?_eq_some {fallback : String} {d : Detail} :
    site.detail? name lang fallback = some d ↔ ∃ editions r,
      site.library.get? name = some editions ∧ editions.choose? lang fallback = some r ∧
        ⟨r, site.imageUrl r, editions.keys.filter (· ≠ r.lang),
          Relation.ofRecipe site.library lang fallback r⟩ = d := by
  simp only [detail?, Option.bind_eq_bind, Option.bind_eq_some_iff, Option.pure_def,
    Option.some.injEq, exists_and_left]

namespace Resource

/-- The fields of a query that count. -/
def known : Resource → List String
  | search => ["query", "lang"]
  | _ => ["lang"]

/-- What a request is told in a language, if the resource is one of those that are in a language and
nothing else is wrong with the request. -/
def tell? (site : Site) (request : Request) : Resource → Option (String → Except Failure Json)
  | languages => some fun lang => .ok (View.languages site lang)
  | recipes => some fun lang => .ok (View.recipes site lang)
  | recipe id => (decodeId? id).map site.tell
  | search =>
    let query := ((Form.pairs (request.target.query.getD "")).lookup "query").getD ""
    if maxQueryLength < query.utf8ByteSize then none
    else some fun lang => .ok (View.search site lang (Query.read query))
  | tags => some fun lang => .ok (View.tags site lang)
  | health | readiness | stats => none

end Resource

theorem respondRecipe_of_decodeId? (hid : Resource.decodeId? id = some name) :
    respondResource site request (.recipe id) = withLanguage site request (site.tell name) := by
  rw [respondResource, respondRecipe, ← Resource.decodeId?, hid]
  rfl

theorem withLanguage_of_isPlain (hplain : request.IsPlain ["lang"]) :
    withLanguage site request answer = inLanguage site request request.named? answer :=
  fields_of_isPlain hplain _

theorem respondResource_of_tell? (hplain : request.IsPlain resource.known)
    (h : resource.tell? site request = some answer) :
    respondResource site request resource = inLanguage site request request.named? answer := by
  cases resource with
  | languages | recipes | tags =>
    obtain rfl := Option.some.inj h
    exact withLanguage_of_isPlain hplain
  | recipe id =>
    obtain ⟨name, hid, rfl⟩ := Option.map_eq_some_iff.1 h
    rw [respondRecipe_of_decodeId? hid, withLanguage_of_isPlain hplain]
  | search =>
    rw [Resource.tell?] at h
    split at h
    · cases h
    · next hlength =>
      obtain rfl := Option.some.inj h
      have hsearch : request.IsPlain ["query", "lang"] := hplain
      rw [respondResource, respondSearch, fields_of_isPlain hsearch]
      exact if_neg hlength
  | health | readiness | stats => cases h

theorem exists_answer_of_status (h : (withLanguage site request answer).status = 200) :
    ∃ lang j, answer lang = .ok j ∧ (withLanguage site request answer).body = .json j := by
  by_cases hplain : request.IsPlain ["lang"]
  · rw [withLanguage_of_isPlain hplain] at h ⊢
    rw [status_inLanguage, outcome_eq_ok_iff] at h
    obtain ⟨j, hj⟩ := h
    rw [body_inLanguage, hj]
    cases hlang : Language.resolve site.library site.settings.defaultLang request.named?
        request.remembered? with
    | error f =>
      rw [hlang] at hj
      cases hj
    | ok lang =>
      rw [hlang] at hj
      exact ⟨lang, j, hj, rfl⟩
  · rw [withLanguage, status_fields_of_not_isPlain hplain] at h
    cases h

theorem exists_detail_of_status (h : (respondResource site request (.recipe id)).status = 200) :
    ∃ name lang d, Resource.decodeId? id = some name ∧
      site.detail? name lang site.standardLanguage = some d ∧
      (respondResource site request (.recipe id)).body = .json (View.detail d) := by
  cases hid : Resource.decodeId? id with
  | none =>
    rw [respondResource, respondRecipe, ← Resource.decodeId?, hid] at h
    cases h
  | some name =>
    rw [respondRecipe_of_decodeId? hid] at h ⊢
    obtain ⟨lang, j, hj, hbody⟩ := exists_answer_of_status h
    rw [Site.tell] at hj
    split at hj
    · next d hd =>
      obtain rfl := Except.ok.inj hj
      exact ⟨name, lang, d, rfl, hd, hbody⟩
    · cases hj

end RecipeBook.Web
