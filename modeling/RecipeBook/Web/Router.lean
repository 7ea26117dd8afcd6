import RecipeBook.Query.Read
import RecipeBook.Web.Images
import RecipeBook.Web.Request
import RecipeBook.Web.View

/-!
# Requests and their responses

`respond` answers a request. Every response carries the same headers on who may use it. A request that
announces a body above the limit is refused, and a question for the options is answered for any path.
-/

namespace RecipeBook.Web

/-- What answers are given about. -/
inductive Resource
  | health
  | readiness
  | languages
  | recipes
  | recipe (id : List Char)
  | search
  | tags
  | stats
  deriving DecidableEq, Repr

namespace Resource

/-- Resources with a path of their own. -/
def fixed : List (String × Resource) :=
  [("/health", health), ("/ready", readiness), ("/api/languages", languages),
    ("/api/recipes", recipes), ("/api/search", search), ("/api/tags", tags), ("/api/stats", stats)]

/-- The identifier of a recipe is one name, which is not empty. -/
def recipe? (path : List Char) : Option Resource :=
  match Text.dropStart? "/api/recipes/".toList path with
  | some id => if id = [] ∨ id.contains '/' then none else some (recipe id)
  | none => none

def ofPath? (path : String) : Option Resource := (fixed.lookup path).or (recipe? path.toList)

end Resource

/-- What a path leads to. -/
inductive Route
  | resource (r : Resource)
  | image (path : String)
  deriving DecidableEq, Repr

namespace Route

/-- Everything below the images, with its path from there. -/
def image? (path : List Char) : Option Route :=
  match Text.dropStart? "/images".toList path with
  | some [] => some (image "/")
  | some ('/' :: rest) => some (image (.ofList ('/' :: rest)))
  | _ => none

def ofPath? (path : String) : Option Route :=
  ((Resource.ofPath? path).map resource).or (image? path.toList)

end Route

/-- The name of the cookie that remembers a language. -/
def langCookie : String := "lang"

/-- The most bytes that a query may have. -/
def maxQueryLength : Nat := 512

/-- The fields of a request's query; a field that counts must not come twice. -/
def fields (known : List String) (request : Request) (use : List (String × String) → Response) :
    Response :=
  let pairs := Form.pairs (request.target.query.getD "")
  match Form.repeated? known [] (pairs.map Prod.fst) with
  | some name =>
    .ofText 400 ("Failed to deserialize query string: duplicate field `" ++ name ++ "`")
  | none => use pairs

def outcome : Except Failure Json → Response
  | .ok j => .ofJson 200 j
  | .error f => .ofJson f.status (View.failure f)

/-- Answers in the language that the request asks for, and has the client remember it if it was
named. -/
def inLanguage (site : Site) (request : Request) (named : Option String)
    (answer : String → Except Failure Json) : Response :=
  let cookie := Cookie.find? (request.headersOf "cookie") langCookie
  let lang := Language.resolve site.library site.settings.defaultLang named cookie
  let setCookie := (Language.remembered site.library named).bind (Cookie.header? langCookie)
  (outcome (lang.bind answer)).withHeaders (setCookie.toList.map fun c => ("set-cookie", c))

/-- Answers a request whose query may name a language. -/
def withLanguage (site : Site) (request : Request) (answer : String → Except Failure Json) :
    Response :=
  fields ["lang"] request fun pairs => inLanguage site request (pairs.lookup "lang") answer

def respondRecipe (site : Site) (request : Request) (id : List Char) : Response :=
  match Url.Percent.text? (Url.Percent.decodeText (.ofList id)) with
  | none => .ofText 400 "Invalid URL: Invalid UTF-8 in `id`"
  | some id =>
    withLanguage site request fun lang =>
      match site.detail? id lang site.standardLanguage with
      | some d => .ok (View.detail d)
      | none => .error (.notFound ("Recipe " ++ id ++ " not found"))

def respondSearch (site : Site) (request : Request) : Response :=
  fields ["query", "lang"] request fun pairs =>
    let query := (pairs.lookup "query").getD ""
    if maxQueryLength < query.utf8ByteSize then
      outcome (.error (.validation
        ("Search query longer than " ++ toString maxQueryLength ++ " bytes")))
    else
      inLanguage site request (pairs.lookup "lang") fun lang =>
        .ok (View.search site lang (Query.read query))

def respondResource (site : Site) (request : Request) : Resource → Response
  | .health => .ofJson 200 View.health
  | .readiness => .ofJson 200 (View.readiness site)
  | .languages => withLanguage site request fun lang => .ok (View.languages site lang)
  | .recipes => withLanguage site request fun lang => .ok (View.recipes site lang)
  | .recipe id => respondRecipe site request id
  | .search => respondSearch site request
  | .tags => withLanguage site request fun lang => .ok (View.tags site lang)
  | .stats => .ofJson 200 (View.stats site)

/-- A response of known length. That of a HEAD request has no body behind it. -/
def complete (request : Request) (response : Response) : Response :=
  let response := response.withLength
  if request.method = "HEAD" then response.withoutBody else response

/-- The response before the headers that all have. -/
def respondMethod (site : Site) (request : Request) : Response :=
  match Route.ofPath? request.target.path with
  | none => (Response.bare 404).withLength
  | some (.image path) => Images.respond site request path
  | some (.resource r) =>
    complete request <|
      if request.method = "GET" ∨ request.method = "HEAD" then respondResource site request r
      else .methodNotAllowed

/-- The request announces a body above the limit. -/
def isTooLong (limit : Nat) (request : Request) : Bool :=
  match request.header? "content-length" with
  | some length =>
    match Number.readWhole (Number.maxOf 64) length.toList with
    | .ok n => limit < n
    | .error _ => false
  | none => false

/-- Anyone may use the answers, and nothing else of the site may be embedded. -/
def commonHeaders : Headers :=
  [("access-control-allow-origin", "*"),
    ("vary", "origin, access-control-request-method, access-control-request-headers"),
    ("x-content-type-options", "nosniff"), ("x-frame-options", "DENY"),
    ("content-security-policy", "default-src 'none'; img-src 'self'; frame-ancestors 'none'")]

/-- The response to a question for the options. -/
def options : Response :=
  ⟨200, [("access-control-allow-methods", "GET,OPTIONS"),
    ("access-control-allow-headers", "content-type,accept"), ("access-control-max-age", "3600")],
    .empty⟩

/-- The response to a request that announces a body above the limit. -/
def tooLong (request : Request) : Response :=
  let response := Response.ofText 413 "length limit exceeded"
  match Route.ofPath? request.target.path with
  | some (.resource _) => complete request response
  | _ => response.withLength

def respond (site : Site) (request : Request) : Response :=
  (if request.method = "OPTIONS" then options.withLength
    else if isTooLong site.settings.bodyLimit request then tooLong request
    else respondMethod site request).withHeaders commonHeaders

end RecipeBook.Web
