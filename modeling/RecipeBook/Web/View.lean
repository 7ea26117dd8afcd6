import RecipeBook.Json
import RecipeBook.Web.Detail

/-!
# Answers in JSON

The fields of every answer and their order.
-/

namespace RecipeBook.Web.View

open Json

def texts (ss : List String) : Json := .list (ss.map .text)

def numbers (ns : List Nat) : Json := .list (ns.map ofNat)

def part : InstructionPart → Json
  | .text value => .object [("type", .text "text"), ("value", .text value)]
  | .scalar s =>
    .object [("type", .text "scalar"), ("amount", .float s.amount),
      ("amount_per_serving", .float s.perServing)]

def ingredient (i : IngredientDetail) : Json :=
  .object [("name", .text i.name), ("amount", optional .float i.amount),
    ("amount_display", optional .text i.shown), ("unit", optional .text i.unit),
    ("amount_per_serving", optional .float i.perServing), ("count", optional .whole i.count)]

def step (s : StepDetail) : Json :=
  .object [("id", ofNat s.id), ("instructions", .list (s.instructions.map part)),
    ("ingredients", .list (s.ingredients.map ingredient)), ("references", texts s.references),
    ("yields", texts s.yields), ("upstream", numbers s.inputs), ("downstream", numbers s.outputs)]

def sectionDetail (s : SectionDetail) : Json :=
  .object [("heading", optional .text s.heading), ("steps", .list (s.steps.map step))]

def relation (r : Relation) : Json := .object [("id", .text r.id), ("name", .text r.name)]

def detail (d : Detail) : Json :=
  let r := d.recipe
  let m := r.metadata
  .object [("id", .text r.id), ("lang", .text r.lang), ("name", .text r.name),
    ("serves", ofNat m.serves), ("servings_unit", optional .text m.servingsUnit),
    ("servings_increment", .float m.servingsIncrement),
    ("description", optional .text m.description), ("note", optional .text m.note),
    ("tags", texts m.tags), ("attribution", optional .text m.attribution),
    ("image_url", optional .text d.imageUrl), ("translations", texts d.otherLanguages),
    ("related", .list (d.related.map relation)),
    ("ingredients", .list (r.totals.map fun i => ingredient (.ofIngredient i))),
    ("sections", .list ((SectionDetail.ofRecipe r).map sectionDetail)),
    ("roots", numbers r.graph.roots)]

/-- A recipe in a list. -/
def card (site : Site) (r : Recipe) : Json :=
  .object [("id", .text r.id), ("lang", .text r.lang), ("name", .text r.name),
    ("description", optional .text r.metadata.description), ("tags", texts r.metadata.tags),
    ("image_url", optional .text (site.imageUrl r))]

def cards (site : Site) (rs : List Recipe) : Json := .list (rs.map (card site))

def tagCounts (tags : List (String × Nat)) : Json :=
  .list (tags.map fun (tag, count) => .object [("tag", .text tag), ("count", ofNat count)])

def languages (site : Site) (current : String) : Json :=
  .object [("current", .text current), ("default", .text site.standardLanguage),
    ("languages", .list (site.library.languages.map fun (lang, count) =>
      .object [("lang", .text lang), ("recipes", ofNat count)]))]

/-- The number of tags that a list of recipes comes with. -/
def popularTags : Nat := 10

def recipes (site : Site) (lang : String) : Json :=
  let listing := site.library.listing lang
  .object [("lang", .text lang), ("total", ofNat listing.length), ("recipes", cards site listing),
    ("popular_tags", tagCounts (site.library.mostCommonTags lang popularTags))]

def search (site : Site) (lang : String) (q : Query) : Json :=
  let found := site.library.search lang q
  .object [("lang", .text lang), ("query", .text q.describe), ("total", ofNat found.length),
    ("results", cards site found)]

def tags (site : Site) (lang : String) : Json :=
  .object [("lang", .text lang), ("tags", tagCounts (site.library.tagsByUse lang))]

def stats (site : Site) : Json :=
  let l := site.library
  .object [("total_recipes", ofNat l.size),
    ("total_translations", ofNat ((l.languages.map Prod.snd).foldl (· + ·) 0)),
    ("total_languages", ofNat l.languages.length), ("total_tags", ofNat l.tagCount),
    ("loaded_at", .text site.loadedAt)]

def health : Json := .object [("status", .text "ok")]

def readiness (site : Site) : Json :=
  .object [("ready", .bool !site.library.isEmpty), ("recipes", ofNat site.library.size),
    ("loaded_at", .text site.loadedAt)]

def failure (f : Failure) : Json := .object [("error", .text f.publicMessage)]

end RecipeBook.Web.View
