import RecipeBook.Web.View

/-!
# What answers hold

A client finds its way in an answer by the names of the fields. `Detail.IsTold` says what is found in the
answer about a recipe: which edition it is, the languages of the others, the related recipes and the
image. The answers with tags hold their numbers in the order in which they are given (`isShown_tags`,
`isShown_popularTags`).
-/

namespace RecipeBook

/-- The value in a field of an object. -/
def Json.field? (name : String) : Json → Option Json
  | .object fields => fields.lookup name
  | _ => none

namespace Web

/-- The answer holds the detail. -/
structure Detail.IsTold (d : Detail) (j : Json) : Prop where
  id : j.field? "id" = some (.text d.recipe.id)
  lang : j.field? "lang" = some (.text d.recipe.lang)
  name : j.field? "name" = some (.text d.recipe.name)
  imageUrl : j.field? "image_url" = some (d.imageUrl.elim .null .text)
  translations : j.field? "translations" = some (.list (d.otherLanguages.map .text))
  related : j.field? "related" =
    some (.list (d.related.map fun r => .object [("id", .text r.id), ("name", .text r.name)]))

/-- The tags with their numbers are in a field of the answer. -/
def IsShown (name : String) (tags : List (String × Nat)) (j : Json) : Prop :=
  j.field? name =
    some (.list (tags.map fun (tag, n) => .object [("tag", .text tag), ("count", .whole n)]))

namespace View

theorem isTold_detail (d : Detail) : d.IsTold (detail d) where
  id := rfl
  lang := rfl
  name := rfl
  imageUrl := by
    have himage : (detail d).field? "image_url" = some (Json.optional .text d.imageUrl) := rfl
    rw [himage]
    cases d.imageUrl <;> rfl
  translations := rfl
  related := rfl

theorem isShown_tags (site : Site) (lang : String) :
    IsShown "tags" (site.library.tagsByUse lang) (tags site lang) := rfl

/-- The ten most common tags come with the recipes. -/
theorem isShown_popularTags (site : Site) (lang : String) :
    IsShown "popular_tags" (site.library.mostCommonTags lang 10) (recipes site lang) := rfl

end View
end Web
end RecipeBook
