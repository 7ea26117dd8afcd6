import RecipeBook.FileName
import RecipeBook.Index
import RecipeBook.Library.Warning
import RecipeBook.Query

/-!
# Libraries

A library holds recipes under four indexes: by identifier and language, by language, by language and
tag, and the number of uses of each tag. A recipe is offered to it (`offer`): one whose identifier and
language are taken is refused, which leaves nothing behind but an entry for its identifier.
-/

namespace RecipeBook

/-- The editions of a recipe by language. -/
abbrev Editions := Index Recipe

namespace Editions

/-- The edition in the first language, else in the second, else in the first there is. -/
def choose? (t : Editions) (lang fallback : String) : Option Recipe :=
  (t.find? lang).or ((t.find? fallback).or t.values.head?)

end Editions

structure Library where
  byId : Index Editions
  /-- In the order in which they were added. -/
  byLanguage : Index (List Recipe)
  byTag : Index (Index (List Recipe))
  tagCounts : Index (Index Nat)

namespace Library

def empty : Library := ⟨[], [], [], []⟩

/-- The language of a library that has none. -/
def fallbackLang : String := "en"

/-- The library with an entry for the identifier, without editions if there is none yet. -/
def opened (l : Library) (id : String) : Library :=
  { l with byId := l.byId.update id fun editions => editions.getD [] }

/-- The library with a recipe in every index. A tag that the recipe has twice counts twice. -/
def added (l : Library) (r : Recipe) : Library where
  byId := l.byId.update r.id fun editions => (editions.getD []).insert r.lang r
  byLanguage := l.byLanguage.update r.lang fun rs => rs.getD [] ++ [r]
  byTag := l.byTag.update r.lang fun tags =>
    r.metadata.tags.foldl
      (fun tags tag => Index.update tag (fun rs => rs.getD [] ++ [r]) tags) (tags.getD [])
  tagCounts := l.tagCounts.update r.lang fun counts =>
    r.metadata.tags.foldl
      (fun counts tag => Index.update tag (fun n => n.getD 0 + 1) counts) (counts.getD [])

/-- Adds a recipe, unless its identifier and language are taken. The entry for the identifier is made
before that is known. -/
def offer (l : Library) (r : Recipe) : Library × Option LoadError :=
  let l := l.opened r.id
  match ((l.byId.find? r.id).getD []).find? r.lang with
  | some existing => (l, some (.of (.duplicateRecipe r.id r.lang existing.metadata.fileName)))
  | none => (l.added r, none)

/-- The library after a recipe that it does not refuse. -/
def insert (l : Library) (r : Recipe) : Except LoadError Library :=
  match l.offer r with
  | (l, none) => .ok l
  | (_, some e) => .error e

variable (l : Library)

/-- The number of recipes, editions of one counted once. -/
def size : Nat := l.byId.length

def isEmpty : Bool := l.byId.isEmpty

def get? (id : String) : Option Editions := l.byId.find? (normalizeId id)

/-- The languages with their numbers of recipes, by name. -/
def languages : List (String × Nat) := l.byLanguage.map fun (lang, rs) => (lang, rs.length)

def hasLanguage (lang : String) : Bool := (l.byLanguage.find? lang).isSome

/-- The first of the languages with the most recipes. -/
def mostRecipes : List (String × Nat) → Option (String × Nat)
  | [] => none
  | x :: xs =>
    match mostRecipes xs with
    | none => some x
    | some best => if x.2 < best.2 then some best else some x

/-- The language with the most recipes, the smallest of several. -/
def defaultLanguage : String := ((mostRecipes l.languages).map Prod.fst).getD fallbackLang

/-- The recipes of a language, in the order in which they were added. -/
def recipes (lang : String) : List Recipe := (l.byLanguage.find? lang).getD []

def recipesWithTag (lang tag : String) : List Recipe :=
  (((l.byTag.find? lang).bind fun tags => tags.find? (lowered tag))).getD []

/-- Sorts by name; recipes of one name keep their order. -/
def sortByName (rs : List Recipe) : List Recipe :=
  rs.mergeSort fun a b => decide (a.name ≤ b.name)

/-- The recipes of a language that are not hidden, by name. -/
def listing (lang : String) : List Recipe :=
  sortByName ((l.recipes lang).filter fun r => !r.metadata.hideFromAll)

/-- The recipes of a language that match a query, by name. -/
def search (lang : String) (q : Query) : List Recipe :=
  sortByName ((l.recipes lang).filter fun r => q.isMatch r)

/-- The tags of a language with their numbers of uses, most used first, then by name. -/
def tagsByUse (lang : String) : List (String × Nat) :=
  ((l.tagCounts.find? lang).getD []).mergeSort fun a b =>
    b.2 < a.2 || (a.2 == b.2 && decide (a.1 ≤ b.1))

def mostCommonTags (lang : String) (limit : Nat) : List (String × Nat) :=
  (l.tagsByUse lang).take limit

/-- The number of tags, those of different languages counted apart. -/
def tagCount : Nat := (l.tagCounts.values.map List.length).foldl (· + ·) 0

/-- The warning about one related recipe of a recipe, if there is one. -/
def relatedWarning? (lang : String) (r : Recipe) (related : String) : Option Warning :=
  match l.byId.find? related with
  | none => some (.unknownRelated r.id related (Similarity.closeMatches related l.byId.keys))
  | some editions =>
    if (editions.find? lang).isSome then none
    else some (.missingEdition r.id related lang)

/-- The warnings about related recipes, by language and in the order of the recipes. -/
def relatedWarnings : List Warning :=
  l.byLanguage.flatMap fun (lang, rs) =>
    rs.flatMap fun r => r.metadata.related.filterMap (l.relatedWarning? lang r)

end Library
end RecipeBook
