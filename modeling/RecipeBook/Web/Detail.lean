import RecipeBook.Amount
import RecipeBook.Web.Site

/-!
# A recipe in detail

`Detail` is all that a client is told about one recipe: the recipe itself, with its steps numbered
over all sections, its other editions, and the related recipes that the library has.
-/

namespace RecipeBook.Web

structure IngredientDetail where
  name : String
  amount : Option Float
  /-- The amount as it is shown. -/
  shown : Option String
  unit : Option String
  perServing : Option Float
  /-- How many to buy of what has no unit. -/
  count : Option Int

namespace IngredientDetail

def ofIngredient (i : Ingredient) : IngredientDetail where
  name := i.name
  amount := i.amount
  shown := i.amount.map Amount.format
  unit := i.unit
  perServing := i.perServing
  count := if i.unit.isSome then none else i.amount.map Amount.roundUp

end IngredientDetail

/-- A step. Hidden references are not told. -/
structure StepDetail where
  id : Nat
  instructions : List InstructionPart
  ingredients : List IngredientDetail
  references : List String
  yields : List String
  inputs : List Nat
  outputs : List Nat

structure SectionDetail where
  heading : Option String
  steps : List StepDetail

namespace StepDetail

def ofStep (graph : StepGraph) (step : PlacedStep) (id : Nat) : StepDetail where
  id
  instructions := step.instructions
  ingredients := step.ingredients.map IngredientDetail.ofIngredient
  references := step.internal
  yields := step.yields
  inputs := graph.inputs id
  outputs := graph.outputs id

end StepDetail

namespace SectionDetail

/-- A section of a recipe; its steps are numbered from its first one on. -/
def ofSection (r : Recipe) (s : Section) : SectionDetail :=
  ⟨s.heading, ((r.sectionSteps s).zip (List.range' s.first (s.stop - s.first))).map fun (step, id) =>
    StepDetail.ofStep r.graph step id⟩

def ofRecipe (r : Recipe) : List SectionDetail := r.sections.map (ofSection r)

end SectionDetail

/-- A related recipe and its name. -/
structure Relation where
  id : String
  name : String
  deriving DecidableEq, Repr

namespace Relation

/-- The related recipes that the library has, with their names in the first language, or else the
second, or else any. -/
def ofRecipe (l : Library) (lang fallback : String) (r : Recipe) : List Relation :=
  r.metadata.related.filterMap fun related =>
    ((l.get? related).bind fun e => e.choose? lang fallback).map fun other => ⟨related, other.name⟩

end Relation

structure Detail where
  recipe : Recipe
  imageUrl : Option String
  /-- The other languages that there is an edition in. -/
  otherLanguages : List String
  related : List Relation

namespace Site

/-- The recipe of an identifier in the first language, or else the second, or else any. -/
def detail? (site : Site) (id lang fallback : String) : Option Detail := do
  let editions ← site.library.get? id
  let recipe ← editions.choose? lang fallback
  return {
    recipe
    imageUrl := site.imageUrl recipe
    otherLanguages := editions.keys.filter (· ≠ recipe.lang)
    related := Relation.ofRecipe site.library lang fallback recipe }

end Site
end RecipeBook.Web
