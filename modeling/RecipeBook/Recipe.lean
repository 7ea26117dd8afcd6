import RecipeBook.StepGraph
import RecipeBook.Totals

/-!
# Recipes

`Recipe.assemble` puts sections of steps one after the other, so that each section is a range of
step numbers, adds up the ingredients and links the steps.
-/

namespace RecipeBook

/-- A heading and the steps under it: those from `first` on, less those from `stop` on. -/
structure Section where
  heading : Option String
  first : Nat
  stop : Nat
  deriving DecidableEq, Repr

structure Recipe where
  metadata : Metadata
  sections : List Section
  steps : List PlacedStep
  totals : Totals
  graph : StepGraph

namespace Recipe

/-- The sections of some drafts, where `first` steps come before them. -/
def sectionsFrom (first : Nat) : List SectionDraft → List Section
  | [] => []
  | d :: ds =>
    ⟨d.heading, first, first + d.steps.length⟩ :: sectionsFrom (first + d.steps.length) ds

/-- The steps of some drafts, where `index` sections come before them. -/
def stepsFrom (index : Nat) : List SectionDraft → List PlacedStep
  | [] => []
  | d :: ds =>
    (d.steps.zipIdx.map fun (step, ordinal) => { step with place := ⟨ordinal, index⟩ }) ++
      stepsFrom (index + 1) ds

/-- The recipe of some sections, its steps not linked. -/
def unlinked (metadata : Metadata) (drafts : List SectionDraft) : Recipe :=
  let steps := stepsFrom 0 drafts
  { metadata
    sections := sectionsFrom 0 drafts
    steps
    totals := Totals.ofList metadata.serves (steps.flatMap fun s => s.ingredients)
    graph := .empty }

/-- Links the steps anew. A failed attempt leaves what `StepGraph.build` found. -/
def relink (r : Recipe) : Recipe × Option LoadError :=
  let b := StepGraph.build r.steps
  ({ r with graph := b.graph }, b.fault)

def assemble (metadata : Metadata) (drafts : List SectionDraft) : Except LoadError Recipe :=
  match (unlinked metadata drafts).relink with
  | (r, none) => .ok r
  | (_, some e) => .error e

variable (r : Recipe)

def id : String := r.metadata.id
def lang : String := r.metadata.lang
def name : String := r.metadata.name

/-- The steps of a section. -/
def sectionSteps (s : Section) : List PlacedStep := (r.steps.drop s.first).take (s.stop - s.first)

/-- Every pair of a step and a step that depends on it, by the former. -/
def edges : List (Nat × Nat) := r.graph.allEdges r.steps.length

/-- The texts in which words are looked for. -/
def texts : List String := r.name :: (r.metadata.description.toList ++ r.metadata.note.toList)

/-- The words of name, description and note, in lower case. -/
def words : List String :=
  (r.texts.flatMap fun t => Text.words t.toList).map fun w => lowered (.ofList w)

def ingredientNames : List String := r.totals.map fun i => lowered i.name

def hasTag (tag : String) : Bool := r.metadata.tags.contains (lowered tag)

def hasIngredient (name : String) : Bool := r.ingredientNames.contains (lowered name)

def hasWord (word : String) : Bool := r.words.contains (lowered word)

end Recipe
end RecipeBook
