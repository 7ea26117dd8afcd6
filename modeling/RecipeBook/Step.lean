import RecipeBook.Instruction
import RecipeBook.LoadError

/-!
# Steps

A step consumes ingredients and the yields of earlier steps, and may yield something itself.
-/

namespace RecipeBook

structure Step where
  serves : Nat
  instructions : List InstructionPart
  ingredients : List Ingredient
  /-- Yields of other steps that the reader is told about. -/
  internal : List String
  /-- Yields of other steps that only order the work. -/
  hidden : List String
  yields : List String
  /-- The step can be done at any time before its yields are needed. -/
  independent : Bool

namespace Step

def empty (serves : Nat) : Step := ⟨serves, [], [], [], [], [], false⟩

/-- Every yield that the step consumes, in the order in which it names them. -/
def references (s : Step) : List String := s.internal ++ s.hidden

end Step

/-- A step at its place in a recipe. -/
structure PlacedStep extends Step where
  place : Place

/-- The steps under one heading, before the recipe is put together. -/
structure SectionDraft where
  heading : Option String
  steps : List Step

namespace SectionDraft

def empty : SectionDraft := ⟨none, []⟩

/-- Neither a heading nor a step. -/
def isBlank (d : SectionDraft) : Bool := d.heading.isNone && d.steps.isEmpty

end SectionDraft
end RecipeBook
