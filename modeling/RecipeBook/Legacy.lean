import RecipeBook.Document
import RecipeBook.Metadata.Builder
import RecipeBook.Recipe

/-!
# Recipes of the first generation

The first generation of recipe documents was a record with six lists of steps. `LegacyRecipe` is that
record, and `LegacyRecipe.toRecipe` makes a recipe of it: every list that is not empty becomes a
section with a heading of its own, in a fixed order.
-/

namespace RecipeBook

/-- One text, or a list of texts. -/
inductive OneOrMany
  | one (text : String)
  | many (texts : List String)
  deriving DecidableEq, Repr

structure LegacyIngredient where
  ingredient : String
  amount : Option Float
  unit : Option String

structure LegacyStep where
  instructions : String
  ingredients : List LegacyIngredient
  internal : List String
  hidden : List String
  yields : Option OneOrMany

/-- The lists of steps, in the order of their sections. -/
inductive Stage
  | prep
  | misEnPlace
  | cooking
  | passiveCooking
  | cooking2
  | passiveCooking2
  deriving DecidableEq, Repr

namespace Stage

def all : List Stage := [prep, misEnPlace, cooking, passiveCooking, cooking2, passiveCooking2]

def heading : Stage → String
  | prep => "Prep"
  | misEnPlace => "Mis-en-place"
  | cooking => "Cooking"
  | passiveCooking => "Passive cooking"
  | cooking2 => "Cooking pt. 2"
  | passiveCooking2 => "Passive cooking pt. 2"

end Stage

structure LegacyRecipe where
  name : String
  serves : Nat
  servingsUnit : Option String
  servingsIncrement : Option Float
  descr : Option String
  note : Option String
  tags : Option OneOrMany
  hideFromAll : Bool
  related : List String
  stage : Stage → List LegacyStep

namespace LegacyStep

def toStep (serves : Nat) (s : LegacyStep) : Step where
  serves
  instructions := [.text (trimmed s.instructions)]
  ingredients := s.ingredients.map fun i => Ingredient.make serves i.ingredient i.amount i.unit
  internal := s.internal
  hidden := s.hidden
  yields :=
    match s.yields with
    | none => []
    | some (.one name) => [nameKey name]
    | some (.many names) => names.map nameKey
  independent := false

end LegacyStep

/-- A text less the commas at its ends. -/
def stripCommas (s : List Char) : List Char :=
  ((s.dropWhile (· = ',')).reverse.dropWhile (· = ',')).reverse

namespace OneOrMany

/-- One item of a tag list: trimmed, then without commas at its ends, then in lower case. -/
def tagOf (item : String) : String := .ofList (Text.lower (stripCommas (Text.trim item.toList)))

/-- Tags are given as a text with commas or as a list. -/
def toTags : OneOrMany → List String
  | one text => splitList text
  | many items => (items.map tagOf).filter (· ≠ "")

end OneOrMany

namespace LegacyRecipe

/-- The entries of the header that the record amounts to. -/
def entries (r : LegacyRecipe) : List Entry :=
  [.name r.name, .serves r.serves] ++
    (r.servingsUnit.map Entry.servingsUnit).toList ++
    (r.servingsIncrement.map Entry.servingsIncrement).toList ++
    (r.descr.map fun s => Entry.description (trimmed s)).toList ++
    (r.note.map fun s => Entry.note (trimmed s)).toList ++
    (r.tags.map fun t => Entry.tags t.toTags).toList ++
    (if r.related = [] then [] else [.related (r.related.map normalizeId)]) ++
    (if r.hideFromAll then [.hideFromAll true] else [])

/-- The sections of the lists that are not empty. -/
def drafts (r : LegacyRecipe) : List SectionDraft :=
  (Stage.all.filter fun s => r.stage s ≠ []).map fun s =>
    ⟨some s.heading, (r.stage s).map (LegacyStep.toStep r.serves)⟩

def metadata (r : LegacyRecipe) (source : Document.Source) : Except LoadError Metadata :=
  match (Builder.start source.id source.lang source.fileName).addAll r.entries with
  | (_, some fault) => .error fault
  | (b, none) => b.build

def toRecipe (r : LegacyRecipe) (source : Document.Source) : Except LoadError Recipe := do
  if r.serves = 0 then fail .servingCountZero
  else Recipe.assemble (← r.metadata source) r.drafts

end LegacyRecipe
end RecipeBook
