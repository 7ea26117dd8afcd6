import RecipeBook.Ingredient

/-!
# Ingredient totals

The totals of a recipe have one entry per name and unit. `merge` takes up one more occurrence:
amounts are added up from left to right, and so are the shares per serving, on their own. Entries
with an amount come first, in the order in which they got one; the others keep their order behind.
-/

namespace RecipeBook

/-- One entry per name and unit, those with an amount first. -/
abbrev Totals := List Ingredient

namespace Ingredient

/-- The same name and unit, letter by letter. -/
def sameKey (a b : Ingredient) : Bool := a.name == b.name && a.unit == b.unit

def isQuantified (i : Ingredient) : Bool := i.amount.isSome

/-- The sum of what there is. -/
def addOption : Option Float → Option Float → Option Float
  | some a, some b => some (a + b)
  | some a, none => some a
  | none, b => b

/-- The entry with one more occurrence that has an amount, for an entry that has one too. -/
def plus (entry new : Ingredient) (old added : Float) : Ingredient :=
  { entry with amount := some (old + added), perServing := addOption entry.perServing new.perServing }

end Ingredient

namespace Totals

/-- Puts an entry with an amount behind the others that have one. -/
def insertQuantified (t : Totals) (entry : Ingredient) : Totals :=
  t.takeWhile Ingredient.isQuantified ++ entry :: t.dropWhile Ingredient.isQuantified

/-- Changes the first entry with the same name and unit. -/
def replaceFirst (t : Totals) (new entry : Ingredient) : Totals :=
  match t with
  | [] => []
  | e :: rest => if e.sameKey new then entry :: rest else e :: replaceFirst rest new entry

/-- Adds one occurrence to the totals of a recipe for `serves` servings. -/
def merge (serves : Nat) (t : Totals) (new : Ingredient) : Totals :=
  match t.find? (·.sameKey new) with
  | none =>
    let entry := Ingredient.make serves new.name new.amount new.unit
    if entry.isQuantified then insertQuantified t entry else t ++ [entry]
  | some entry =>
    match entry.amount, new.amount with
    | none, some a =>
      insertQuantified (t.eraseP (·.sameKey new))
        { entry with amount := some a, perServing := new.perServing }
    | some old, some added => replaceFirst t new (entry.plus new old added)
    | _, none => t

/-- The totals of the given occurrences, in order. -/
def ofList (serves : Nat) (ingredients : List Ingredient) : Totals :=
  ingredients.foldl (merge serves) []

end Totals
end RecipeBook
