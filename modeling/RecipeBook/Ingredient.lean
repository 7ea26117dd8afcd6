import RecipeBook.Words

/-!
# Ingredients

An ingredient has a name and may have an amount and a unit. Its share per serving is the amount over
the serving count. In text, a single word is a name, two words an amount and a name, and more words
an amount, a unit and a name.
-/

namespace RecipeBook

structure Ingredient where
  name : String
  amount : Option Float
  unit : Option String
  perServing : Option Float

namespace Ingredient

/-- The share of one serving in an amount for `serves` servings. -/
def share (serves : Nat) (amount : Float) : Float := amount / Float.ofNat serves

def make (serves : Nat) (name : String) (amount : Option Float) (unit : Option String) :
    Ingredient :=
  ⟨name, amount, unit, amount.map (share serves)⟩

/-- The amount at the front of a line whose words are `parts`. -/
def readAmount (amount line : String) (parts : List String) : Except LoadError Float :=
  match Decimal.readFloat amount.toList with
  | .ok x => .ok x
  | .error fault => fail (.ingredientAmount amount line parts fault)

/-- The ingredient that a line of `parts` names. -/
def ofWords (serves : Nat) (line : String) (parts : List String) : Except LoadError Ingredient :=
  match parts with
  | [] => fail (.emptyIngredient line)
  | [name] => .ok (make serves name none none)
  | [amount, name] =>
    (readAmount amount line parts).map fun x => make serves name (some x) none
  | amount :: unit :: name =>
    (readAmount amount line parts).map fun x =>
      make serves (" ".intercalate name) (some x) (some unit)

def read (serves : Nat) (line : String) : Except LoadError Ingredient := do
  ofWords serves line (← Words.ofLine line)

end Ingredient
end RecipeBook
