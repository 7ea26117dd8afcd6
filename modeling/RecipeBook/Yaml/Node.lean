import RecipeBook.Yaml.Token

/-!
# Values of a YAML document

A node is a scalar, a sequence, a mapping or a reference to an anchored node. Where a text stops being
well-formed the node is `cut`; a sequence or mapping that holds a cut goes no further.
-/

namespace RecipeBook.Yaml

inductive Node
  | scalar (tag : Option String) (style : Style) (text : String)
  | sequence (tag : Option String) (items : List Node)
  | mapping (tag : Option String) (pairs : List (Node × Node))
  /-- The node with the anchor of the given number. -/
  | reference (anchor : Nat)
  /-- The text is not well-formed from here on. -/
  | cut

namespace Node

/-- A value that is not written. -/
def empty : Node := .scalar none .plain ""

def isCut : Node → Bool
  | cut => true
  | _ => false

mutual

/-- The number of scalars, references, starts and ends of the node. -/
def weight : Node → Nat
  | scalar .. => 1
  | reference _ => 1
  | sequence _ items => 1 + itemsWeight items
  | mapping _ pairs => 1 + pairsWeight pairs
  | cut => 0

def itemsWeight : List Node → Nat
  | [] => 1
  | item :: rest => if item.isCut then 0 else weight item + itemsWeight rest

def pairsWeight : List (Node × Node) → Nat
  | [] => 1
  | (key, value) :: rest =>
    if key.isCut || value.isCut then weight key + weight value
    else weight key + weight value + pairsWeight rest

end

end Node
end RecipeBook.Yaml
