import RecipeBook.Recipe

/-!
# Search queries

A query asks for a tag, for an ingredient, or for either of them or a word of the name, the
description or the note; or for several queries at once. An empty conjunction matches every recipe.
-/

namespace RecipeBook

inductive Query
  | tag (term : String)
  | ingredient (term : String)
  | generic (term : String)
  | all (clauses : List Query)

namespace Query

def isMatch (r : Recipe) : Query → Bool
  | tag term => r.hasTag term
  | ingredient term => r.hasIngredient term
  | generic term => r.hasTag term || r.hasIngredient term || r.hasWord term
  | all clauses => clauses.attach.all fun ⟨q, _⟩ => isMatch r q

def isEmpty : Query → Bool
  | all [] => true
  | _ => false

/-- The query in words. -/
def describe : Query → String
  | tag term => "[Tag: " ++ term ++ "]"
  | ingredient term => "[Ingredient: " ++ term ++ "]"
  | generic term => "[Generic: " ++ term ++ "]"
  | all clauses => " AND ".intercalate (clauses.attach.map fun ⟨q, _⟩ => describe q)

end Query
end RecipeBook
