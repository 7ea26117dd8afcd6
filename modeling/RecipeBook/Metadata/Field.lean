/-!
# The fields of a recipe's header
-/

namespace RecipeBook

/-- What the header of a recipe can say, each at most once. -/
inductive Field
  | name
  | serves
  | servingsUnit
  | servingsIncrement
  | description
  | note
  | tags
  | related
  | attribution
  | hideFromAll
  | schemaVersion
  deriving DecidableEq, Repr

namespace Field

def label : Field → String
  | name => "name"
  | serves => "serves"
  | servingsUnit => "servings_unit"
  | servingsIncrement => "servings_increment"
  | description => "description"
  | note => "note"
  | tags => "tags"
  | related => "related"
  | attribution => "attribution"
  | hideFromAll => "hide_from_all"
  | schemaVersion => "schema_version"

end Field
end RecipeBook
