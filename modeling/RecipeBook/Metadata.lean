import RecipeBook.Text.Line
import RecipeBook.Text.LowerCase

/-!
# What a recipe's header says

`normalizeId` gives the form in which recipe names are compared, and `splitList` reads a list that
is separated by commas.
-/

namespace RecipeBook

/-- The lower-case form of a text. -/
def lowered (s : String) : String := .ofList (Text.lower s.toList)

/-- The text without blank characters at its ends. -/
def trimmed (s : String) : String := .ofList (Text.trim s.toList)

/-- The trimmed lower-case form of a name, in which names are compared. -/
def nameKey (s : String) : String := lowered (trimmed s)

/-- The identifier of a recipe: trimmed, in lower case, and hyphens for spaces. -/
def normalizeId (s : String) : String :=
  .ofList ((nameKey s).toList.map fun c => if c = ' ' then '-' else c)

/-- The entries of a list with commas between them, trimmed and in lower case, less empty ones. -/
def splitList (s : String) : List String :=
  ((Text.splitOn ',' s.toList).map fun entry => nameKey (.ofList entry)).filter (· ≠ "")

structure Metadata where
  id : String
  lang : String
  fileName : String
  name : String
  serves : Nat
  servingsUnit : Option String
  servingsIncrement : Float
  description : Option String
  note : Option String
  tags : List String
  related : List String
  attribution : Option String
  hideFromAll : Bool
  schemaVersion : Nat

end RecipeBook
