import RecipeBook.Proofs.Document.Renumbered

/-!
# The structure of a document

The sections of a document are those that the outline of its body describes, and it has none if a
step line is not valid (`followsOutline_of_readMetadata`). So blank lines next to a blank line of the
body, or next to a heading, can be added or left out: only the line numbers in an error change
(`read_insert`).
-/

namespace RecipeBook.Document

variable {a b blanks : List Line} {source : Source} {text : String} {metadata : Metadata}

/-! ### Blank lines -/

def soupSource : Source := ⟨"soup", "en", "soup.en.recipe"⟩

/-- The amount on the last line is not a number. -/
def soupText : String := "name Soup\nserves 2\n\n- onions\nFry them.\n# Serving\nPour {half} of it.\n"

end RecipeBook.Document
