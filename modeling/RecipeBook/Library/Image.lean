import RecipeBook.FileTree
import RecipeBook.Library
import RecipeBook.Text.Line

/-!
# Images of recipes

The image of a recipe is a file in the folder `images` beside the recipes. It has the name of the
recipe's file, less language and extension, or the identifier of the recipe.
-/

namespace RecipeBook.Library

/-- Where the picture is that stands for a missing image. -/
def noImage : String := "static/no-image.png"

/-- The names that an image of the recipe may have, without extension. -/
def imageStems (r : Recipe) : List String :=
  match FileName.split? r.metadata.fileName with
  | some (.ok name) => [name.rawId, r.id]
  | _ => [r.id, r.id]

/-- The files that may be the image of a recipe, in the order in which they are tried. -/
def imageCandidates (r : Recipe) : List String :=
  (imageStems r).flatMap fun stem =>
    ["png", "jpg"].map fun extension => "images/" ++ stem ++ "." ++ extension

/-- A location told from the folder leads to a file. -/
def isFileAt (folder : Folder) (location : String) : Bool := (folder.read location).isOk

/-- Where the image of a recipe is, told from the folder of the recipes. -/
def imagePath (folder : Folder) (r : Recipe) : String :=
  ((imageCandidates r).find? (isFileAt folder)).getD noImage

end RecipeBook.Library
