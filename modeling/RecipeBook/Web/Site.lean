import RecipeBook.Library.Image
import RecipeBook.Settings
import RecipeBook.Web.Language

/-!
# The site

A site is a library with its folder and settings, as of the moment of a request.
-/

namespace RecipeBook.Web

structure Site where
  library : Library
  /-- The folder of the library as it is now. -/
  folder : Folder
  /-- When a file of the folder was last changed, in seconds from the beginning of 1970. -/
  changedAt : Nat
  settings : Settings
  /-- When the library was loaded. -/
  loadedAt : String

namespace Site

/-- A host that stands for this one. -/
def ownOrigin : String := "http://localhost/"

/-- The URL of a path below a base. -/
def urlBelow (base path : String) : Except Url.Fault Url := do (← Url.read base).join path

/-- Where the image of a recipe is found, if it has one: below the configured base, or else below the
root of the site. -/
def imageUrl (site : Site) (r : Recipe) : Option String :=
  let path := Library.imagePath site.folder r
  if path = Library.noImage then none
  else
    let relative := (urlBelow ownOrigin path).toOption.map Url.pathText
    match site.settings.baseUrl with
    | some base => ((urlBelow base path).toOption.map Url.text).or relative
    | none => relative

def standardLanguage (site : Site) : String :=
  Language.standard site.library site.settings.defaultLang

end Site
end RecipeBook.Web
