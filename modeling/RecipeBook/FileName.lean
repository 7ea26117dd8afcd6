import RecipeBook.LoadError

/-!
# Names of recipe files

A recipe file is named `<name>.<language>.<extension>`. The name may hold points, the language and
the extension hold none, and neither name nor language is empty.
-/

namespace RecipeBook

inductive DocumentFormat
  | recipe
  | legacy
  deriving DecidableEq, Repr

namespace DocumentFormat

/-- The format that a file extension stands for. -/
def ofExtension? (extension : String) : Option DocumentFormat :=
  if extension = "recipe" then some recipe
  else if extension = "yml" ∨ extension = "yaml" then some legacy
  else none

end DocumentFormat

structure FileName where
  rawId : String
  lang : String
  extension : String
  deriving DecidableEq, Repr

namespace FileName

/-- Takes a name apart. A name without a point is no file name at all. -/
def split? (s : String) : Option (Except LoadError FileName) :=
  match Text.splitAtLast '.' s.toList with
  | none => none
  | some (stem, extension) =>
    match Text.splitAtLast '.' stem with
    | some (rawId, lang) =>
      if rawId = [] ∨ lang = [] then some (fail (.noLanguageTag s (.ofList extension)))
      else some (.ok ⟨.ofList rawId, .ofList lang, .ofList extension⟩)
    | none => some (fail (.noLanguageTag s (.ofList extension)))

/-- What is behind the last point of a name, unless nothing is before it. -/
def extension? (s : String) : Option String :=
  match Text.splitAtLast '.' s.toList with
  | some (_ :: _, extension) => some (.ofList extension)
  | _ => none

/-- The format of a file by its name. -/
def format? (s : String) : Option DocumentFormat :=
  (extension? s).bind DocumentFormat.ofExtension?

end FileName
end RecipeBook
