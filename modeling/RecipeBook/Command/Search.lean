import RecipeBook.Library.Load
import RecipeBook.Query.Read

/-!
# Searching a library

A search loads a folder and prints the recipes of one language that match a query as a table.
-/

namespace RecipeBook.Command

/-- The recipes that match a query, in the given language or the default one. -/
def search (location : String) (folder : Option FileTree) (query : String) (lang : Option String) :
    Except Failure (List Recipe) := do
  let (library, _) ← Library.load location folder
  let lang := lang.getD library.defaultLanguage
  if library.hasLanguage lang then return library.search lang (Query.read query)
  else throw (.notFound ("No recipes in language " ++ lang))

/-- A text of at most `limit` characters: of a longer one the end is replaced by three points. -/
def truncated (limit : Nat) (s : String) : String :=
  if s.length ≤ limit then s else .ofList (s.toList.take (limit - 3)) ++ "..."

/-- A text with spaces behind it up to a width. -/
def padded (width : Nat) (s : String) : String :=
  s ++ .ofList (List.replicate (width - s.length) ' ')

structure Column where
  title : String
  width : Nat
  content : Recipe → String

namespace Column

/-- Two places of every column stay free. -/
def cell (c : Column) (r : Recipe) : String := padded c.width (truncated (c.width - 2) (c.content r))

end Column

def columns : List Column :=
  [⟨"ID", 30, Recipe.id⟩, ⟨"Name", 40, Recipe.name⟩,
    ⟨"Tags", 20, fun r => ", ".intercalate r.metadata.tags⟩]

def row (cells : List String) : String := " ".intercalate cells ++ "\n"

def searchTable (rs : List Recipe) : String :=
  if rs = [] then "No recipes found\n"
  else
    "\nFound " ++ toString rs.length ++ " recipes:\n\n" ++
      row (columns.map fun c => padded c.width c.title) ++
      .ofList (List.replicate 90 '-') ++ "\n" ++
      String.join (rs.map fun r => row (columns.map fun c => c.cell r))

end RecipeBook.Command
