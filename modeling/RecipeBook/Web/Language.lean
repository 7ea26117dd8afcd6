import RecipeBook.Failure
import RecipeBook.Library

/-!
# The language of a response

A request may name a language, and may bring one in a cookie. A language that is named must be one of
the library; a cookie with another one is passed over. Without either the configured language counts
if the library has it, and otherwise the language of most recipes.
-/

namespace RecipeBook.Web.Language

/-- The language when a request says nothing. -/
def standard (l : Library) (configured : Option String) : String :=
  match configured with
  | some lang => if l.hasLanguage lang then lang else l.defaultLanguage
  | none => l.defaultLanguage

def resolve (l : Library) (configured named cookie : Option String) : Except Failure String :=
  match named with
  | some lang =>
    if l.hasLanguage lang then .ok lang
    else .error (.notFound ("No recipes in language " ++ lang))
  | none =>
    match cookie.filter l.hasLanguage with
    | some lang => .ok lang
    | none => .ok (standard l configured)

/-- The language that is to be remembered: a named one that the library has. -/
def remembered (l : Library) (named : Option String) : Option String := named.filter l.hasLanguage

end RecipeBook.Web.Language
