import RecipeBook.Text.Line
import RecipeBook.Url.Percent

/-!
# Cookies

A cookie is a name and a value, both of which may be percent-encoded. A request may bring several
between semicolons and in several headers; of two with one name the last counts. A response sets a
cookie for the whole site.
-/

namespace RecipeBook.Web.Cookie

/-- A name or value that is percent-encoded; octets that are no text are refused. -/
def decode? (s : List Char) : Option String := Url.Percent.text? (Url.Percent.decodeText (.ofList s))

/-- Name and value of a cookie that is written so. -/
def read? (s : List Char) : Option (String × String) :=
  match Text.splitAtFirst (· == '=') s with
  | some (name, value) =>
    let name := Text.trim name
    if name = [] then none
    else do return (← decode? name, ← decode? (Text.trim value))
  | none => none

def readAll (header : String) : List (String × String) :=
  (Text.splitOn ';' header.toList).filterMap read?

/-- The value of the cookie of a name in the headers with cookies. -/
def find? (headers : List String) (name : String) : Option String :=
  (headers.flatMap readAll).reverse.lookup name

/-- A character that a header's value may hold. -/
def isHeaderChar (c : Char) : Bool := c == '\t' || (' ' ≤ c && c ≠ '\x7f')

/-- The header that sets a cookie, if its value can stand in one. -/
def header? (name value : String) : Option String :=
  let text := name ++ "=" ++ value ++ "; Path=/"
  if text.toList.all isHeaderChar then some text else none

end RecipeBook.Web.Cookie
