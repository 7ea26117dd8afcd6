import RecipeBook.Web.Cookie
import RecipeBook.Web.Response
import RecipeBook.Web.Target

/-!
# Requests

A request has a method, a target and headers. `Request.make?` makes one only from what can be sent: the
method and the names of headers are tokens, and a header's value has no control characters. `ofHead?`
reads the head of a request as it is sent.
-/

namespace RecipeBook.Web

structure Request where
  method : String
  target : Target
  /-- Names are in lower case. -/
  headers : Headers

/-- A token is a word of ASCII letters, digits and some signs. -/
def isToken (s : String) : Bool :=
  s ≠ "" && s.toList.all fun c => c.isAlphanum || "!#$%&'*+-.^_`|~".toList.contains c

namespace Request

def header? (r : Request) (name : String) : Option String := r.headers.lookup name

/-- The values of all headers of a name. -/
def headersOf (r : Request) (name : String) : List String :=
  (r.headers.filter (·.1 = name)).map Prod.snd

def make? (method target : String) (headers : Headers) : Option Request := do
  let target ← Target.read? target
  if isToken method && headers.all fun h => isToken h.1 && h.2.toList.all Cookie.isHeaderChar then
    some ⟨method, target, headers.map fun h => (.ofList (h.1.toList.map Char.toLower), h.2)⟩
  else none

/-- A line of the head that holds a header. -/
def headerLine? (line : List Char) : Option (String × String) :=
  (Text.splitAtFirst (· == ':') line).map fun (name, value) =>
    (.ofList name, .ofList (Text.trim value))

/-- Reads the head of a request: a line with the method and the target, then a line for each
header. -/
def ofHead? (head : String) : Option Request := do
  match Text.lines head.toList with
  | first :: rest =>
    match (Text.splitOn ' ' first).map String.ofList with
    | [method, target, _] =>
      make? method target (← (rest.takeWhile (· ≠ [])).mapM headerLine?)
    | _ => none
  | [] => none

end Request
end RecipeBook.Web
