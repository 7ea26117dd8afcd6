import RecipeBook.Text.Line
import RecipeBook.Text.Utf8
import RecipeBook.Url.Percent
import RecipeBook.Web.Authority

/-!
# What a request asks for

The target of a request is a path and a query, which may stand behind a scheme and an authority. A
query is a list of fields with percent-encoded names and values.
-/

namespace RecipeBook.Web

structure Target where
  /-- Scheme and authority with the signs behind the scheme, if the target begins with them. -/
  origin : String
  path : String
  /-- What is behind the question mark, if there is one. -/
  query : Option String
  deriving DecidableEq, Repr

namespace Target

/-- The most bytes that a target may have. -/
def maxSize : Nat := 65534

/-- The most characters that a scheme may have. -/
def maxSchemeLength : Nat := 64

def isPathChar (c : Char) : Bool := '!' ≤ c && !"#<>?`\x7f".toList.contains c

def isQueryChar (c : Char) : Bool := '!' ≤ c && !"\"#<>\x7f".toList.contains c

def isSchemeChar (c : Char) : Bool := c.isAlphanum || "+-.~".toList.contains c

/-- Path and query behind an origin; a fragment is dropped. -/
def readPath (origin : List Char) (s : List Char) : Option Target :=
  let s := s.takeWhile (· ≠ '#')
  let path := s.takeWhile (· ≠ '?')
  let query := s.dropWhile (· ≠ '?')
  if path.all isPathChar && query.all isQueryChar then
    some {
      origin := .ofList origin
      path := if path = [] then "/" else .ofList path
      query := if query = [] then none else some (.ofList query.tail) }
  else none

/-- The scheme, and what is behind it and the two slashes. -/
def splitScheme? (s : List Char) : Option (List Char × List Char) :=
  (Text.dropStart? "://".toList (s.dropWhile isSchemeChar)).map fun rest =>
    (s.takeWhile isSchemeChar, rest)

/-- The known schemes are written in lower case. -/
def writeScheme (scheme : List Char) : List Char :=
  let lower := scheme.map Char.toLower
  if lower = "http".toList ∨ lower = "https".toList then lower else scheme

/-- Reads a target; nothing comes of a text that cannot be sent. An authority alone asks for no
path. -/
def read? (s : String) : Option Target :=
  if maxSize < s.utf8ByteSize then none
  else
    let s := s.toList
    if s.head? = some '/' then readPath [] s
    else if s = ['*'] then some ⟨"", "*", none⟩
    else
      match splitScheme? s with
      | some (scheme, rest) =>
        let authority := rest.takeWhile (!Authority.isEnd ·)
        if scheme.length ≤ maxSchemeLength && Authority.isAuthority authority then
          readPath (writeScheme scheme ++ "://".toList ++ authority)
            (rest.dropWhile (!Authority.isEnd ·))
        else none
      | none => if Authority.isAuthority s then some ⟨"", "", none⟩ else none

/-- The target as it is written. -/
def text (t : Target) : String :=
  t.origin ++ t.path ++ (match t.query with
    | some query => "?" ++ query
    | none => "")

end Target

namespace Form

/-- A name or value: plus signs are spaces. -/
def decode (s : List Char) : String :=
  .ofList (Text.Utf8.lossy
    (Url.Percent.decodeText (.ofList (s.map fun c => if c = '+' then ' ' else c))))

/-- The fields between ampersands. A field without an equals sign has an empty value. -/
def pairs (query : String) : List (String × String) :=
  ((Text.splitOn '&' query.toList).filter (· ≠ [])).map fun field =>
    match Text.splitAtFirst (· == '=') field with
    | some (name, value) => (decode name, decode value)
    | none => (decode field, "")

/-- The first of the known names that comes a second time. -/
def repeated? (known : List String) (seen : List String) : List String → Option String
  | [] => none
  | name :: rest =>
    if known.contains name then
      if seen.contains name then some name else repeated? known (name :: seen) rest
    else repeated? known seen rest

end Form
end RecipeBook.Web
