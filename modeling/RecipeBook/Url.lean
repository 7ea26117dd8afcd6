import RecipeBook.Url.Host

/-!
# URLs

A URL is a scheme, an authority, a path, a query and a fragment. `Url.read` reads it as browsers do:
what may not stand in a part is percent-encoded, dots in paths are resolved, and in the known schemes
a backslash counts as a slash. `Url.join` follows a relative path.
-/

namespace RecipeBook

/-- The path of a URL. -/
inductive UrlPath
  /-- A text that is no hierarchy. -/
  | verbatim (text : List Char)
  | segments (names : List (List Char))
  deriving DecidableEq, Repr

structure Url where
  scheme : String
  /-- User, host and number as they are written. -/
  authority : Option String
  path : UrlPath
  query : Option (List Char)
  fragment : Option (List Char)
  deriving DecidableEq, Repr

namespace Url

/-- Schemes differ in what their URLs look like. -/
inductive Kind
  | file
  /-- A scheme for hosts; its usual number is left out. -/
  | known (portNumber : Nat)
  | other
  deriving DecidableEq, Repr

namespace Kind

def ofScheme (scheme : String) : Kind :=
  if scheme = "file" then file
  else if scheme = "http" ∨ scheme = "ws" then known 80
  else if scheme = "https" ∨ scheme = "wss" then known 443
  else if scheme = "ftp" then known 21
  else other

def isOther : Kind → Bool
  | other => true
  | _ => false

/-- Outside other schemes a backslash counts as a slash. -/
def isSlash (k : Kind) (c : Char) : Bool := c == '/' || (c == '\\' && !k.isOther)

/-- The authority ends before such a character. -/
def endsAuthority (k : Kind) (c : Char) : Bool := k.isSlash c || c == '?' || c == '#'

end Kind

/-! ## Parts -/

def isTrimmed (c : Char) : Bool := c ≤ ' '

/-- The text without controls and spaces at its ends and without tabs and line breaks. -/
def cleaned (s : List Char) : List Char :=
  (((s.dropWhile isTrimmed).reverse.dropWhile isTrimmed).reverse).filter fun c =>
    c ≠ '\t' && c ≠ '\n' && c ≠ '\r'

def isSchemeChar (c : Char) : Bool := c.isAlphanum || c == '+' || c == '-' || c == '.'

/-- The scheme before the first colon, in lower case, and what is behind the colon. -/
def scheme? (s : List Char) : Option (String × List Char) :=
  match s.dropWhile isSchemeChar with
  | ':' :: rest =>
    if s.head?.any Char.isAlpha then
      some (.ofList ((s.takeWhile isSchemeChar).map Char.toLower), rest)
    else none
  | _ => none

/-- User and password, encoded, with a mark behind them. Nothing is written for an empty password. -/
def userInfo (s : List Char) : List Char :=
  let encode := Percent.encode Percent.userSet
  let user := encode (s.takeWhile (· ≠ ':'))
  let password := encode (s.dropWhile (· ≠ ':')).tail
  if user = [] ∧ password = [] then []
  else user ++ (if password = [] then [] else ':' :: password) ++ ['@']

/-- The part before a colon that is not between brackets, and the part from the colon on. -/
def hostParts (inside : Bool) : List Char → List Char × List Char
  | [] => ([], [])
  | c :: r =>
    if c = ':' ∧ !inside then ([], c :: r)
    else
      let p := hostParts (if c = '[' then true else if c = ']' then false else inside) r
      (c :: p.1, p.2)

/-- A number of 16 bits, if there are digits at all. -/
def portNumber? (s : List Char) : Except Fault (Option Nat) :=
  if s = [] then .ok none
  else if s.all Char.isDigit then
    match Number.readWhole (Number.maxOf 16) s with
    | .ok n => .ok (some n)
    | .error _ => .error .portNumber
  else .error .portNumber

/-- A host, and a number behind a colon. A scheme for hosts needs a host, and so does a number. -/
def hostAndNumber (kind : Kind) (name number : List Char) (hasNumber : Bool) :
    Except Fault String := do
  let host ←
    if kind.isOther then Host.verbatim name
    else if name = [] then throw .emptyHost
    else Host.ofDomain name
  if host = "" ∧ hasNumber then throw .emptyHost
  match ← portNumber? number with
  | some n => return if kind = .known n then host else host ++ ":" ++ toString n
  | none => return host

/-- The authority that is written so, and what is behind a backslash in the place of its number,
which belongs to the path. `isLast` tells that nothing follows. -/
def authorityParts (kind : Kind) (isLast : Bool) (s : List Char) :
    Except Fault (String × List Char) := do
  let (user, host) := (Text.splitAtLast '@' s).getD ([], s)
  if user = [] ∧ host = [] ∧ s ≠ [] ∧ !isLast then throw .emptyHost
  let user := userInfo user
  let (name, rest) := hostParts false host
  let number := rest.tail.takeWhile (· ≠ '\\')
  let host ← hostAndNumber kind name number (rest ≠ [])
  if host = "" ∧ user ≠ [] then throw .emptyHost
  return (.ofList user ++ host, rest.tail.dropWhile (· ≠ '\\'))

/-- The host of a file; the own one is not written. -/
def fileHost (s : List Char) : Except Fault String := do
  if s = [] then return ""
  let host ← Host.ofDomain s
  return if host = "localhost" then "" else host

/-! ## Paths -/

/-- One dot, each of which may be encoded. -/
def isDot (s : List Char) : Bool := s == ['.'] || s.map Char.toLower == "%2e".toList

def isTwoDots (s : List Char) : Bool :=
  ["..", "%2e.", ".%2e", "%2e%2e"].any fun dots => s.map Char.toLower == dots.toList

/-- A letter and a colon, or a bar in its place, name a drive. -/
def isDrive : List Char → Bool
  | [letter, mark] => letter.isAlpha && (mark == ':' || mark == '|')
  | _ => false

/-- A drive with a colon. -/
def isPlainDrive (name : List Char) : Bool := isDrive name && name.getLast? = some ':'

/-- No dots lead up from a drive, also where a backslash follows it. -/
def holdsDots (name : List Char) : Bool :=
  isDrive name || (isDrive (name.take 2) && (name.drop 2).head? = some '\\')

/-- The path without its last name, unless that is a drive. -/
def up (path : List (List Char)) : List (List Char) :=
  if path.getLast?.any holdsDots then path else path.dropLast

/-- The path after one name more. Two dots lead up; dots at the end leave an empty name. -/
def step (path : List (List Char)) (name : List Char) (isLast : Bool) : List (List Char) :=
  let name := Percent.encode Percent.pathSet name
  let ending := if isLast then [[]] else []
  if isTwoDots name then up path ++ ending
  else if isDot name then path ++ ending
  else path ++ [name]

def walk (path : List (List Char)) : List (List Char) → List (List Char)
  | [] => path
  | [name] => step path name true
  | name :: rest => walk (step path name false) rest

/-- The names between slashes. -/
def names (kind : Kind) (s : List Char) : List (List Char) :=
  Text.splitOn '/' (s.map fun c => if kind.isSlash c then '/' else c)

/-- The path that text leads to from a path. -/
def follow (kind : Kind) (base : List (List Char)) (s : List Char) : List (List Char) :=
  walk base (names kind s)

/-! ## Paths of files -/

/-- A drive at the start of the path, with a colon. -/
def withColon : List (List Char) → List (List Char)
  | name :: rest => if isDrive name then (name.take 1 ++ [':']) :: rest else name :: rest
  | [] => []

/-- The path of a file does not start with an empty name. -/
def withoutEmptyStart (path : List (List Char)) : List (List Char) :=
  match path.dropWhile (· = []) with
  | [] => [[]]
  | path => path

/-- The path of a file that text leads to from a path. -/
def followFile (base : List (List Char)) (s : List Char) : List (List Char) :=
  let path := follow .file base s
  withoutEmptyStart (if base = [] then withColon path else path)

/-- What is before the query and fragment, the query, and the fragment. -/
def tails (s : List Char) : List Char × Option (List Char) × Option (List Char) :=
  let rest := s.takeWhile (· ≠ '#')
  let fragment := (s.dropWhile (· ≠ '#')).tail?
  (rest.takeWhile (· ≠ '?'), (rest.dropWhile (· ≠ '?')).tail?, fragment)

/-- Query and fragment, encoded. -/
def withTails (kind : Kind) (query fragment : Option (List Char)) (u : Url) : Url :=
  let querySet := if kind.isOther then Percent.querySet else '\'' :: Percent.querySet
  { u with
    query := query.map (Percent.encode querySet)
    fragment := fragment.map (Percent.encode Percent.fragmentSet) }

/-! ## Reading -/

/-- Reads what is behind the slashes before an authority. -/
def readAuthority (scheme : String) (kind : Kind) (s : List Char) : Except Fault Url := do
  let written := s.takeWhile (!kind.endsAuthority ·)
  let rest := s.dropWhile (!kind.endsAuthority ·)
  let (authority, more) ← authorityParts kind rest.isEmpty written
  let (path, query, fragment) := tails (more ++ rest)
  let names :=
    match path with
    | [] => if kind.isOther then [] else [[]]
    | c :: path => follow kind [] (if kind.isSlash c then path else c :: path)
  return withTails kind query fragment ⟨scheme, some authority, .segments names, none, none⟩

/-- Reads what is behind two slashes in the URL of a file. In the place of the host a drive may stand,
and a drive at the start of the path leaves no host. -/
def readFileHost (s : List Char) : Except Fault Url := do
  let written := s.takeWhile (!Kind.file.endsAuthority ·)
  let host ← if isDrive written then pure "" else fileHost written
  let (path, query, fragment) := tails (s.drop (if isDrive written then 0 else written.length))
  let path := if path.head?.any Kind.file.isSlash then path.tail else path
  let names := follow .file [] path
  let (host, names) :=
    if isDrive written || (host ≠ "" && names.head?.any isDrive) then ("", withColon names)
    else (host, names)
  return withTails .file query fragment
    ⟨"file", some host, .segments (withoutEmptyStart names), none, none⟩

/-- Reads what is behind the scheme. -/
def readRest (scheme : String) (s : List Char) : Except Fault Url :=
  let kind := Kind.ofScheme scheme
  let (path, query, fragment) := tails s
  match kind, s with
  | .known _, s => readAuthority scheme kind (s.dropWhile kind.isSlash)
  | .file, s =>
    match Text.dropStart? ['/', '/'] (s.map fun c => if c = '\\' then '/' else c) with
    | some _ => readFileHost (s.drop 2)
    | none =>
      let path := if path.head?.any kind.isSlash then path.tail else path
      .ok (withTails kind query fragment
        ⟨scheme, some "", .segments (followFile [] path), none, none⟩)
  | .other, '/' :: '/' :: s => readAuthority scheme kind s
  | .other, '/' :: _ =>
    .ok (withTails kind query fragment
      ⟨scheme, none, .segments (follow kind [] path.tail), none, none⟩)
  | .other, _ =>
    .ok (withTails kind query fragment
      ⟨scheme, none, .verbatim (Percent.encode [] path), none, none⟩)

def read (s : String) : Except Fault Url :=
  match scheme? (cleaned s.toList) with
  | some (scheme, rest) => readRest scheme rest
  | none => .error .relative

/-- The path that a relative path leads to from the path of a file. A drive is never left: it is the
folder if it is the whole path, and elsewhere the name goes on behind it. -/
def joinFile (names : List (List Char)) (path : List Char) : List (List Char) :=
  match names.getLast? with
  | some last =>
    if isPlainDrive last then
      if names.length = 1 then followFile names path else followFile names.dropLast (last ++ path)
    else followFile names.dropLast path
  | none => followFile [] path

/-- Follows a relative path that starts with a name. -/
def join (u : Url) (relative : String) : Except Fault Url :=
  let kind := Kind.ofScheme u.scheme
  let (path, query, fragment) := tails (cleaned relative.toList)
  match u.path with
  | .verbatim _ => .error .noBase
  | .segments names =>
    let names := if kind = .file then joinFile names path else follow kind names.dropLast path
    .ok (withTails kind query fragment { u with path := .segments names })

/-! ## Writing -/

def pathText (u : Url) : String :=
  match u.path with
  | .verbatim text => .ofList text
  | .segments names => .ofList (names.flatMap fun name => '/' :: name)

/-- What keeps a path from being taken for an authority: without one, an empty name at the start of a
path stands behind a dot. -/
def pathGuard (u : Url) : String :=
  match u.authority, u.path with
  | none, .segments ([] :: _ :: _) => "/."
  | _, _ => ""

def text (u : Url) : String :=
  u.scheme ++ ":" ++ (u.authority.map ("//" ++ ·)).getD "" ++ u.pathGuard ++ u.pathText ++
    (u.query.map fun q => "?" ++ String.ofList q).getD "" ++
    (u.fragment.map fun f => "#" ++ String.ofList f).getD ""

end Url
end RecipeBook
