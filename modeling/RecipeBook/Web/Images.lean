import RecipeBook.Web.ByteRange
import RecipeBook.Web.ContentType
import RecipeBook.Web.Request
import RecipeBook.Web.Site
import RecipeBook.Web.Timestamp

/-!
# Image files

The files of the folder `images` are served as they are, or a range of their bytes. A path must not lead
out of the folder; one that names a folder without a slash at the end is led on to the path with a
slash. A client that knows a file from an earlier moment is told if it has not changed since then.
-/

namespace RecipeBook.Web.Images

/-- The names on the way that a path tells, decoded. Two points are refused. -/
def names? (path : String) : Option Path := do
  let decoded ← Url.Percent.text? (Url.Percent.decodeText (.ofList (path.toList.dropWhile (· = '/'))))
  let names := ((Text.splitOn '/' decoded.toList).map String.ofList).filter fun name =>
    name ≠ "" && name ≠ "."
  if decoded.toList.head? = some '/' || names.contains ".." then none else return names

/-- Where the names lead to, told from the folder of the recipes. -/
def location (names : Path) : String := "/".intercalate ("images" :: names)

/-- The moment that a header tells. -/
def moment? (request : Request) (header : String) : Option Nat :=
  ((request.header? header).bind Timestamp.read?).map Timestamp.seconds

/-- The response to a request that asks for a file only if it has not changed since a moment, or only
if it has, where that is not so. -/
def refusal? (changedAt : Nat) (request : Request) : Option Response :=
  if (moment? request "if-unmodified-since").any (· < changedAt) then some (.bare 412)
  else if (moment? request "if-modified-since").any (changedAt ≤ ·) then some (.bare 304)
  else none

/-- A range is asked for in printable ASCII. -/
def isPrintable (c : Char) : Bool := c == '\t' || (' ' ≤ c && c ≤ '~')

/-- The range that a request asks for, as it is written. -/
def range? (request : Request) : Option String :=
  (request.header? "range").filter fun header => header.toList.all isPrintable

/-- The part of a file that a request asks for, with the headers that all responses with a file have. A
HEAD request gets the same response without the bytes. -/
def part (bytes : ByteArray) (headers : Headers) (request : Request) : Response :=
  let body (bytes : ByteArray) : Body := if request.method = "HEAD" then .empty else .bytes bytes
  let unserved := ("content-range", ByteRange.describeNone bytes.size)
  match range? request with
  | none => ⟨200, headers ++ [("content-length", toString bytes.size)], body bytes⟩
  | some header =>
    match ByteRange.readAll? bytes.size header with
    | some [range] =>
      ⟨206, headers ++ [("content-range", range.describe bytes.size),
        ("content-length", toString range.size)], body (range.extract bytes)⟩
    | some _ => ⟨416, headers ++ [unserved], .text "Cannot serve multipart range requests"⟩
    | none => ⟨416, headers ++ [unserved], .empty⟩

def respondFile (site : Site) (request : Request) (names : Path) : Response :=
  match site.folder.read (location names) with
  | .ok bytes =>
    (refusal? site.changedAt request).getD <| part bytes
      [("content-type", contentType (names.getLastD "")), ("accept-ranges", "bytes"),
        ("last-modified", (Timestamp.ofSeconds site.changedAt).render)] request
  | .error .notFound => .bare 404
  | .error .notFolder => .bare 404
  | .error _ => .bare 500

/-- The response that leads on to the path with a slash. -/
def redirect (target : Target) (path : String) : Response :=
  ⟨307, [("location", { target with path := path ++ "/" : Target }.text)], .empty⟩

/-- The response to a request for a path below the images. -/
def respond (site : Site) (request : Request) (path : String) : Response :=
  if request.method ≠ "GET" ∧ request.method ≠ "HEAD" then .methodNotAllowed
  else
    match names? path with
    | none => .bare 404
    | some names =>
      if (site.folder.enter? (location names)).isNone then respondFile site request names
      else if path.toList.getLast? = some '/' then
        respondFile site request (names ++ ["index.html"])
      else redirect request.target path

end RecipeBook.Web.Images
