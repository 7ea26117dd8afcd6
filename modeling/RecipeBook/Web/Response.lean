import RecipeBook.Json

/-!
# Responses
-/

namespace RecipeBook.Web

inductive Body
  | empty
  | json (j : Json)
  | text (s : String)
  | bytes (b : ByteArray)

namespace Body

def octets : Body → ByteArray
  | empty => .empty
  | json j => j.render.toUTF8
  | text s => s.toUTF8
  | bytes b => b

end Body

/-- Names of headers are in lower case. -/
abbrev Headers := List (String × String)

structure Response where
  status : Nat
  headers : Headers
  body : Body

namespace Response

def bare (status : Nat) : Response := ⟨status, [], .empty⟩

def ofJson (status : Nat) (j : Json) : Response :=
  ⟨status, [("content-type", "application/json")], .json j⟩

def ofText (status : Nat) (s : String) : Response :=
  ⟨status, [("content-type", "text/plain; charset=utf-8")], .text s⟩

/-- The response to a request of a method that is not served. -/
def methodNotAllowed : Response := ⟨405, [("allow", "GET,HEAD")], .empty⟩

def header? (r : Response) (name : String) : Option String := r.headers.lookup name

/-- Adds headers that are not there yet. -/
def withHeaders (hs : Headers) (r : Response) : Response :=
  { r with headers := r.headers ++ hs.filter fun h => (r.header? h.1).isNone }

/-- Tells the length of the body. -/
def withLength (r : Response) : Response :=
  r.withHeaders [("content-length", toString r.body.octets.size)]

/-- The response as it is sent; nothing follows it. -/
def octets (r : Response) : ByteArray :=
  let first := "HTTP/1.1 " ++ toString r.status ++ " \r\n"
  let lines := (r.headers ++ [("connection", "close")]).map fun h => h.1 ++ ": " ++ h.2 ++ "\r\n"
  (first ++ String.join lines ++ "\r\n").toUTF8 ++ r.body.octets

def withoutBody (r : Response) : Response := { r with body := .empty }

end Response
end RecipeBook.Web
