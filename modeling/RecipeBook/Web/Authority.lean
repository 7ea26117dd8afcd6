/-!
# Authorities

The authority of a target is a host, with a user in front of it and a number for the place behind it if
one likes. `isAuthority` goes through it once and remembers what is open: an address between brackets
may hold colons, and what stands before an at sign may hold percent signs.
-/

namespace RecipeBook.Web.Authority

/-- A character that may stand anywhere. -/
def isPlain (c : Char) : Bool := c.isAlphanum || "!$&'()*+,-.;=_~".toList.contains c

/-- A character that is behind the authority. -/
def isEnd (c : Char) : Bool := c == '/' || c == '?' || c == '#'

/-- What has been seen so far. -/
structure Seen where
  /-- Colons since the last at sign or bracket. -/
  colons : Nat
  /-- A percent sign that no at sign or bracket has come behind. -/
  percent : Bool
  opened : Bool
  closed : Bool
  deriving DecidableEq, Repr

/-- As many colons as an address between brackets needs at most, with one behind it. -/
def maxColons : Nat := 8

def Seen.next (s : Seen) (c : Char) : Option Seen :=
  match c with
  | ':' => if s.colons < maxColons then some { s with colons := s.colons + 1 } else none
  | '[' => if s.percent || s.opened then none else some { s with opened := true }
  | ']' =>
    if s.opened && !s.closed then some { s with colons := 0, percent := false, closed := true }
    else none
  | '@' => some { s with colons := 0, percent := false }
  | '%' => some { s with percent := true }
  | c => if isPlain c then some s else none

/-- Nothing is left open at the end. -/
def Seen.isDone (s : Seen) : Bool := s.opened == s.closed && s.colons ≤ 1 && !s.percent

def isAuthority (s : List Char) : Bool :=
  s ≠ [] && s.getLast? ≠ some '@' && (s.foldlM Seen.next ⟨0, false, false, false⟩).any Seen.isDone

end RecipeBook.Web.Authority
