import RecipeBook.Text.Line

/-!
# Numbered lines of a document
-/

namespace RecipeBook.Document

structure Line where
  /-- Counted from zero. -/
  index : Nat
  text : List Char
  deriving DecidableEq, Repr

namespace Line

def isBlank (l : Line) : Bool := Text.isBlankText l.text

/-- The text of a heading line. -/
def heading? (l : Line) : Option (List Char) := Text.dropStart? ['#', ' '] l.text

/-- A line that belongs to a step. -/
def inStep (l : Line) : Bool := !l.isBlank && l.heading?.isNone

/-- A line that continues the text of the line before it. -/
def isContinuation (l : Line) : Bool := (Text.dropStart? [' ', ' '] l.text).isSome && !l.isBlank

end Line

/-- The lines of a text. -/
def numbered (text : List Char) : List Line :=
  (Text.lines text).zipIdx.map fun (line, index) => ⟨index, line⟩

end RecipeBook.Document
