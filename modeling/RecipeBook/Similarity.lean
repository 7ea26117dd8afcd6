/-!
# Names that look alike

Two names are compared by the least number of letters to insert, delete or change, as a share of the
longer name's length. `closeMatches` lists the candidates for which that share is at most a fifth,
nearest first and equally near ones by name. Shares are compared as fractions, without rounding.
-/

namespace RecipeBook.Similarity

/-- The row of edit distances after one more letter `c` of the first word. `row` holds the distances
from the letters before `c` to every beginning of the second word, and `left` is the new distance
that stands before the ones computed here. -/
def nextCells (c : Char) : Nat → List Char → List Nat → List Nat
  | left, d :: word, corner :: above :: row =>
    let cell := min (min (left + 1) (above + 1)) (corner + if c = d then 0 else 1)
    cell :: nextCells c cell word (above :: row)
  | _, _, _ => []

def nextRow (word : List Char) (row : List Nat) (c : Char) : List Nat :=
  let first := row.headD 0 + 1
  first :: nextCells c first word row

/-- The least number of letters to insert, delete or change on the way from `a` to `b`. -/
def editDistance (a b : List Char) : Nat :=
  (a.foldl (nextRow b) (List.range (b.length + 1))).getLastD 0

/-- A candidate and how far it is from the word: `distance` letters of `size`. -/
structure Match where
  candidate : String
  distance : Nat
  size : Nat
  deriving DecidableEq, Repr

namespace Match

def of (word candidate : String) : Match where
  candidate
  distance := editDistance word.toList candidate.toList
  size := max word.length candidate.length

/-- At least four fifths of the longer word agree. -/
def isClose (m : Match) : Bool := 5 * m.distance ≤ m.size

/-- `a` is nearer than `b`, or as near and not behind it by name. -/
def before (a b : Match) : Bool :=
  let x := a.distance * b.size
  let y := b.distance * a.size
  x < y || (x == y && decide (a.candidate ≤ b.candidate))

end Match

/-- The largest number of suggestions. -/
def maxSuggestions : Nat := 3

/-- The candidates close to `word`, best first, at most three. -/
def closeMatches (word : String) (candidates : List String) : List String :=
  ((((candidates.map (Match.of word)).filter Match.isClose).mergeSort Match.before).take
    maxSuggestions).map Match.candidate

end RecipeBook.Similarity
