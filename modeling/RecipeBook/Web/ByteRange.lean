import RecipeBook.Number.Whole
import RecipeBook.Text.Line

/-!
# Ranges of bytes

A request may ask for parts of a file. Each part begins at a position and goes on to another or to the
end of the file, or is so many last bytes. `readAll?` finds the ranges of a file of a given size, which
begin in the file, do not end before they begin and do not overlap.
-/

namespace RecipeBook.Web

/-- The bytes from one position to another, both included. -/
structure ByteRange where
  first : Nat
  last : Nat
  deriving DecidableEq, Repr

namespace ByteRange

def size (r : ByteRange) : Nat := r.last + 1 - r.first

def overlaps (a b : ByteRange) : Bool := a.first ≤ b.last && b.first ≤ a.last

/-- No range ends before it begins, and no two overlap. -/
def areApart : List ByteRange → Bool
  | [] => true
  | r :: rest => r.first ≤ r.last && rest.all (!r.overlaps ·) && areApart rest

/-- A position is written without a sign and without a zero in front. -/
def position? (s : List Char) : Option Nat :=
  if s.head? = some '+' ∨ (s.head? = some '0' ∧ s ≠ ['0']) then none
  else (Number.readWhole (Number.maxOf 64) s).toOption

/-- The range of a file of `size` bytes that goes from one position to another, or to the end. The
start missing, the end tells how many last bytes it has. -/
def between? (size : Nat) (start stop : List Char) : Option ByteRange :=
  let final := size - 1
  if start = [] then do
    let count ← position? stop
    if count = 0 ∨ size < count then none else return ⟨size - count, final⟩
  else do
    let first ← position? start
    if stop = [] then return ⟨first, final⟩ else return ⟨first, min (← position? stop) final⟩

/-- One blank may stand in front of a range. -/
def unpadded? (s : List Char) : Option (List Char) :=
  if s.getLast?.any Text.isBlank || 1 < s.countP Text.isBlank then none else some (Text.trim s)

def read? (size : Nat) (s : List Char) : Option ByteRange := do
  match Text.splitOn '-' (← unpadded? s) with
  | [start, stop] => between? size start stop
  | _ => none

/-- The ranges that a header asks for, if each is one of the file and they are apart. -/
def readAll? (size : Nat) (header : String) : Option (List ByteRange) := do
  let s ← Text.dropStart? "bytes=".toList header.toList
  let ranges ← (Text.splitOn ',' s).mapM (read? size)
  if areApart ranges then return ranges else none

/-- The range as a header tells it. -/
def describe (r : ByteRange) (size : Nat) : String :=
  "bytes " ++ toString r.first ++ "-" ++ toString r.last ++ "/" ++ toString size

/-- What a header tells where no range is served. -/
def describeNone (size : Nat) : String := "bytes */" ++ toString size

/-- The bytes of a range, as far as there are any. -/
def extract (r : ByteRange) (bytes : ByteArray) : ByteArray := bytes.extract r.first (r.last + 1)

end ByteRange
end RecipeBook.Web
