import RecipeBook.Number.Whole
import RecipeBook.Text.Line
import RecipeBook.Text.LowerCase
import RecipeBook.Url.Domain.MappingTable

/-!
# How names are written

`mapped? name` writes a name as domain names are written: in lower case, without characters that are
not seen, compatible characters as those that they stand for, and composed. A name with a character
that no domain name holds is refused.
-/

namespace RecipeBook.Url.Domain

/-- How `count` characters from `first` on are written. -/
structure Row where
  first : Nat
  count : Nat
  image : List Char
  /-- Each is written one higher than the one before. -/
  climbs : Bool
  deriving Inhabited

namespace Row

def covers (row : Row) (n : Nat) : Bool := row.first ≤ n && n < row.first + row.count

def apply (row : Row) (n : Nat) : List Char :=
  if row.climbs then row.image.map fun c => .ofNat (c.toNat + (n - row.first)) else row.image

end Row

def hexNumber (s : List Char) : Nat :=
  s.foldl (fun n c => 16 * n + (Number.digit? 16 c).getD 0) 0

def image (s : List Char) : List Char :=
  if s = ['-'] then [] else (Text.splitOn '+' s).map fun part => .ofNat (hexNumber part)

/-- Reads the next word of the table; `next` is the character that it is about. -/
def readWord (next : Nat) (word : List Char) : Nat × Option Row :=
  match word.getLast? with
  | some ':' => (hexNumber word.dropLast, none)
  | _ =>
    match Text.splitAtFirst (fun c => c == '*' || c == '=') word with
    | some (text, count) =>
      let count := hexNumber count
      (next + count, some ⟨next, count, image text, word.contains '*'⟩)
    | none => (next + 1, some ⟨next, 1, image word, false⟩)

def rows : List Row :=
  ((Text.words mappingText.toList).foldl (fun (next, rows) word =>
    match readWord next word with
    | (next, some row) => (next, row :: rows)
    | (next, none) => (next, rows)) (0, [])).2.reverse

/-- The first character that the table is about. -/
def firstListed : Nat := 0xA0

/-- How a character is written, if a domain name may hold it. -/
def image? (c : Char) : Option (List Char) :=
  if Text.covers disallowedRanges c.toNat then none
  else if c.toNat < firstListed then some (Text.lowerChar c)
  else match rows.find? (·.covers c.toNat) with
    | some row => some (row.apply c.toNat)
    | none => some (Text.lowerChar c)

end RecipeBook.Url.Domain
