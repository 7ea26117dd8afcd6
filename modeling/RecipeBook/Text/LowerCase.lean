import RecipeBook.Text.Range
import RecipeBook.Text.CaseTable

/-!
# Lower case

`lower` is the full lower-case mapping of Unicode. Two characters need more than the table: the
capital I with a dot lowers to two characters, and a capital sigma to the final form when it ends a
word, that is when a cased character comes before it and none after it, characters that case rules
look through apart.
-/

namespace RecipeBook.Text

def isCased (c : Char) : Bool := c.isAlpha || covers casedRanges c.toNat

def isCaseIgnorable (c : Char) : Bool :=
  ['\'', '.', ':', '^', '`'].contains c || covers caseIgnorableRanges c.toNat

/-- A cased character comes next, after characters that case rules look through. -/
def casedAhead (s : List Char) : Bool :=
  match s.dropWhile isCaseIgnorable with
  | [] => false
  | c :: _ => isCased c

/-- The lower-case form of one character by itself. -/
def lowerChar (c : Char) : List Char :=
  if c.toNat < 0x80 then [c.toLower]
  else if c = 'İ' then ['i', '\u0307']
  else if c = 'Σ' then ['σ']
  else match caseRanges.find? (·.covers c.toNat) with
    | some r => [Char.ofNat (r.lower c.toNat)]
    | none => [c]

/-- Lowers `s`, where `before` is what comes before it, nearest character first. -/
def lowerAfter (before : List Char) : List Char → List Char
  | [] => []
  | c :: r =>
    (if c = 'Σ' && casedAhead before && !casedAhead r then ['ς'] else lowerChar c) ++
      lowerAfter (c :: before) r

def lower (s : List Char) : List Char := lowerAfter [] s

end RecipeBook.Text
