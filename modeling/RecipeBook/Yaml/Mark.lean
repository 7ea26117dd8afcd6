import RecipeBook.Number.Whole
import RecipeBook.Yaml.Cursor
import RecipeBook.Yaml.Token

/-!
# Anchors, tags and directives

An anchor names a value and a reference stands for the named value. A tag says what a value is: it is
written out between angle brackets, or as a handle and a suffix. Directives at the start of a document
give its version and what handles stand for.
-/

namespace RecipeBook.Yaml.Mark

/-- Reads the characters of the class, and the place behind them. -/
def run (isOne : Char → Bool) (c : Cursor) : List Char × Cursor :=
  (c.rest.takeWhile isOne, c.skipWhile isOne)

def anchorEnds : List Char := ['?', ':', ',', ']', '}', '%', '@', '`']

/-- The name behind the mark of an anchor or a reference. -/
def name (c : Cursor) : Option (String × Cursor) :=
  let (xs, c) := run isNameChar c.skip
  if xs ≠ [] ∧ (c.gapAt 0 ∨ c.has anchorEnds.contains 0) then some (.ofList xs, c) else none

/-- A character of a tag, percent signs included. Between angle brackets there may be more. -/
def isTagChar (verbatim : Bool) (x : Char) : Bool :=
  isNameChar x || ";/?:@&=+$.%!~*'()".toList.contains x || (verbatim && ",[]".toList.contains x)

/-- One octet of an escape: a percent sign and two hexadecimal digits. -/
def octet? (c : Cursor) : Option (Nat × Cursor) := do
  if !c.isAt '%' then none
  let high ← c.rest[1]?.bind (Number.digit? 16)
  let low ← c.rest[2]?.bind (Number.digit? 16)
  return (16 * high + low, c.skipMany 3)

/-- The other octets of a character. -/
def furtherOctets (n : Nat) (c : Cursor) : Nat → Option (Nat × Cursor)
  | 0 => some (n, c)
  | count + 1 => do
    let (o, c) ← octet? c
    if o / 64 ≠ 2 then none
    furtherOctets (64 * n + o % 64) c count

/-- The character that escaped octets stand for. -/
def escaped? (c : Cursor) : Option (Char × Cursor) := do
  let (o, c) ← octet? c
  let (n, c) ←
    if o < 0x80 then some (o, c)
    else if o / 32 = 6 then furtherOctets (o % 32) c 1
    else if o / 16 = 14 then furtherOctets (o % 16) c 2
    else if o / 8 = 30 then furtherOctets (o % 8) c 3
    else none
  return (.ofNat n, c)

/-- Reads the characters of a tag. -/
def tagText (verbatim : Bool) (c : Cursor) : Nat → Option (List Char × Cursor)
  | 0 => none
  | fuel + 1 =>
    match c.peek with
    | none => some ([], c)
    | some x =>
      if x = '%' then do
        let (y, c) ← escaped? c
        let (xs, c) ← tagText verbatim c fuel
        return (y :: xs, c)
      else if isTagChar verbatim x then (tagText verbatim c.skip fuel).map fun (xs, c) => (x :: xs, c)
      else some ([], c)

/-- A tag's text that is not empty. -/
def tagText? (verbatim : Bool) (c : Cursor) : Option (List Char × Cursor) := do
  let (xs, c) ← tagText verbatim c (c.rest.length + 1)
  if xs = [] then none else return (xs, c)

/-- An exclamation mark with the name characters and the exclamation mark that may follow it. -/
def handle? (c : Cursor) : Option (List Char × Cursor) :=
  if c.isAt '!' then
    let (xs, c) := run isNameChar c.skip
    if c.isAt '!' then some ('!' :: xs ++ ['!'], c.skip) else some ('!' :: xs, c)
  else none

/-- Handle and suffix of a tag that is not between angle brackets. -/
def shorthand (c : Cursor) : Option ((List Char × List Char) × Cursor) := do
  let (h, c) ← handle? c
  if 1 < h.length ∧ h.getLast? = some '!' then
    let (suffix, c) ← tagText? false c
    return ((h, suffix), c)
  else
    let (xs, c) ← tagText false c (c.rest.length + 1)
    let suffix := h.tail ++ xs
    return (if suffix = [] then ([], ['!']) else (['!'], suffix), c)

/-- Handle and suffix of a tag between angle brackets. -/
def verbatim (c : Cursor) : Option ((List Char × List Char) × Cursor) := do
  let (xs, c) ← tagText? true (c.skipMany 2)
  if c.isAt '>' then return (([], xs), c.skip) else none

/-- The tag at the cursor. A gap must follow it, or a comma inside brackets. -/
def tag (flow : Bool) (c : Cursor) : Option (Token × Cursor) := do
  let ((h, suffix), c) ← if c.has (· == '<') 1 then verbatim c else shorthand c
  if (flow && c.isAt ',') || c.gapAt 0 then return (.tag (.ofList h) (.ofList suffix), c) else none

/-- A number of at most nine digits. -/
def versionNumber? (c : Cursor) : Option (Nat × Cursor) :=
  let (xs, c) := run Char.isDigit c
  if xs ≠ [] ∧ xs.length ≤ 9 then
    some (xs.foldl (fun n x => 10 * n + (x.toNat - '0'.toNat)) 0, c)
  else none

def versionDirective (c : Cursor) : Option (Token × Cursor) := do
  let (major, c) ← versionNumber? c.skipSpaces
  if !c.isAt '.' then none
  let (minor, c) ← versionNumber? c.skip
  return (.version major minor, c)

def handleDirective (c : Cursor) : Option (Token × Cursor) := do
  let (h, c) ← handle? c.skipSpaces
  if 1 < h.length ∧ h.getLast? ≠ some '!' then none
  if !c.has isSpace 0 then none
  let (start, c) ← tagText? true c.skipSpaces
  if c.gapAt 0 then return (.handle (.ofList h) (.ofList start), c) else none

/-- The directive at the cursor, and the place behind its line. -/
def directive (c : Cursor) : Option (Token × Cursor) := do
  let (xs, c) := run isNameChar c.skip
  if xs = [] || !c.gapAt 0 then none
  let (token, c) ←
    if xs = "YAML".toList then versionDirective c
    else if xs = "TAG".toList then handleDirective c
    else none
  return (token, ← c.finishLine?)

end RecipeBook.Yaml.Mark
