import RecipeBook.Text.Composed
import RecipeBook.Text.Direction
import RecipeBook.Text.Joining
import RecipeBook.Text.Mark
import RecipeBook.Url.Domain.Mapping
import RecipeBook.Url.Punycode

/-!
# Domain names

A domain name is labels between full stops. `ascii? name` writes it in ASCII: the name is mapped to
how domain names are written, every label is checked, and labels with other characters are written in
Punycode. A label that is in Punycode already has to be the code of a label that needs it.
-/

namespace RecipeBook.Url.Domain

/-- The name as domain names are written. -/
def mapped? (name : List Char) : Option (List Char) := do
  return Text.composed (← name.mapM image?).flatten

/-! ## Labels -/

/-- What labels in Punycode start with. -/
def marker : List Char := "xn--".toList

def isAscii (label : List Char) : Bool := label.all (·.toNat < 128)

/-- The sign that takes the vowel from a letter of an Indic script. -/
def isVirama (c : Char) : Bool := Text.markClass c = 9

/-- A joiner stands only where it changes how letters look: behind a virama, or, one that keeps
letters apart, between two letters that join. -/
def joinersFit (before : List Char) : List Char → Bool
  | [] => true
  | c :: r =>
    let fits :=
      if c = '\u200c' then
        before.head?.any isVirama ||
          (Text.firstOpaque Text.joinsNext before && Text.firstOpaque Text.joinsPrevious r)
      else c ≠ '\u200d' || before.head?.any isVirama
    fits && joinersFit (c :: before) r

/-- The most characters that a label, and the most that its code, may have. -/
def maxLabel : Nat := 1000
def maxCode : Nat := 2000

/-- A label with characters outside ASCII that may stand in a name. -/
def isLabel (label : List Char) : Bool :=
  label.length ≤ maxLabel && !label.head?.any Text.isMark && joinersFit [] label

/-- The label that is written so. -/
def label? (written : List Char) : Option (List Char) :=
  match Text.dropStart? marker written with
  | some code =>
    if maxCode < code.length then none
    else (Punycode.decode code).filter fun label =>
      !isAscii label && mapped? label = some label && !marker.isPrefixOf label && isLabel label
  | none => if isAscii written || isLabel written then some written else none

/-- The label in ASCII. -/
def asciiLabel (label : List Char) : List Char :=
  if isAscii label then label else marker ++ Punycode.encode label

/-! ## Directions -/

/-- The label has a character that is written from right to left. -/
def hasRightToLeft (label : List Char) : Bool :=
  label.any fun c => Text.direction c = .rightToLeft || Text.direction c = .arabicDigit

/-- The label has one direction, which its first and its last character show. -/
def hasOneDirection (label : List Char) : Bool :=
  let directions := label.map Text.direction
  let last := (directions.reverse.dropWhile (· = .mark)).head?
  match directions with
  | [] => true
  | .leftToRight :: _ =>
    [some .leftToRight, some .europeanDigit].contains last &&
      directions.all [.leftToRight, .europeanDigit, .neutral, .mark].contains
  | .rightToLeft :: _ =>
    [some .rightToLeft, some .europeanDigit, some .arabicDigit].contains last &&
      !directions.contains .leftToRight &&
      !(directions.contains .europeanDigit && directions.contains .arabicDigit)
  | _ => false

/-! ## Names -/

/-- ASCII characters that no domain name holds. -/
def forbidden : List Char :=
  [' ', '#', '/', ':', '<', '>', '?', '@', '[', '\\', ']', '^', '|', '%', '\x7f']

def isForbidden (c : Char) : Bool := c < ' ' || forbidden.contains c

/-- The name in ASCII. Where one label is written from right to left, all labels must have one
direction. -/
def ascii? (name : List Char) : Option (List Char) := do
  let labels ← (Text.splitOn '.' (← mapped? name)).mapM label?
  if labels.any hasRightToLeft && !labels.all hasOneDirection then none
  let name := Text.join ['.'] (labels.map asciiLabel)
  if name.any isForbidden then none else return name

end RecipeBook.Url.Domain
