/-!
# A place in a YAML text

A `Cursor` is what is left of a text, with the line and the column that the rest starts in. Columns
say how far a line is indented. Reading a character that is no line break moves to the next column,
reading a line break to the first column of the next line; a carriage return and the line feed
behind it are one line break.
-/

namespace RecipeBook.Yaml

def isBreak (c : Char) : Bool :=
  c == '\r' || c == '\n' || c == '\u0085' || c == '\u2028' || c == '\u2029'

def isSpace (c : Char) : Bool := c == ' ' || c == '\t'

def isGap (c : Char) : Bool := isSpace c || isBreak c

/-- A character of an anchor's or a directive's name. -/
def isNameChar (c : Char) : Bool := c.isAlphanum || c == '_' || c == '-'

structure Cursor where
  rest : List Char
  /-- The number of characters before the rest. -/
  index : Nat
  line : Nat
  column : Nat

namespace Cursor

def start (text : List Char) : Cursor := ⟨text, 0, 0, 0⟩

variable (c : Cursor)

def peek : Option Char := c.rest.head?

/-- The character `n` places ahead is of the class. -/
def has (isOne : Char → Bool) (n : Nat) : Bool := c.rest[n]?.any isOne

def isAt (x : Char) : Bool := c.has (· == x) 0

/-- The text ends `n` places ahead, or a space or line break is there. -/
def gapAt (n : Nat) : Bool := c.rest[n]?.all isGap

/-- The text or the line ends here. -/
def lineEnds : Bool := c.rest.head?.all isBreak

/-- A line that starts with three of one mark and a gap divides documents. -/
def isDivider (mark : Char) : Bool :=
  c.column = 0 && c.has (· == mark) 0 && c.has (· == mark) 1 && c.has (· == mark) 2 && c.gapAt 3

/-- The place after the next character, which is no line break. -/
def skip : Cursor := { c with rest := c.rest.tail, index := c.index + 1, column := c.column + 1 }

def skipMany (n : Nat) : Cursor :=
  { c with rest := c.rest.drop n, index := c.index + n, column := c.column + n }

/-- The line break that the text goes on with, as it counts in a value, and the place behind it. -/
def takeBreak : List Char × Cursor :=
  match c.rest with
  | '\r' :: '\n' :: r => (['\n'], ⟨r, c.index + 2, c.line + 1, 0⟩)
  | x :: r =>
    let next : Cursor := ⟨r, c.index + 1, c.line + 1, 0⟩
    if x = '\u2028' ∨ x = '\u2029' then ([x], next)
    else if isBreak x then (['\n'], next)
    else ([], c)
  | [] => ([], c)

/-- The place after the characters of the class; it holds no line break. -/
def skipWhile (isOne : Char → Bool) : Cursor := c.skipMany (c.rest.takeWhile isOne).length

def skipSpaces : Cursor := c.skipWhile isSpace

/-- Passes over a remark up to the end of the line, if there is one here. -/
def skipRemark : Cursor := if c.isAt '#' then c.skipWhile (!isBreak ·) else c

/-- Passes over spaces, a remark and the line break. Nothing else may be on the line. -/
def finishLine? : Option Cursor :=
  let c := c.skipSpaces.skipRemark
  if c.lineEnds then some c.takeBreak.2 else none

end Cursor
end RecipeBook.Yaml
