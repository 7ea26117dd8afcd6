import RecipeBook.Yaml.Cursor

/-!
# Block scalars

A block scalar is the indented lines behind a vertical bar, which keeps line breaks, or a greater-than
sign, which folds them. The mark may be followed by the depth of the indentation and by what becomes
of the line breaks at the end.
-/

namespace RecipeBook.Yaml.Block

/-- What becomes of the line breaks at the end. -/
inductive Chomping
  /-- The first is kept. -/
  | clip
  /-- None is kept. -/
  | strip
  /-- All are kept. -/
  | keep
  deriving DecidableEq, Repr

structure Header where
  chomping : Chomping
  /-- The depth of the indentation, if it is given. -/
  depth : Option Nat
  deriving DecidableEq, Repr

def chomping? : Char → Option Chomping
  | '+' => some .keep
  | '-' => some .strip
  | _ => none

def depth? (c : Char) : Option Nat := if c.isDigit then some (c.toNat - '0'.toNat) else none

/-- Reads the marks behind the first one, in either order. A depth of zero is none. -/
def readHeader (c : Cursor) : Option (Header × Cursor) :=
  let first := c.peek
  let second := c.rest[1]?
  match first.bind chomping?, first.bind depth? with
  | some chomping, _ =>
    match second.bind depth? with
    | some 0 => none
    | some d => some (⟨chomping, some d⟩, c.skipMany 2)
    | none => some (⟨chomping, none⟩, c.skip)
  | none, some 0 => none
  | none, some d =>
    match second.bind chomping? with
    | some chomping => some (⟨chomping, some d⟩, c.skipMany 2)
    | none => some (⟨.clip, some d⟩, c.skip)
  | none, none => some (⟨.clip, none⟩, c)

/-- Reads empty lines: their line breaks, the greatest column met, and the place of the first line
that is not empty. Without an `indent` all spaces in front are passed over; else only so many. A tab
must not stand in front of a line. -/
def emptyLines (indent : Option Nat) (deepest : Nat) (c : Cursor) :
    Nat → Option (List Char × Nat × Cursor)
  | 0 => none
  | fuel + 1 =>
    let spaces := (c.rest.takeWhile (· == ' ')).length
    let c := c.skipMany ((indent.map fun n => min (n - c.column) spaces).getD spaces)
    let deepest := max deepest c.column
    if c.isAt '\t' && indent.all (c.column < ·) then none
    else if c.has isBreak 0 then
      let (b, c) := c.takeBreak
      (emptyLines indent deepest c fuel).map fun (bs, r) => (b ++ bs, r)
    else some ([], deepest, c)

/-- The value of the lines so far. -/
structure Draft where
  text : List Char
  /-- The line break behind the last line. -/
  last : List Char
  /-- The line breaks of the empty lines behind it. -/
  empty : List Char
  /-- The last line starts with a space. -/
  indented : Bool

/-- A line that starts with or without a space is added. A folded line break between two lines that
start without one counts as a space, and as nothing if empty lines follow it. -/
def Draft.addLine (d : Draft) (isFolded : Bool) (line : List Char) : Draft :=
  let indented := line.head?.any isSpace
  let between :=
    if isFolded && d.last = ['\n'] && !d.indented && !indented then
      (if d.empty = [] then [' '] else d.empty)
    else d.last ++ d.empty
  ⟨d.text ++ between ++ line, [], [], indented⟩

/-- Reads the lines that start in the column. -/
def lines (isFolded : Bool) (indent : Nat) (d : Draft) (c : Cursor) : Nat → Option (Draft × Cursor)
  | 0 => none
  | fuel + 1 =>
    if c.column = indent && c.peek.isSome then do
      let line := c.rest.takeWhile (!isBreak ·)
      let (last, c) := (c.skipMany line.length).takeBreak
      let (empty, _, c) ← emptyLines (some indent) 0 c (c.rest.length + 1)
      lines isFolded indent { d.addLine isFolded line with last, empty } c fuel
    else some (d, c)

/-- Reads the scalar whose mark the cursor is at, inside a block that is indented by less than
`least`. -/
def read (isFolded : Bool) (least : Nat) (c : Cursor) : Option (List Char × Cursor) := do
  let (header, c) ← readHeader c.skip
  let c ← c.finishLine?
  let given := header.depth.map (least - 1 + ·)
  let (empty, deepest, c) ← emptyLines given 0 c (c.rest.length + 1)
  let indent := given.getD (max deepest (max least 1))
  let (d, c) ← lines isFolded indent ⟨[], [], empty, false⟩ c (c.rest.length + 1)
  return match header.chomping with
    | .strip => (d.text, c)
    | .clip => (d.text ++ d.last, c)
    | .keep => (d.text ++ d.last ++ d.empty, c)

end RecipeBook.Yaml.Block
