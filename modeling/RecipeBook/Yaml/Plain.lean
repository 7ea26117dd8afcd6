import RecipeBook.Yaml.Folding

/-!
# Plain scalars

A plain scalar stands without quotation marks. It ends at a colon with a gap behind it, at a remark
with a gap before it, at a line that is indented too little or divides documents, and inside brackets
also at a comma or a bracket.
-/

namespace RecipeBook.Yaml.Plain

def brackets : List Char := [',', '[', ']', '{', '}']

/-- The scalar goes on with a character that ends it. -/
def ends (flow : Bool) (c : Cursor) : Bool :=
  (c.isAt ':' && c.gapAt 1) || (flow && c.has brackets.contains 0)

/-- Inside brackets a colon must not touch the next mark. -/
def clashes (flow : Bool) (c : Cursor) : Bool :=
  flow && c.isAt ':' && c.has ('?' :: brackets).contains 1

/-- Reads up to the next gap: the characters, the place behind them, and whether the scalar ends. -/
def piece (flow : Bool) (c : Cursor) : Nat → Option (List Char × Cursor × Bool)
  | 0 => none
  | fuel + 1 =>
    match c.peek with
    | none => some ([], c, true)
    | some x =>
      if isGap x then some ([], c, false)
      else if clashes flow c then none
      else if ends flow c then some ([], c, true)
      else (piece flow c.skip fuel).map fun (xs, c, done) => (x :: xs, c, done)

/-- Reads a scalar on: its text, the place behind the gap after it, and whether the gap held a line
break. `indent` is the least column of its lines. -/
def readFrom (flow : Bool) (indent : Nat) (text : List Char) (g : Gap) (c : Cursor) :
    Nat → Option (List Char × Cursor × Bool)
  | 0 => none
  | fuel + 1 => do
    if c.isDivider '-' || c.isDivider '.' || c.isAt '#' then return (text, c, g.broken)
    let (xs, c, done) ← piece flow c (c.rest.length + 1)
    let text := if xs = [] then text else text ++ g.folded ++ xs
    let g := if xs = [] then g else .empty
    if done then return (text, c, g.broken)
    let (g, c) ← g.read indent c (c.rest.length + 1)
    if !flow && c.column < indent then return (text, c, g.broken)
    readFrom flow indent text g c fuel

def read (flow : Bool) (indent : Nat) (c : Cursor) : Option (List Char × Cursor × Bool) :=
  readFrom flow indent [] .empty c (c.rest.length + 1)

end RecipeBook.Yaml.Plain
