import RecipeBook.Yaml.Cursor

/-!
# Line folding

Where a scalar goes on over several lines, a single line break counts as a space, and of several the
first counts for nothing. Spaces at the end and at the start of a line count for nothing either.
-/

namespace RecipeBook.Yaml

/-- What lies between two pieces of a scalar. -/
structure Gap where
  /-- Spaces before the first line break. -/
  spaces : List Char
  /-- The first line break. -/
  first : List Char
  /-- The other line breaks. -/
  more : List Char
  /-- There was a line break. -/
  broken : Bool

namespace Gap

def empty : Gap := ⟨[], [], [], false⟩

/-- What a gap right behind an escaped line break starts with. -/
def escaped : Gap := ⟨[], [], [], true⟩

/-- What the gap counts as. -/
def folded (g : Gap) : List Char :=
  if !g.broken then g.spaces
  else if g.first = ['\n'] then (if g.more = [] then [' '] else g.more)
  else g.first ++ g.more

/-- Adds a space that the text goes on with. -/
def addSpace (g : Gap) (x : Char) : Gap := if g.broken then g else { g with spaces := g.spaces ++ [x] }

/-- Adds a line break. -/
def addBreak (g : Gap) (b : List Char) : Gap :=
  if g.broken then { g with more := g.more ++ b } else ⟨[], b, g.more, true⟩

/-- Reads the spaces and line breaks that come next. Nothing comes of a tab that stands left of
`indent` on a new line. -/
def read (indent : Nat) (g : Gap) (c : Cursor) : Nat → Option (Gap × Cursor)
  | 0 => none
  | fuel + 1 =>
    match c.peek with
    | none => some (g, c)
    | some x =>
      if isSpace x then
        if g.broken ∧ c.column < indent ∧ x = '\t' then none
        else read indent (g.addSpace x) c.skip fuel
      else if isBreak x then read indent (g.addBreak c.takeBreak.1) c.takeBreak.2 fuel
      else some (g, c)

end Gap
end RecipeBook.Yaml
