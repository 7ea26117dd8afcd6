import RecipeBook.Number.Whole
import RecipeBook.Yaml.Folding

/-!
# Scalars in quotation marks

Between apostrophes only an apostrophe is special: it is written twice. Between quotation marks a
backslash starts an escape, and one at the end of a line joins it to the next.
-/

namespace RecipeBook.Yaml.Quoted

/-- The characters that have an escape of one letter. -/
def letterEscape? : Char → Option Char
  | '0' => some '\x00'
  | 'a' => some '\x07'
  | 'b' => some '\x08'
  | 't' => some '\t'
  | '\t' => some '\t'
  | 'n' => some '\n'
  | 'v' => some '\x0b'
  | 'f' => some '\x0c'
  | 'r' => some '\r'
  | 'e' => some '\x1b'
  | ' ' => some ' '
  | '"' => some '"'
  | '/' => some '/'
  | '\\' => some '\\'
  | 'N' => some '\u0085'
  | '_' => some '\u00a0'
  | 'L' => some '\u2028'
  | 'P' => some '\u2029'
  | _ => none

/-- The number of hexadecimal digits behind an escape that gives a code point. -/
def codeLength? : Char → Option Nat
  | 'x' => some 2
  | 'u' => some 4
  | 'U' => some 8
  | _ => none

/-- The character with a code point, which is no half of a pair. -/
def scalar? (n : Nat) : Option Char := if n.isValidChar then some (.ofNat n) else none

/-- Reads the escape at the cursor. -/
def escape? (c : Cursor) : Option (Char × Cursor) := do
  let letter ← c.rest[1]?
  match letterEscape? letter, codeLength? letter with
  | some x, _ => return (x, c.skipMany 2)
  | none, some n =>
    let digits := (c.rest.drop 2).take n
    if digits.length < n then none
    let values ← digits.mapM (Number.digit? 16)
    let x ← scalar? (values.foldl (fun sum d => 16 * sum + d) 0)
    return (x, c.skipMany (2 + n))
  | none, none => none

/-- Reads up to the next gap: the characters, the place behind them, and whether the scalar ends
there (`some true`), goes on after a gap (`some false`) or after an escaped line break (`none`). -/
def piece (quote : Char) (c : Cursor) : Nat → Option (List Char × Cursor × Option Bool)
  | 0 => none
  | fuel + 1 =>
    match c.peek with
    | none => some ([], c, some false)
    | some x =>
      if isGap x then some ([], c, some false)
      else if x = '\'' ∧ quote = '\'' ∧ c.has (· == '\'') 1 then
        (piece quote (c.skipMany 2) fuel).map fun (xs, r) => (x :: xs, r)
      else if x = quote then some ([], c, some true)
      else if x = '\\' ∧ quote = '"' then
        if c.has isBreak 1 then some ([], c.skip.takeBreak.2, none)
        else do
          let (y, c) ← escape? c
          let (xs, r) ← piece quote c fuel
          return (y :: xs, r)
      else (piece quote c.skip fuel).map fun (xs, r) => (x :: xs, r)

/-- Reads a scalar on: its text and the place behind the closing mark. -/
def readFrom (quote : Char) (text : List Char) (c : Cursor) : Nat → Option (List Char × Cursor)
  | 0 => none
  | fuel + 1 => do
    if c.isDivider '-' || c.isDivider '.' || c.peek.isNone then none
    let (xs, c, done) ← piece quote c (c.rest.length + 1)
    let text := text ++ xs
    if c.isAt quote then return (text, c.skip)
    let (g, c) ← (if done.isNone then Gap.escaped else Gap.empty).read 0 c (c.rest.length + 1)
    readFrom quote (text ++ g.folded) c fuel

/-- Reads the scalar whose opening mark the cursor is at. -/
def read (quote : Char) (c : Cursor) : Option (List Char × Cursor) :=
  readFrom quote [] c.skip (c.rest.length + 1)

end RecipeBook.Yaml.Quoted
