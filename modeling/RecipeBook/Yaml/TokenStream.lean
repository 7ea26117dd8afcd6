import RecipeBook.Yaml.Block
import RecipeBook.Yaml.Mark
import RecipeBook.Yaml.Plain
import RecipeBook.Yaml.Quoted

/-!
# The tokens of a YAML text

Tokens are read one by one, and only as far as the next one needs. A value may turn out to be the key
of a mapping when the colon behind it is met; as long as that is possible (`PossibleKey`), the value
is held back, because the start of the mapping goes before it. Outside brackets, indentation opens
and closes sequences and mappings. `none` stands for a text that is not well-formed from here on.
-/

namespace RecipeBook.Yaml

/-- A value that a colon may make a key. -/
structure PossibleKey where
  /-- The number of its token. -/
  token : Nat
  place : Cursor
  /-- The value must be a key: it stands where a key of the block does. -/
  required : Bool

namespace PossibleKey

/-- A key stands on one line with its colon and is not longer than 1024 characters. -/
def isStale (k : PossibleKey) (c : Cursor) : Bool :=
  k.place.line < c.line || k.place.index + 1024 < c.index

end PossibleKey

structure TokenStream where
  cursor : Cursor
  /-- The columns of the open blocks, innermost first. -/
  columns : List Nat
  /-- Whether a key may start here. -/
  keyAllowed : Bool
  /-- The possible key outside all brackets, and one for every open bracket, innermost first. -/
  keys : List (Option PossibleKey)
  /-- Tokens that were read but not taken. -/
  queue : List Token
  /-- The number of tokens that were taken. -/
  taken : Nat

namespace TokenStream

def start (text : List Char) : TokenStream := ⟨.start text, [], true, [none], [], 0⟩

variable (t : TokenStream)

def inFlow : Bool := 1 < t.keys.length

/-- The least column of what belongs to the innermost block. -/
def least : Nat := (t.columns.head?.map (· + 1)).getD 0

def push (token : Token) : TokenStream := { t with queue := t.queue ++ [token] }

/-- Puts a token before the one of the given number. -/
def insertAt (number : Nat) (token : Token) : TokenStream :=
  { t with queue := t.queue.insertIdx (number - t.taken) token }

/-- Moves past the `n` characters of a mark and adds its token. -/
def pushMark (n : Nat) (token : Token) : TokenStream :=
  { t with cursor := t.cursor.skipMany n }.push token

/-- Gives up possible keys that are stale; none of them may be required. -/
def dropStale : Option TokenStream := do
  if t.keys.any fun k => k.any fun k => k.isStale t.cursor && k.required then none
  return { t with keys := t.keys.map fun k => k.filter fun k => !k.isStale t.cursor }

/-- Gives up the innermost possible key; it must not be required. -/
def dropKey : Option TokenStream :=
  match t.keys with
  | some k :: rest => if k.required then none else some { t with keys := none :: rest }
  | _ => some t

/-- Notes that the next token may be a key, where a key may start. -/
def noteKey : Option TokenStream := do
  if !t.keyAllowed then return t
  let key : PossibleKey :=
    ⟨t.taken + t.queue.length, t.cursor, !t.inFlow && t.columns.head? = some t.cursor.column⟩
  let t ← t.dropKey
  return { t with keys := some key :: t.keys.tail }

/-- Opens a block in a column that lies to the right of the open blocks. -/
def openBlock (column : Nat) (number : Nat) (token : Token) : TokenStream :=
  if t.inFlow || column < t.least then t
  else { t.insertAt number token with columns := column :: t.columns }

/-- Opens a block at the cursor. -/
def openBlockHere (token : Token) : TokenStream :=
  t.openBlock t.cursor.column (t.taken + t.queue.length) token

/-- Closes the blocks that lie to the right of the column, or all. -/
def closeBlocks (column : Option Nat) : TokenStream :=
  if t.inFlow then t
  else
    let open_ := fun n => column.all (· < n)
    { t with
      columns := t.columns.dropWhile open_
      queue := t.queue ++ (t.columns.takeWhile open_).map fun _ => .blockEnd }

/-- Passes over spaces, remarks, line breaks and a byte order mark that starts a line. After a line
break a key may start. -/
def skipGap (t : TokenStream) : Nat → TokenStream
  | 0 => t
  | fuel + 1 =>
    let c := if t.cursor.column = 0 ∧ t.cursor.isAt '\ufeff' then t.cursor.skip else t.cursor
    let c := c.skipWhile fun x => x == ' ' || (x == '\t' && (t.inFlow || !t.keyAllowed))
    let c := c.skipRemark
    if c.has isBreak 0 then
      skipGap { t with cursor := c.takeBreak.2, keyAllowed := t.keyAllowed || !t.inFlow } fuel
    else { t with cursor := c }

/-- The end of the text ends its last line, too. -/
def readEnd : Option TokenStream := do
  let c := t.cursor
  let c := if c.column = 0 then c else { c with line := c.line + 1, column := 0 }
  let t ← (t.closeBlocks none).dropKey
  return { t with cursor := c, keyAllowed := false }.push .streamEnd

def readDirective : Option TokenStream := do
  let t ← (t.closeBlocks none).dropKey
  let (token, c) ← Mark.directive t.cursor
  return { t with cursor := c, keyAllowed := false }.push token

def readDivider (token : Token) : Option TokenStream := do
  let t ← (t.closeBlocks none).dropKey
  return { t with keyAllowed := false }.pushMark 3 token

def openBracket (token : Token) : Option TokenStream := do
  let t ← t.noteKey
  return { t with keys := none :: t.keys, keyAllowed := true }.pushMark 1 token

def closeBracket (token : Token) : Option TokenStream := do
  let t ← t.dropKey
  let keys := if t.inFlow then t.keys.tail else t.keys
  return { t with keys, keyAllowed := false }.pushMark 1 token

def readFlowEntry : Option TokenStream := do
  let t ← t.dropKey
  return { t with keyAllowed := true }.pushMark 1 .flowEntry

def readBlockEntry : Option TokenStream := do
  if !t.inFlow && !t.keyAllowed then none
  let t ← (t.openBlockHere .blockSequence).dropKey
  return { t with keyAllowed := true }.pushMark 1 .blockEntry

def readKey : Option TokenStream := do
  if !t.inFlow && !t.keyAllowed then none
  let t ← (t.openBlockHere .blockMapping).dropKey
  return { t with keyAllowed := !t.inFlow }.pushMark 1 .key

/-- Reads a colon. If the value before it may be a key it is one, and may open a mapping. -/
def readValue : Option TokenStream :=
  match t.keys with
  | some k :: rest =>
    let t := (t.insertAt k.token .key).openBlock k.place.column k.token .blockMapping
    some ({ t with keys := none :: rest, keyAllowed := false }.pushMark 1 .value)
  | _ => do
    if !t.inFlow && !t.keyAllowed then none
    let t := t.openBlockHere .blockMapping
    return { t with keyAllowed := !t.inFlow }.pushMark 1 .value

/-- Reads a token that may be a key and after which none may start. -/
def readKeyed (read : Cursor → Option (Token × Cursor)) : Option TokenStream := do
  let t ← t.noteKey
  let (token, c) ← read t.cursor
  return { t with cursor := c, keyAllowed := false }.push token

def readQuoted (quote : Char) (style : Style) : Option TokenStream :=
  t.readKeyed fun c => (Quoted.read quote c).map fun (xs, c) => (.scalar style (.ofList xs), c)

def readBlock (isFolded : Bool) (style : Style) : Option TokenStream := do
  let t ← t.dropKey
  let (xs, c) ← Block.read isFolded t.least t.cursor
  return { t with cursor := c, keyAllowed := true }.push (.scalar style (.ofList xs))

/-- Reads a plain scalar. After a line break behind it a key may start. -/
def readPlain : Option TokenStream := do
  let t ← t.noteKey
  let (xs, c, broken) ← Plain.read t.inFlow t.least t.cursor
  return { t with cursor := c, keyAllowed := broken }.push (.scalar .plain (.ofList xs))

/-- Characters that start no plain scalar. -/
def indicators : List Char := "-?:,[]{}#&*!|>'\"%@`".toList

/-- A plain scalar starts with any other character, or with a hyphen, and outside brackets with a
question mark or colon, that touches the next character. -/
def plainStarts (x : Char) : Bool :=
  !(isGap x || indicators.contains x) || (x == '-' && !t.cursor.has isSpace 1) ||
    (!t.inFlow && (x == '?' || x == ':') && !t.cursor.gapAt 1)

/-- Reads the token that starts with the character at the cursor. -/
def readToken (x : Char) : Option TokenStream :=
  let c := t.cursor
  if c.column = 0 ∧ x = '%' then t.readDirective
  else if c.isDivider '-' then t.readDivider .documentStart
  else if c.isDivider '.' then t.readDivider .documentEnd
  else match x with
    | '[' => t.openBracket .flowSequenceStart
    | '{' => t.openBracket .flowMappingStart
    | ']' => t.closeBracket .flowSequenceEnd
    | '}' => t.closeBracket .flowMappingEnd
    | ',' => t.readFlowEntry
    | '*' => t.readKeyed fun c => (Mark.name c).map fun (name, c) => (.reference name, c)
    | '&' => t.readKeyed fun c => (Mark.name c).map fun (name, c) => (.anchor name, c)
    | '!' => t.readKeyed (Mark.tag t.inFlow)
    | '\'' => t.readQuoted '\'' .singleQuoted
    | '"' => t.readQuoted '"' .doubleQuoted
    | _ =>
      if x = '-' ∧ c.gapAt 1 then t.readBlockEntry
      else if x = '?' ∧ (t.inFlow ∨ c.gapAt 1) then t.readKey
      else if x = ':' ∧ (t.inFlow ∨ c.gapAt 1) then t.readValue
      else if x = '|' ∧ !t.inFlow then t.readBlock false .literal
      else if x = '>' ∧ !t.inFlow then t.readBlock true .folded
      else if t.plainStarts x then t.readPlain
      else none

/-- Reads one token more, and the marks that go with it. -/
def readNext : Option TokenStream := do
  let t := t.skipGap (t.cursor.rest.length + 1)
  let t ← t.dropStale
  let t := t.closeBlocks (some t.cursor.column)
  match t.cursor.peek with
  | none => t.readEnd
  | some x => t.readToken x

/-- Reads on until the next token is certain. -/
def fill (t : TokenStream) : Nat → Option TokenStream
  | 0 => none
  | fuel + 1 => do
    if t.queue = [] then fill (← t.readNext) fuel
    else
      let t ← t.dropStale
      if t.keys.any fun k => k.any fun k => k.token = t.taken then fill (← t.readNext) fuel
      else return t

/-- The next token, and the stream in which it is the first of the queue. -/
def peek : Option (Token × TokenStream) := do
  let t ← t.fill (t.cursor.rest.length + 3)
  return (← t.queue.head?, t)

/-- Takes the next token, which has been seen. -/
def take : TokenStream := { t with queue := t.queue.tail, taken := t.taken + 1 }

end TokenStream
end RecipeBook.Yaml
