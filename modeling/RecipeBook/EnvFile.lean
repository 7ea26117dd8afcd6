import RecipeBook.Text.Alphanumeric
import RecipeBook.Text.Line

/-!
# Variables in a file

A file may set variables that are not set yet, one a line: a name, an equals sign and a value. A value
may stand in apostrophes or quotation marks and then goes on over lines; outside apostrophes a dollar
sign puts in the value of a variable, and a backslash takes some characters as they are. A number sign
behind a blank starts a remark. The first line that is not of this form ends the reading.
-/

namespace RecipeBook.EnvFile

/-- Variables and their values; the first value of a name counts. -/
abbrev Variables := List (String × String)

/-! ## Lines -/

/-- Where in a line one is. -/
inductive Quoting
  | outside
  /-- Behind a blank. -/
  | gap
  | escape
  | single
  | singleEscape
  | double
  | doubleEscape
  deriving DecidableEq, Repr

namespace Quoting

def opened (c : Char) : Quoting :=
  if c = '\\' then escape else if c = '"' then double else if c = '\'' then single else outside

/-- The place after a character, unless a remark starts with it. -/
def next (q : Quoting) (c : Char) : Option Quoting :=
  match q with
  | gap => if c = '#' then none else some (opened c)
  | escape => some outside
  | outside =>
    if Text.isBlank c ∧ c ≠ '\n' ∧ c ≠ '\r' then some gap else some (opened c)
  | double => some (if c = '\\' then doubleEscape else if c = '"' then outside else double)
  | doubleEscape => some double
  | single => some (if c = '\\' then singleEscape else if c = '\'' then outside else single)
  | singleEscape => some single

/-- The characters of a line before a remark, and the place at its end if there is no remark. -/
def scan (q : Quoting) : List Char → List Char × Option Quoting
  | [] => ([], some q)
  | c :: r =>
    match q.next c with
    | none => ([], none)
    | some q => let p := scan q r; (c :: p.1, p.2)

end Quoting

/-- The lines of octets, each with the line feed that ends it. -/
def rawLines (line : List UInt8) : List UInt8 → List (List UInt8)
  | [] => if line = [] then [] else [line.reverse]
  | b :: r => if b = 10 then (b :: line).reverse :: rawLines [] r else rawLines (b :: line) r

/-- A line without its end. -/
def withoutEnd (line : List Char) : List Char :=
  match Text.dropEnd? ['\n'] line with
  | some line => Text.dropReturn line
  | none => line

/-- The entries: lines, joined where quotes are open. `none` stands for what cannot be read. -/
def entriesFrom (started : List Char) (q : Quoting) :
    List (List UInt8) → List (Option (List Char))
  | [] => if q = .outside then [] else [none]
  | raw :: rest =>
    match String.fromUTF8? ⟨raw.toArray⟩ with
    | none => [none]
    | some line =>
      let text := started ++ line.toList
      if (Text.trimStart text).head? = some '#' then entriesFrom [] .outside rest
      else
        match q.scan line.toList with
        | (before, none) => some (started ++ before) :: entriesFrom [] .outside rest
        | (_, some .outside) => some (withoutEnd text) :: entriesFrom [] .outside rest
        | (_, some q) => entriesFrom text q rest

/-! ## Values -/

inductive Mode
  | text
  | escape
  | single
  /-- In the name of a variable. -/
  | name (s : List Char)
  | bracedName (s : List Char)
  /-- Behind the value. -/
  | ended
  | remark
  deriving DecidableEq, Repr

structure Value where
  output : List Char
  inDouble : Bool
  mode : Mode
  deriving DecidableEq, Repr

namespace Value

def start : Value := ⟨[], false, .text⟩

def add (v : Value) (s : List Char) : Value := { v with output := v.output ++ s }

def lookup (vars : Variables) (name : List Char) : List Char :=
  ((List.lookup (String.ofList name) vars).getD "").toList

/-- What a backslash and a character stand for. -/
def escaped? (c : Char) : Option Char :=
  if ['\\', '\'', '"', '$', ' '].contains c then some c else if c = 'n' then some '\n' else none

/-- Reads one character more. -/
def next (vars : Variables) (v : Value) (c : Char) : Option Value :=
  match v.mode with
  | .remark => some v
  | .ended =>
    if c = ' ' ∨ c = '\t' then some v
    else if c = '#' then some { v with mode := .remark }
    else none
  | .escape => (escaped? c).map fun c => { v.add [c] with mode := .text }
  | .single => some (if c = '\'' then { v with mode := .text } else v.add [c])
  | .name s =>
    if Text.isAlphanumeric c then some { v with mode := .name (s ++ [c]) }
    else if c = '\x7b' ∧ s = [] then some { v with mode := .bracedName [] }
    else
      let v := v.add (lookup vars s)
      some (if c = '$' then { v with mode := .name [] } else { v.add [c] with mode := .text })
  | .bracedName s =>
    some (if c = '\x7d' then { v.add (lookup vars s) with mode := .text }
      else { v with mode := .bracedName (s ++ [c]) })
  | .text =>
    some (
      if c = '$' then { v with mode := .name [] }
      else if c = '\\' then { v with mode := .escape }
      else if c = '"' then { v with inDouble := !v.inDouble }
      else if v.inDouble then v.add [c]
      else if c = '\'' then { v with mode := .single }
      else if c = ' ' ∨ c = '\t' then { v with mode := .ended }
      else v.add [c])

/-- The value, if its quotes and braces are closed. -/
def finish (vars : Variables) (v : Value) : Option (List Char) :=
  if v.inDouble then none
  else
    match v.mode with
    | .single => none
    | .bracedName _ => none
    | .name s => some (v.output ++ lookup vars s)
    | _ => some v.output

def read (vars : Variables) (s : List Char) : Option (List Char) :=
  (s.foldlM (next vars) start).bind (finish vars)

end Value

/-! ## Entries -/

def isKeyChar (c : Char) : Bool := c.isAlphanum || c == '_' || c == '.'

/-- A name and the rest behind it and the blanks that follow. -/
def key? (s : List Char) : Option (List Char × List Char) :=
  if s.head?.any fun c => c.isAlpha || c == '_' then
    some (s.takeWhile isKeyChar, Text.trimStart (s.dropWhile isKeyChar))
  else none

/-- A name and the rest behind the equals sign. -/
def assignment? (s : List Char) : Option (List Char × List Char) := do
  match ← key? s with
  | (key, '=' :: rest) => return (key, rest)
  | (key, rest) =>
    if key = "export".toList then
      match ← key? rest with
      | (key, '=' :: rest) => return (key, rest)
      | _ => none
    else none

/-- An entry sets a variable, or nothing at all if it is blank. -/
def entry? (vars : Variables) (line : List Char) : Option (Option (String × String)) := do
  let s := Text.trim line
  if s = [] ∨ s.head? = some '#' then return none
  let (key, rest) ← assignment? s
  let rest := Text.trimStart rest
  if rest = [] ∨ rest.head? = some '#' then return some (.ofList key, "")
  let value ← Value.read vars rest
  return some (.ofList key, .ofList value)

/-- The variables after some entries. What is set already stays. -/
def setAll (vars : Variables) : List (Option (List Char)) → Variables
  | [] => vars
  | none :: _ => vars
  | some line :: rest =>
    match entry? vars line with
    | none => vars
    | some none => setAll vars rest
    | some (some (key, value)) =>
      if (vars.lookup key).isSome then setAll vars rest
      else setAll (vars ++ [(key, value)]) rest

/-- The variables together with those of a file, which may start with a byte order mark. -/
def load (vars : Variables) (bytes : ByteArray) : Variables :=
  let octets := bytes.toList
  let octets := if [0xef, 0xbb, 0xbf].isPrefixOf octets then octets.drop 3 else octets
  setAll vars (entriesFrom [] .outside (rawLines [] octets))

end RecipeBook.EnvFile
