import RecipeBook.Number.Decimal
import RecipeBook.Number.Whole
import RecipeBook.RecordFault

/-!
# Reading records from JSON

A JSON text is read from left to right, and the first thing that does not fit is the fault.
-/

namespace RecipeBook.Json

/-- Reads from the front of a text and leaves the rest. -/
abbrev Reader (α : Type) := StateT (List Char) (Except RecordFault) α

namespace Reader

variable {α : Type}

def refuse (fault : RecordFault) : Reader α := throw fault

/-- Goes on after the characters of the class and gives them. -/
def takeWhile (isOne : Char → Bool) : Reader (List Char) := fun s =>
  .ok (s.takeWhile isOne, s.dropWhile isOne)

def isSpace (c : Char) : Bool := c == ' ' || c == '\t' || c == '\n' || c == '\r'

/-- The next character that is no space; it is left. -/
def peek : Reader (Option Char) := do
  let _ ← takeWhile isSpace
  return (← get).head?

def skip : Reader Unit := modify List.tail

/-- The given characters. -/
def word (expected : List Char) : Reader Unit := fun s =>
  if expected.isPrefixOf s then .ok ((), s.drop expected.length) else .error .malformed

/-- The given character, after spaces. -/
def mark (c : Char) : Reader Unit := do
  if (← peek) = some c then skip else refuse .malformed

/-! ## Texts -/

def shortEscape? : Char → Option Char
  | '"' => some '"'
  | '\\' => some '\\'
  | '/' => some '/'
  | 'b' => some '\x08'
  | 'f' => some '\x0c'
  | 'n' => some '\n'
  | 'r' => some '\r'
  | 't' => some '\t'
  | _ => none

/-- The number of four hexadecimal digits. -/
def unit : Reader Nat := fun s =>
  match (s.take 4).mapM (Number.digit? 16) with
  | some [a, b, c, d] => .ok (((a * 16 + b) * 16 + c) * 16 + d, s.drop 4)
  | _ => .error .malformed

def isLeading (n : Nat) : Bool := 0xd800 ≤ n && n ≤ 0xdbff

def isTrailing (n : Nat) : Bool := 0xdc00 ≤ n && n ≤ 0xdfff

/-- The character of a code unit, or of a pair of them. -/
def codePoint : Reader Char := do
  let n ← unit
  if isTrailing n then refuse .malformed
  else if isLeading n then do
    word ['\\', 'u']
    let m ← unit
    if isTrailing m then return .ofNat (0x10000 + (n - 0xd800) * 0x400 + (m - 0xdc00))
    else refuse .malformed
  else return .ofNat n

/-- The characters up to the closing mark. -/
def characters : Nat → Reader (List Char)
  | 0 => refuse .malformed
  | fuel + 1 => do
    match ← get with
    | '"' :: _ =>
      skip
      return []
    | '\\' :: 'u' :: rest =>
      set rest
      return (← codePoint) :: (← characters fuel)
    | '\\' :: e :: rest =>
      match shortEscape? e with
      | some c =>
        set rest
        return c :: (← characters fuel)
      | none => refuse .malformed
    | c :: rest =>
      if c < ' ' ∨ c = '\\' then refuse .malformed
      else
        set rest
        return c :: (← characters fuel)
    | [] => refuse .malformed

/-- A text whose opening mark comes next. -/
def quoted : Reader String := do
  mark '"'
  return .ofList (← characters ((← get).length + 1))

/-! ## Numbers -/

inductive Numeral
  | natural (n : Nat)
  | negative (n : Nat)
  | real
  deriving DecidableEq, Repr

/-- One digit or more. -/
def digits : Reader (List Char) := do
  let ds ← takeWhile Char.isDigit
  if ds = [] then refuse .malformed else return ds

def isExponentMark (c : Char) : Bool := c == 'e' || c == 'E'

/-- An exponent, if there is one. -/
def exponent? : Reader (Option Int) := do
  match ← get with
  | e :: sign :: rest =>
    if !isExponentMark e then return none
    else if sign = '-' ∨ sign = '+' then
      set rest
      let n : Int := Decimal.ofDigits (← digits)
      return some (if sign = '-' then -n else n)
    else
      set (sign :: rest)
      return some (Decimal.ofDigits (← digits))
  | [e] => if isExponentMark e then refuse .malformed else return none
  | [] => return none

/-- The digits behind a point, if there is one. -/
def places? : Reader (Option (List Char)) := do
  if (← get).head? = some '.' then
    skip
    return some (← digits)
  else return none

/-- A number without its sign. It has no leading zeros and must not be out of the range of doubles. -/
def numeral (isNegative : Bool) : Reader Numeral := do
  let ds ← digits
  if ds.head? = some '0' ∧ ds.length ≠ 1 then refuse .malformed
  let places ← places?
  let exponent ← exponent?
  let n := Decimal.ofDigits ds
  let isWhole := places.isNone && exponent.isNone
  if isWhole && !isNegative && n ≤ Number.maxOf 64 then return .natural n
  else if isWhole && isNegative && 0 < n && n ≤ Number.twoPow 63 then return .negative n
  else
    let places := places.getD []
    let size := Decimal.nearest (Decimal.ofDigits (ds ++ places)) (exponent.getD 0 - places.length)
    if size.isFinite then return .real else refuse .malformed

/-- A number whose sign or first digit comes next. -/
def number : Reader Numeral := do
  if (← peek) = some '-' then
    skip
    numeral true
  else numeral false

/-! ## Values of a type -/

def startsNumber (c : Char) : Bool := c == '-' || c.isDigit

/-- Refuses a value of another type than the wanted one, if it is a value at all. -/
def refuseOther : Reader α := do
  match ← peek with
  | some 'n' => word "null".toList
  | some 't' => word "true".toList
  | some 'f' => word "false".toList
  | some '"' => let _ ← quoted
  | some '[' => pure ()
  | some '\x7b' => pure ()
  | some c =>
    if startsNumber c then
      let _ ← number
    else refuse .malformed
  | none => refuse .malformed
  refuse .invalidType

def text : Reader String := do
  if (← peek) = some '"' then quoted else refuseOther

/-- A whole number that is at most `limit`. -/
def whole (limit : Nat) : Reader Nat := do
  if !(← peek).any startsNumber then refuseOther
  match ← number with
  | .natural n => if n ≤ limit then return n else refuse .invalidValue
  | .negative _ => refuse .invalidValue
  | .real => refuse .invalidType

/-- A value that may be null. -/
def optional (read : Reader α) : Reader (Option α) := do
  if (← peek) = some 'n' then
    word "null".toList
    return none
  else return some (← read)

/-! ## Records -/

/-- The fields of a record: the names, and how the value of one is put into the record. -/
structure Shape (α : Type) where
  names : List String
  put : String → α → Reader α

/-- The fields of an object, from a name on. A name must be known and new. -/
def members (shape : Shape α) (seen : List String) (a : α) : Nat → Reader α
  | 0 => refuse .malformed
  | fuel + 1 => do
    let name ← quoted
    if !shape.names.contains name then refuse (.unknownField name)
    if seen.contains name then refuse (.duplicateField name)
    mark ':'
    let a ← shape.put name a
    if (← peek) = some '\x7d' then
      skip
      return a
    else
      mark ','
      members shape (name :: seen) a fuel

/-- The items of a list, which stand for the fields in order. -/
def items (shape : Shape α) (a : α) : List String → Reader α
  | [] => refuse .malformed
  | name :: names => do
    let a ← shape.put name a
    if (← peek) = some ']' then
      skip
      return a
    else
      mark ','
      items shape a names

/-- A record is an object or a list. It starts from `a`, and its fields may be left out. -/
def record (shape : Shape α) (a : α) : Reader α := do
  match ← peek with
  | some '\x7b' =>
    skip
    if (← peek) = some '\x7d' then
      skip
      return a
    else members shape [] a ((← get).length + 1)
  | some '[' =>
    skip
    if (← peek) = some ']' then
      skip
      return a
    else items shape a shape.names
  | _ => refuseOther

/-- The record of a text that holds nothing else. -/
def document (shape : Shape α) (a : α) (text : String) : Except RecordFault α := do
  let (a, rest) ← (record shape a).run text.toList
  if rest.all isSpace then return a else throw .malformed

end Reader
end RecipeBook.Json
