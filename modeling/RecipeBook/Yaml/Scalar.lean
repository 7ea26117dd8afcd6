import RecipeBook.Number.Binary
import RecipeBook.Number.Decimal

/-!
# What plain scalars mean

A plain scalar may be nothing, a truth value, a whole number or a decimal number. Whole numbers are
written in base ten, or in base sixteen, eight or two behind `0x`, `0o` and `0b`; digits behind a
leading zero make no number.
-/

namespace RecipeBook.Yaml.Scalar

def isNull (s : String) : Bool := s = "null" || s = "Null" || s = "NULL" || s = "~"

def bool? (s : String) : Option Bool :=
  if s = "true" ∨ s = "True" ∨ s = "TRUE" then some true
  else if s = "false" ∨ s = "False" ∨ s = "FALSE" then some false
  else none

def isSign (c : Char) : Bool := c == '+' || c == '-'

/-- Two or more digits of which the first is a zero, with a sign or without. -/
def isPadded (s : List Char) : Bool :=
  let digits := match s with
    | c :: r => if isSign c then r else s
    | [] => []
  digits.length > 1 && digits.head? == some '0' && digits.all Char.isDigit

/-- The digits behind the mark of a base, and the base. -/
def inBase : List Char → Nat × List Char
  | '0' :: 'x' :: r => (16, r)
  | '0' :: 'o' :: r => (8, r)
  | '0' :: 'b' :: r => (2, r)
  | s => (10, s)

/-- A number without a sign that is at most `limit`. -/
def digits? (limit : Nat) (s : List Char) : Option Nat :=
  let (base, digits) := inBase s
  if digits.head?.any isSign || (base = 10 && isPadded digits) then none
  else (Number.readWholeIn base limit digits).toOption

/-- A number that is at most `limit`, with a plus sign or without. -/
def whole? (limit : Nat) : List Char → Option Nat
  | '+' :: r => digits? limit r
  | s => digits? limit s

/-- A whole number of `bits` bits. -/
def integer? (bits : Nat) : List Char → Option Int
  | '-' :: r => (digits? (Number.twoPow (bits - 1)) r).map fun n => -(n : Int)
  | s => (whole? (Number.maxOf bits) s).map Int.ofNat

def infinityWords : List String := [".inf", ".Inf", ".INF"]

def nanWords : List String := [".nan", ".NaN", ".NAN"]

/-- A decimal number, infinity and the undefined number included. -/
def float? (s : String) : Option Float :=
  let body := match s.toList with
    | '+' :: r => r
    | r => r
  if s.toList.head? = some '+' ∧ body.head?.any isSign then none
  else if infinityWords.contains (.ofList body) then some (1.0 / 0.0)
  else if infinityWords.any fun word => s = "-" ++ word then some (-1.0 / 0.0)
  else if nanWords.contains s then some (0.0 / 0.0)
  else (Decimal.readFloat body).toOption.filter fun x => x.isFinite

end RecipeBook.Yaml.Scalar
