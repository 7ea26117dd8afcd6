import RecipeBook.Number.Whole

/-!
# Decimal numbers in text

A decimal number has an optional sign, digits with at most one point, at least one digit in all, and
an optional exponent; or it is one of the words `inf`, `infinity` and `nan` in any letter case.
`Decimal` is what such a text says, `Decimal.toFloat` the nearest double.
-/

namespace RecipeBook

inductive DecimalFault
  | empty
  | malformed
  deriving DecidableEq, Repr

namespace DecimalFault

def message : DecimalFault → String
  | empty => "cannot parse float from empty string"
  | malformed => "invalid float literal"

end DecimalFault

/-- The size of a decimal number, its sign apart. -/
inductive Magnitude
  /-- `digits * 10 ^ exponent` -/
  | finite (digits : Nat) (exponent : Int)
  | infinite
  | notANumber
  deriving DecidableEq, Repr

structure Decimal where
  negative : Bool
  magnitude : Magnitude
  deriving DecidableEq, Repr

namespace Decimal

def digitValue (c : Char) : Nat := c.toNat - '0'.toNat

def ofDigits (s : List Char) : Nat := s.foldl (fun n c => 10 * n + digitValue c) 0

/-- The exponent at the end of a number: nothing, or `e`, an optional sign and digits. -/
def readExponent : List Char → Option Int
  | [] => some 0
  | c :: r =>
    if c = 'e' ∨ c = 'E' then
      let (sign, digits) := match r with
        | '-' :: ds => (-1, ds)
        | '+' :: ds => (1, ds)
        | ds => ((1 : Int), ds)
      if digits ≠ [] ∧ digits.all Char.isDigit then some (sign * ofDigits digits) else none
    else none

/-- A number without its sign. -/
def readFinite (s : List Char) : Option Magnitude :=
  let whole := s.takeWhile Char.isDigit
  let rest := s.dropWhile Char.isDigit
  let (fraction, rest) := match rest with
    | '.' :: r => (r.takeWhile Char.isDigit, r.dropWhile Char.isDigit)
    | r => ([], r)
  if whole ++ fraction = [] then none
  else (readExponent rest).map fun e =>
    .finite (ofDigits (whole ++ fraction)) (e - fraction.length)

def readMagnitude (s : List Char) : Option Magnitude :=
  let word := s.map Char.toLower
  if word = "inf".toList ∨ word = "infinity".toList then some .infinite
  else if word = "nan".toList then some .notANumber
  else readFinite s

def read : List Char → Except DecimalFault Decimal
  | [] => .error .empty
  | s =>
    let (negative, body) := match s with
      | '-' :: r => (true, r)
      | '+' :: r => (false, r)
      | r => (false, r)
    match readMagnitude body with
    | some m => .ok ⟨negative, m⟩
    | none => .error .malformed

/-- The nearest double to `digits * 10 ^ exponent`. Exponents so far out that no double comes near
are cut off first: from ten to the 400 on everything is infinite, and below its inverse zero. -/
def nearest (digits : Nat) (exponent : Int) : Float :=
  let size := (Nat.toDigits 10 digits).length + exponent
  if digits = 0 ∨ size < -400 then 0.0
  else if size > 400 then 1.0 / 0.0
  else if exponent < 0 then Float.ofScientific digits true exponent.natAbs
  else Float.ofScientific digits false exponent.natAbs

def toFloat (d : Decimal) : Float :=
  let size := match d.magnitude with
    | .finite digits exponent => nearest digits exponent
    | .infinite => 1.0 / 0.0
    | .notANumber => 0.0 / 0.0
  if d.negative then -size else size

/-- The double that a text denotes. -/
def readFloat (s : List Char) : Except DecimalFault Float := (read s).map toFloat

end Decimal
end RecipeBook
