import RecipeBook.Number.Power

/-!
# Doubles as binary fractions

A double is infinite, not a number, or `± mantissa * 2 ^ exponent`. `Binary.ofFloat` takes the bits
apart, so that whole numbers near a double can be stated in integer arithmetic.
-/

namespace RecipeBook

inductive Binary
  | finite (negative : Bool) (mantissa : Nat) (exponent : Int)
  | infinite (negative : Bool)
  | notANumber
  deriving DecidableEq, Repr

namespace Binary

open Number (twoPow)

/-- The bits of a double: one of sign, eleven of exponent, fifty-two of fraction. -/
def ofBits (bits : Nat) : Binary :=
  let negative := bits / twoPow 63 % 2 == 1
  let exponent : Nat := bits / twoPow 52 % twoPow 11
  let fraction : Nat := bits % twoPow 52
  if exponent = twoPow 11 - 1 then if fraction = 0 then infinite negative else notANumber
  else if exponent = 0 then finite negative fraction (-1074)
  else finite negative (twoPow 52 + fraction) (Int.ofNat exponent - 1075)

def ofFloat (x : Float) : Binary := ofBits x.toBits.toNat

/-- The whole part of `mantissa * 2 ^ exponent`. -/
def wholePart (mantissa : Nat) (exponent : Int) : Nat :=
  if exponent < 0 then mantissa / twoPow exponent.natAbs else mantissa * twoPow exponent.natAbs

/-- `mantissa * 2 ^ exponent` is a whole number. -/
def isWhole (mantissa : Nat) (exponent : Int) : Bool :=
  exponent ≥ 0 || mantissa % twoPow exponent.natAbs == 0

def minInt : Int := -Int.ofNat (twoPow 63)

def maxInt : Int := Int.ofNat (twoPow 63) - 1

/-- The nearest integer of 64 bits. -/
def clamp (n : Int) : Int := max minInt (min maxInt n)

/-- Rounds a double to an integer of 64 bits by rounding its size and clamping the result; what is
not a number gives zero. -/
def roundWith (round : Bool → Nat → Int → Int) : Binary → Int
  | finite negative mantissa exponent => clamp (round negative mantissa exponent)
  | infinite negative => if negative then minInt else maxInt
  | notANumber => 0

/-- Rounding toward zero. -/
def truncate : Binary → Int :=
  roundWith fun negative m e => if negative then -wholePart m e else wholePart m e

/-- Rounding up. -/
def ceiling : Binary → Int :=
  roundWith fun negative m e =>
    if negative then -wholePart m e
    else if isWhole m e then wholePart m e else wholePart m e + 1

end Binary
end RecipeBook
