import RecipeBook.Number.Shortest

/-!
# Writing doubles

A double is written with the fewest digits that read back. `Layout` says where the point goes:
which sizes are written out in full, and which as one digit, a fraction and a power of ten.
-/

namespace RecipeBook.Number

structure Layout where
  /-- Numbers whose first digit stands for ten to this power or a higher one take an exponent. -/
  fromPower : Int
  /-- Numbers whose first digit stands for a lower power of ten than this one take an exponent. -/
  belowPower : Int
  notANumber : String
  infinity : String

/-- In messages. -/
def messageLayout : Layout where
  fromPower := 16
  belowPower := -4
  notANumber := "NaN"
  infinity := "inf"

/-- In JSON, which has no words for what is not finite. -/
def jsonLayout : Layout where
  fromPower := 16
  belowPower := -5
  notANumber := "null"
  infinity := "null"

/-- A point inside, before or after the digits; a whole number keeps one zero behind its point. -/
def positional (x : Digits) : List Char :=
  let ds := Nat.toDigits 10 x.digits
  if x.exponent ≥ 0 then ds ++ List.replicate x.exponent.toNat '0' ++ ['.', '0']
  else
    let places := x.exponent.natAbs
    if ds.length > places then ds.take (ds.length - places) ++ '.' :: ds.drop (ds.length - places)
    else ['0', '.'] ++ List.replicate (places - ds.length) '0' ++ ds

def exponential (x : Digits) : List Char :=
  let ds := Nat.toDigits 10 x.digits
  let power := x.exponent + (ds.length - 1)
  let fraction := if ds.length > 1 then '.' :: ds.drop 1 else []
  ds.take 1 ++ fraction ++ ['e'] ++ (toString power).toList

namespace Layout

def write (layout : Layout) (x : Float) : List Char :=
  match Binary.ofFloat x with
  | .notANumber => layout.notANumber.toList
  | .infinite negative => (if negative then ['-'] else []) ++ layout.infinity.toList
  | .finite negative mantissa exponent =>
    let body :=
      if mantissa = 0 then ['0', '.', '0']
      else
        let digits := shortest mantissa exponent
        let power := digits.exponent + ((Nat.toDigits 10 digits.digits).length - 1)
        if layout.belowPower ≤ power ∧ power < layout.fromPower then positional digits
        else exponential digits
    (if negative then ['-'] else []) ++ body

end Layout
end RecipeBook.Number
