import RecipeBook.Number.Binary

/-!
# Amounts for the kitchen

Small amounts are shown as the nearest of a few fractions, alone or behind a whole number. Amounts
above five are cut to a whole number and rounded to three digits, and a half goes to the even
neighbour.
-/

namespace RecipeBook.Amount

/-- `n` rounded to three digits when it has more; a tie goes to the even quotient. -/
def roundToThree (n : Int) : Int :=
  let size := (Nat.toDigits 10 n.natAbs).length
  if size ≤ 3 then n
  else
    let unit : Int := Int.ofNat (Number.tenPow (size - 3))
    let quotient := n.tdiv unit
    let remainder := n.tmod unit
    let rounded :=
      if remainder * 2 < unit then quotient
      else if remainder * 2 = unit then quotient + quotient.tmod 2
      else quotient + 1
    rounded * unit

/-- The smallest whole number of 64 bits that covers the amount. -/
def roundUp (x : Float) : Int := (Binary.ofFloat x).ceiling

/-- What is shown for amounts up to one. -/
def small (x : Float) : String :=
  if x < 0.29 then "¼"
  else if x < 0.4 then "⅓"
  else if x < 0.6 then "½"
  else if x < 0.7 then "⅔"
  else if x ≤ 0.85 then "¾"
  else "1"

/-- What is shown for amounts above 1.85. -/
def large (x : Float) : String :=
  if x ≤ 2.15 then "2"
  else if x ≤ 2.35 then "2 ¼"
  else if x ≤ 2.65 then "2 ½"
  else if x ≤ 2.85 then "2 ¾"
  else if x ≤ 3.25 then "3"
  else if x ≤ 3.75 then "3 ½"
  else if x ≤ 4.33 then "4"
  else if x ≤ 5.0 then "5"
  else toString (roundToThree (Binary.ofFloat x).truncate)

/-- The amount as it is shown. Up to 1.85, what is above one is shown behind it. -/
def format (x : Float) : String :=
  if x ≤ 1.0 then small x
  else if x ≤ 1.85 then "1 " ++ small (x - 1.0)
  else large x

end RecipeBook.Amount
