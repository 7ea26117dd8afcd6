import RecipeBook.Number.Binary

/-!
# The fewest digits that read back

A double stands for every real number that is nearer to it than to any other double, ends included
if its mantissa is even. `shortest` finds the decimal number of fewest digits in that interval, and
of two with equally many digits the one nearer to the double itself.
-/

namespace RecipeBook.Number

/-- The number `digits * 10 ^ exponent`. -/
structure Digits where
  digits : Nat
  exponent : Int
  deriving DecidableEq, Repr

/-- `num * 2 ^ q` against `d * 10 ^ k`, both sides made whole. -/
def compareScaled (num : Nat) (q : Int) (d : Nat) (k : Int) : Ordering :=
  compare (num * twoPow q.toNat * tenPow (-k).toNat) (d * tenPow k.toNat * twoPow (-q).toNat)

/-- The largest `d` with `d * 10 ^ k ≤ num * 2 ^ q`. -/
def floorScaled (num : Nat) (q : Int) (k : Int) : Nat :=
  num * twoPow q.toNat * tenPow (-k).toNat / (tenPow k.toNat * twoPow (-q).toNat)

/-- The power of ten of the first digit of `num * 2 ^ q`. -/
def leadingPower (num : Nat) (q : Int) : Int :=
  if q ≥ 0 then (Nat.toDigits 10 (num * twoPow q.toNat)).length - 1
  else
    let whole := num / twoPow (-q).toNat
    if whole > 0 then (Nat.toDigits 10 whole).length - 1
    else
      let inverse := twoPow (-q).toNat / num
      let size := (Nat.toDigits 10 inverse).length
      if num * tenPow (size - 1) = twoPow (-q).toNat then -((size : Int) - 1) else -(size : Int)

/-- The interval of a double in quarters of its last place: its lower end, itself and its upper end,
at the scale `2 ^ (exponent - 2)`. Below a power of two the doubles lie twice as close. -/
def interval (mantissa : Nat) (exponent : Int) : Nat × Nat × Nat :=
  let below := if mantissa = twoPow 52 ∧ exponent > -1074 then 1 else 2
  (4 * mantissa - below, 4 * mantissa, 4 * mantissa + 2)

/-- The best number of `count` digits in the interval, if there is one. -/
def withDigits (mantissa : Nat) (exponent : Int) (count : Nat) : Option Digits :=
  let (low, mid, high) := interval mantissa exponent
  let q := exponent - 2
  let k := leadingPower mid q - (count - 1)
  let inside (d : Nat) : Bool :=
    let fromLow := compareScaled low q d k
    let toHigh := compareScaled high q d k
    if mantissa % 2 = 0 then fromLow != .gt && toHigh != .lt else fromLow == .lt && toHigh == .gt
  let floor := floorScaled mid q k
  let fromFloor := mid * twoPow q.toNat * tenPow (-k).toNat -
    floor * (tenPow k.toNat * twoPow (-q).toNat)
  let unit := tenPow k.toNat * twoPow (-q).toNat
  let nearFirst := if 2 * fromFloor < unit ∨ (2 * fromFloor = unit ∧ floor % 2 = 0)
    then [floor, floor + 1] else [floor + 1, floor]
  (nearFirst.find? inside).map fun d => ⟨d, k⟩

/-- Trailing zeros moved into the exponent, at most `fuel` of them. -/
def dropZeros : Nat → Digits → Digits
  | 0, x => x
  | fuel + 1, x =>
    if x.digits % 10 = 0 ∧ x.digits ≠ 0 then dropZeros fuel ⟨x.digits / 10, x.exponent + 1⟩ else x

/-- The fewest digits that read back as `mantissa * 2 ^ exponent`; seventeen always do. -/
def shortest (mantissa : Nat) (exponent : Int) : Digits :=
  match (List.range 17).findSome? fun n => withDigits mantissa exponent (n + 1) with
  | some x => dropZeros 20 x
  | none => ⟨0, 0⟩

end RecipeBook.Number
