import RecipeBook.Number.Power

/-!
# Whole numbers in text

A count is written as ASCII digits, with a plus sign in front if one likes. `readWhole limit` gives
the number or the reason why there is none. Digits are taken from the left: the first character that
is no digit, or the first that takes the number past the limit, decides.
-/

namespace RecipeBook

inductive WholeFault
  | empty
  | notADigit
  | tooLarge
  deriving DecidableEq, Repr

namespace WholeFault

def message : WholeFault → String
  | empty => "cannot parse integer from empty string"
  | notADigit => "invalid digit found in string"
  | tooLarge => "number too large to fit in target type"

end WholeFault

namespace Number

/-- The value of a digit of the base; letters stand for the digits from ten on, in either case. -/
def digit? (base : Nat) (c : Char) : Option Nat :=
  let value :=
    if c.isDigit then some (c.toNat - '0'.toNat)
    else if c.isLower then some (c.toNat - 'a'.toNat + 10)
    else if c.isUpper then some (c.toNat - 'A'.toNat + 10)
    else none
  value.filter (· < base)

/-- Reads digits after a number whose value is `n` so far. -/
def readDigits (base limit : Nat) (n : Nat) : List Char → Except WholeFault Nat
  | [] => .ok n
  | c :: r =>
    match digit? base c with
    | none => .error .notADigit
    | some d =>
      if n * base + d ≤ limit then readDigits base limit (n * base + d) r else .error .tooLarge

/-- A number of the base that is at most `limit`. -/
def readWholeIn (base limit : Nat) : List Char → Except WholeFault Nat
  | [] => .error .empty
  | ['+'] => .error .notADigit
  | '+' :: r => readDigits base limit 0 r
  | s => readDigits base limit 0 s

def readWhole (limit : Nat) (s : List Char) : Except WholeFault Nat := readWholeIn 10 limit s

/-- The largest number of `bits` bits. -/
def maxOf (bits : Nat) : Nat := twoPow bits - 1

theorem readDigits_le {base limit n m : Nat} {s : List Char} (hn : n ≤ limit)
    (h : readDigits base limit n s = .ok m) : m ≤ limit := by
  induction s generalizing n with
  | nil => rw [readDigits] at h; cases h; exact hn
  | cons c r ih =>
    rw [readDigits] at h
    split at h
    · cases h
    · split at h
      · next hd => exact ih hd h
      · cases h

end Number
end RecipeBook
