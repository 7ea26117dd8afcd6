import RecipeBook.Text.CompositionTable

/-!
# Composed texts

A letter with marks may be written as one character or as a letter and marks behind it. In a composed
text (`composed`) marks are in the order of their classes and every pair that composes a character is
written as that character. The text must hold no character that composed texts avoid, such as the
sign for the unit ohm.
-/

namespace RecipeBook.Text

/-- The class that orders marks; a character of class zero starts a new letter. -/
def markClass (c : Char) : Nat :=
  ((markClasses.find? fun r => r.1 ≤ c.toNat && c.toNat ≤ r.2.1).map (·.2.2)).getD 0

/-! ## Syllables of Hangul

A syllable is composed of a leading consonant and a vowel, and that pair with a trailing consonant.
-/

namespace Hangul

/-- The first syllable, the first leading consonant, the first vowel, and the character before the
first trailing consonant. -/
def syllableBase : Nat := 0xAC00
def leadBase : Nat := 0x1100
def vowelBase : Nat := 0x1161
def trailBase : Nat := 0x11A7

def parts? (n : Nat) : Option (Nat × Nat) :=
  let i := n - syllableBase
  if n < syllableBase ∨ 19 * 588 ≤ i then none
  else if i % 28 = 0 then some (leadBase + i / 588, vowelBase + i % 588 / 28)
  else some (n - i % 28, trailBase + i % 28)

def compose? (a b : Nat) : Option Nat :=
  if leadBase ≤ a ∧ a < leadBase + 19 ∧ vowelBase ≤ b ∧ b < vowelBase + 21 then
    some (syllableBase + (a - leadBase) * 588 + (b - vowelBase) * 28)
  else if syllableBase ≤ a ∧ a < syllableBase + 19 * 588 ∧ (a - syllableBase) % 28 = 0 ∧
      trailBase < b ∧ b < trailBase + 28 then
    some (a + (b - trailBase))
  else none

end Hangul

/-- The two characters that `c` is composed of. -/
def parts? (c : Char) : Option (Char × Char) :=
  let pair := (Hangul.parts? c.toNat).or
    ((compositions.find? (·.2.2 = c.toNat)).map fun r => (r.1, r.2.1))
  pair.map fun p => (.ofNat p.1, .ofNat p.2)

def compose? (a b : Char) : Option Char :=
  ((Hangul.compose? a.toNat b.toNat).or
    ((compositions.find? fun r => r.1 = a.toNat && r.2.1 = b.toNat).map (·.2.2))).map .ofNat

/-- Replaces each character by the two that it is composed of. -/
def expand (s : List Char) : List Char :=
  s.flatMap fun c => match parts? c with
    | some (a, b) => [a, b]
    | none => [c]

/-- Nothing is composed of more than four characters, so three rounds leave nothing to expand. -/
def expanded (s : List Char) : List Char := expand (expand (expand s))

/-- Puts a mark before the marks of its class or a higher one. -/
def placeMark (c : Char) : List Char → List Char
  | [] => [c]
  | d :: r =>
    if markClass c = 0 ∨ markClass d = 0 ∨ markClass c ≤ markClass d then c :: d :: r
    else d :: placeMark c r

/-- The marks behind each letter in the order of their classes. -/
def orderMarks (s : List Char) : List Char := s.foldr placeMark []

/-- Composes the last letter with what follows; `marks` are those, the last one first, that stand
behind the letter and have not become part of it. A mark reaches the letter unless one of its own or
a higher class stands between them. -/
def composeFrom (letter : Char) (marks : List Char) : List Char → List Char
  | [] => letter :: marks.reverse
  | c :: r =>
    let reaches := match marks with
      | [] => true
      | m :: _ => markClass m < markClass c
    match if reaches then compose? letter c else none with
    | some whole => composeFrom whole marks r
    | none =>
      if markClass c = 0 then letter :: marks.reverse ++ composeFrom c [] r
      else composeFrom letter (c :: marks) r

def composed (s : List Char) : List Char :=
  match orderMarks (expanded s) with
  | [] => []
  | c :: r => composeFrom c [] r

end RecipeBook.Text
