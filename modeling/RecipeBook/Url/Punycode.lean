import RecipeBook.Text.Line

/-!
# Punycode

Punycode writes a text in letters, digits and hyphens: the ASCII characters first, then, from the
smallest to the largest, where the other characters go. Each is a difference to the one before it,
written in base 36 with a variable number of digits.
-/

namespace RecipeBook.Url.Punycode

def digitChar (d : Nat) : Char := if d < 26 then .ofNat (97 + d) else .ofNat (22 + d)

def digitValue? (c : Char) : Option Nat :=
  if c.isLower then some (c.toNat - 97)
  else if c.isUpper then some (c.toNat - 65)
  else if c.isDigit then some (c.toNat - 22)
  else none

/-- The least digit that ends a number at position `k`. -/
def threshold (k bias : Nat) : Nat := if k ≤ bias then 1 else min (k - bias) 26

theorem threshold_le (k bias : Nat) : threshold k bias ≤ 26 := by
  unfold threshold; split <;> omega

theorem threshold_pos (k bias : Nat) : 0 < threshold k bias := by
  unfold threshold; split <;> omega

def adaptFrom (delta k : Nat) : Nat :=
  if 455 < delta then adaptFrom (delta / 35) (k + 36) else k + 36 * delta / (delta + 38)

/-- The bias for the number after a difference. -/
def adapt (delta count : Nat) (first : Bool) : Nat :=
  let delta := if first then delta / 700 else delta / 2
  adaptFrom (delta + delta / count) 0

/-- The digits of a difference from position `k` on. -/
def digits (bias k q : Nat) : List Char :=
  let t := threshold k bias
  if q < t then [digitChar q]
  else digitChar (t + (q - t) % (36 - t)) :: digits bias (k + 36) ((q - t) / (36 - t))
termination_by q
decreasing_by
  have := threshold_pos k bias
  have := threshold_le k bias
  exact Nat.lt_of_le_of_lt (Nat.div_le_self _ _) (by omega)

structure Coder where
  delta : Nat
  bias : Nat
  /-- The number of characters that are written. -/
  written : Nat
  first : Bool
  output : List Char

/-- Passes over one character while those with code `n` are written. -/
def Coder.pass (n : Nat) (s : Coder) (c : Char) : Coder :=
  if c.toNat < n then { s with delta := s.delta + 1 }
  else if c.toNat = n then
    { delta := 0, bias := adapt s.delta (s.written + 1) s.first, written := s.written + 1,
      first := false, output := s.output ++ digits s.bias 36 s.delta }
  else s

/-- Writes the characters with the next code that is at least `n`. -/
def Coder.round (input : List Char) (s : Coder) (n code : Nat) : Coder :=
  let s := { s with delta := s.delta + (code - n) * (s.written + 1) }
  let s := input.foldl (Coder.pass code) s
  { s with delta := s.delta + 1 }

def encode (input : List Char) : List Char :=
  let ascii := input.filter (·.toNat < 128)
  let codes := ((input.map Char.toNat).filter (128 ≤ ·)).eraseDups.mergeSort
  let start : Coder := ⟨0, 72, ascii.length, true, if ascii = [] then [] else ascii ++ ['-']⟩
  (codes.foldl (fun (s, n) code => (Coder.round input s n code, code + 1)) (start, 128)).1.output

/-- Reads a difference: its value and the rest. -/
def readNumber (bias k weight value : Nat) : List Char → Option (Nat × List Char)
  | [] => none
  | c :: r => do
    let d ← digitValue? c
    let t := threshold k bias
    let value := value + d * weight
    if d < t then return (value, r) else readNumber bias (k + 36) (weight * (36 - t)) value r

/-- Puts the characters that the digits tell into the output. -/
def decodeFrom (n i bias : Nat) (output : List Char) (s : List Char) : Nat → Option (List Char)
  | 0 => none
  | fuel + 1 =>
    if s = [] then some output
    else do
      let (delta, rest) ← readNumber bias 36 1 0 s
      let count := output.length + 1
      let position := i + delta
      let code := n + position / count
      if !code.isValidChar then none
      decodeFrom code (position % count + 1) (adapt delta count (i = 0))
        (output.insertIdx (position % count) (.ofNat code)) rest fuel

/-- The text behind its code. The ASCII characters stand before the last hyphen; where there are
none, there is no hyphen. -/
def decode (s : List Char) : Option (List Char) :=
  match Text.splitAtLast '-' s with
  | some ([], _) => none
  | some (head, tail) =>
    if head.all (·.toNat < 128) then decodeFrom 128 0 72 head tail (tail.length + 1) else none
  | none => decodeFrom 128 0 72 [] s (s.length + 1)

end RecipeBook.Url.Punycode
