/-!
# Ranges of code points

The classes of characters that a standard lists are kept as closed ranges of code points.
-/

namespace RecipeBook.Text

/-- The code point `n` lies in one of the closed ranges. -/
def covers (ranges : List (Nat × Nat)) (n : Nat) : Bool :=
  ranges.any fun r => r.1 ≤ n && n ≤ r.2

theorem covers_iff {ranges : List (Nat × Nat)} {n : Nat} :
    covers ranges n ↔ ∃ r ∈ ranges, r.1 ≤ n ∧ n ≤ r.2 := by
  simp [covers]

end RecipeBook.Text
