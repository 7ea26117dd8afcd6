import RecipeBook.Amount
import RecipeBook.Proofs.Number.Doubles

/-!
# The amounts that are shown

An amount is shown as a fraction, a whole number, or a whole number with a fraction behind it
(`IsShown`). One double is an exception (`isShown_format_iff`). Between one and 1.85 what is above one is
shown as a fraction if it is at most 0.85 (`small_mem_fractions`), and subtracting one is exact there; but
1.85 is the double above the real number and 0.85 the one below, so that of 1.85 more is left than 0.85
(`sub_one_le_iff`).
-/

namespace RecipeBook.Amount

open Double (Is IsFull)

/-- The fractions that are shown. -/
def fractions : List String := ["¼", "⅓", "½", "⅔", "¾"]

/-- A fraction, a whole number, or a whole number and a fraction. -/
inductive IsShown : String → Prop
  | fraction {f : String} (h : f ∈ fractions) : IsShown f
  | whole (n : Int) : IsShown (toString n)
  | mixed (n : Int) (f : String) (h : f ∈ fractions) : IsShown (toString n ++ " " ++ f)

variable {x : Float}

/-! ### Subtracting one -/

theorem is_one : Is 1.0 (2 ^ 52) (-52) := ⟨by decide, rfl⟩

/-- The mantissa of 1.85. -/
def limitMantissa : Nat := 0x1d99999999999a

theorem is_limit : Is 1.85 limitMantissa (-52) := ⟨by decide, rfl⟩

theorem is_inner_limit : Is 0.85 0x1b333333333333 (-53) := ⟨by decide, rfl⟩

/-- Amounts above one and up to 1.85 have the exponent of one. -/
theorem exists_mantissa (hlow : ¬ x ≤ 1.0) (hhigh : x ≤ 1.85) :
    ∃ m, Is x m (-52) ∧ 2 ^ 52 < m ∧ m ≤ limitMantissa := by
  obtain ⟨m, e, hx⟩ := Double.exists_is_of_le is_one is_limit hlow hhigh
  rw [Double.le_iff hx is_one] at hlow
  rw [Double.le_iff hx is_limit] at hhigh
  obtain rfl : e = -52 := by omega
  exact ⟨m, hx, by omega, by omega⟩

/-- What is left above one is at most 0.85, except for the greatest of these amounts. -/
theorem sub_one_le_iff (hlow : ¬ x ≤ 1.0) (hhigh : x ≤ 1.85) : x - 1.0 ≤ 0.85 ↔ x ≠ 1.85 := by
  obtain ⟨m, hx, hm, hle⟩ := exists_mantissa hlow hhigh
  have heq : x = 1.85 ↔ m = limitMantissa := Double.eq_iff hx is_limit
  have hlimit : limitMantissa = 0x1d99999999999a := rfl
  obtain ⟨k, hk, hfull⟩ : ∃ k, k ≤ 52 ∧ IsFull ((m - 2 ^ 52) * 2 ^ k) :=
    Double.exists_isFull (by omega) (by omega)
  rw [Double.le_iff (Double.sub_is hx is_one hfull (by omega) (by omega)) is_inner_limit, Ne, heq]
  have hlower := hfull.1
  have hupper := hfull.2
  -- the mantissa of the difference loses a bit at least, and just one if it is a half or more
  obtain rfl | rfl | htwo : k = 0 ∨ k = 1 ∨ 2 ≤ k := by omega
  · omega
  · omega
  · have hpow : 4 ≤ 2 ^ k := Nat.pow_le_pow_right Nat.two_pos htwo
    have hfour : (m - 2 ^ 52) * 4 ≤ (m - 2 ^ 52) * 2 ^ k := Nat.mul_le_mul_left _ hpow
    omega

/-! ### What is shown -/

theorem small_mem_or (x : Float) : small x ∈ fractions ∨ ¬ x ≤ 0.85 ∧ small x = "1" := by
  rw [small]
  split
  · exact .inl (by decide)
  split
  · exact .inl (by decide)
  split
  · exact .inl (by decide)
  split
  · exact .inl (by decide)
  split
  · exact .inl (by decide)
  · next h => exact .inr ⟨h, rfl⟩

theorem small_mem_fractions (h : x ≤ 0.85) : small x ∈ fractions :=
  (small_mem_or x).resolve_right fun hnot => hnot.1 h

theorem isShown_large (x : Float) : IsShown (large x) := by
  rw [large]
  split
  · exact .whole 2
  split
  · exact .mixed 2 "¼" (by decide)
  split
  · exact .mixed 2 "½" (by decide)
  split
  · exact .mixed 2 "¾" (by decide)
  split
  · exact .whole 3
  split
  · exact .mixed 3 "½" (by decide)
  split
  · exact .whole 4
  split
  · exact .whole 5
  · exact .whole _

/-! ### What is not shown -/

theorem not_mem_toString {n : Int} : ' ' ∉ (toString n).toList := by
  have hnat : ∀ m : Nat, ' ' ∉ m.repr.toList := fun m hm => by
    rw [Nat.repr, String.toList_ofList] at hm
    exact absurd (Nat.isDigit_of_mem_toDigits (by decide) (by decide) hm) (by decide)
  cases n with
  | ofNat m => exact hnat m
  | negSucc m =>
    have hneg : toString (Int.negSucc m) = "-" ++ (m + 1).repr := rfl
    rw [hneg, String.toList_append]
    simpa using hnat (m + 1)

/-- A number behind a blank is not shown. -/
theorem not_isShown_one_one : ¬ IsShown "1 1" := by
  generalize htext : "1 1" = text
  intro h
  cases h with
  | fraction h =>
    subst htext
    revert h
    decide
  | whole n =>
    have hblank : ' ' ∈ "1 1".toList := by decide
    exact not_mem_toString (htext ▸ hblank)
  | mixed n f h =>
    have hends : ∀ f ∈ fractions, f.toList.getLast?.isSome ∧ f.toList.getLast? ≠ some '1' := by
      decide
    have hone : (toString n ++ " " ++ f).toList.getLast? = some '1' := htext ▸ rfl
    rw [String.toList_append, List.getLast?_append, Option.or_of_isSome (hends f h).1] at hone
    exact (hends f h).2 hone

/-! ### Every amount -/

theorem format_limit : format 1.85 = "1 1" := by decide +kernel

theorem format_mem_iff (hlow : ¬ x ≤ 1.0) (hhigh : x ≤ 1.85) :
    (∃ f ∈ fractions, format x = "1 " ++ f) ↔ x ≠ 1.85 := by
  constructor
  · rintro ⟨f, hf, hformat⟩ rfl
    rw [format_limit] at hformat
    revert f
    decide
  · intro hne
    refine ⟨_, small_mem_fractions ((sub_one_le_iff hlow hhigh).2 hne), ?_⟩
    rw [format, if_neg hlow, if_pos hhigh]

/-- All amounts but one are shown as a fraction, a whole number or both. -/
theorem isShown_format_iff (x : Float) : IsShown (format x) ↔ x ≠ 1.85 := by
  constructor
  · rintro h rfl
    rw [format_limit] at h
    exact not_isShown_one_one h
  · intro hne
    by_cases hlow : x ≤ 1.0
    · rw [format, if_pos hlow]
      rcases small_mem_or x with hmem | ⟨-, hone⟩
      · exact .fraction hmem
      · exact hone ▸ .whole 1
    · by_cases hhigh : x ≤ 1.85
      · obtain ⟨f, hf, hformat⟩ := (format_mem_iff hlow hhigh).2 hne
        exact hformat ▸ .mixed 1 f hf
      · rw [format, if_neg hlow, if_neg hhigh]
        exact isShown_large x

/-- Amounts above one and up to 1.85 are shown as one with a fraction behind it, but for 1.85 itself, and
this is the only amount that is shown neither as a fraction nor as a whole number nor as both. -/
theorem format_shows (x : Float) :
    (1.0 < x → x ≤ 1.85 → ((∃ f ∈ fractions, format x = "1 " ++ f) ↔ x ≠ 1.85)) ∧
      (IsShown (format x) ↔ x ≠ 1.85) :=
  ⟨fun hlow hhigh => format_mem_iff (Double.not_le_of_lt is_one hlow) hhigh, isShown_format_iff x⟩

theorem format_shows_half : (1.0 : Float) < 1.5 ∧ (1.5 : Float) ≤ 1.85 ∧
    (∃ f ∈ fractions, format 1.5 = "1 " ++ f) ∧ IsShown (format 1.5) ∧ format 1.5 = "1 ½" := by
  have hlow : (1.0 : Float) < 1.5 := by decide +kernel
  have hhigh : (1.5 : Float) ≤ 1.85 := by decide +kernel
  have hne : (1.5 : Float) ≠ 1.85 := by decide +kernel
  obtain ⟨hmixed, hshown⟩ := format_shows 1.5
  exact ⟨hlow, hhigh, (hmixed hlow hhigh).2 hne, hshown.2 hne, by decide +kernel⟩

/-- What is above one in 1.85 is more than 0.85, and so it is shown as another one. -/
theorem format_shows_one_twice : (1.0 : Float) < 1.85 ∧ (1.85 : Float) ≤ 1.85 ∧
    (¬ ∃ f ∈ fractions, format 1.85 = "1 " ++ f) ∧ ¬ IsShown (format 1.85) :=
  ⟨by decide +kernel, by decide +kernel, by decide +kernel, format_limit ▸ not_isShown_one_one⟩

end RecipeBook.Amount
