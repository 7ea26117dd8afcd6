import RecipeBook.Amount
import RecipeBook.Proofs.Number.Doubles

/-!
# Amounts rounded to three digits

`roundToThree n` is the multiple of `unitOf n`, one in the third digit of `n`, that is nearest to `n`
(`isNearest_roundToThree`). Rounding to a unit does not cross a multiple of it (`le_nearest_of_dvd`,
`nearest_le_of_dvd`), and the numbers where the unit changes are powers of ten, which are multiples of
the units on both sides. So it is monotone across the change, and it changes nothing the second time
even if a carry gives the number one more digit.
-/

namespace RecipeBook.Amount

open Double (Is)
open Number (tenPow)

/-- `r` is the multiple of the unit that is nearest to `n`, and the even one where two are as near. -/
def IsNearest (unit n r : Int) : Prop :=
  ∃ q, r = q * unit ∧ ∀ k, k ≠ q → |n - r| < |n - k * unit| ∨ |n - r| = |n - k * unit| ∧ Even q

/-- The multiple of the unit to which `roundToThree` rounds, counted in units. -/
def halfEven (unit n : Int) : Int :=
  if n.tmod unit * 2 < unit then n.tdiv unit
  else if n.tmod unit * 2 = unit then n.tdiv unit + (n.tdiv unit).tmod 2
  else n.tdiv unit + 1

/-- The number, if it has no more than 64 bits. -/
def inRange? (n : Int) : Option Int :=
  if Binary.minInt ≤ n ∧ n ≤ Binary.maxInt then some n else none

/-- `halfEven` with numbers of 64 bits only: there is no result if an operation leaves them. -/
def halfEvenInRange? (unit n : Int) : Option Int := do
  let quotient ← inRange? (n.tdiv unit)
  let remainder ← inRange? (n.tmod unit)
  let doubled ← inRange? (remainder * 2)
  if doubled < unit then return quotient
  else if doubled = unit then do
    let odd ← inRange? (quotient.tmod 2)
    inRange? (quotient + odd)
  else inRange? (quotient + 1)

/-- `roundToThree` with numbers of 64 bits only. -/
def roundInRange? (n : Int) : Option Int :=
  let size := (Nat.toDigits 10 n.natAbs).length
  if size ≤ 3 then some n
  else do
    let unit ← inRange? (Int.ofNat (tenPow (size - 3)))
    let rounded ← halfEvenInRange? unit n
    inRange? (rounded * unit)

/-- One in the third digit of `n`, or one if it has fewer. -/
def unitOf (n : Int) : Int := 10 ^ ((Nat.toDigits 10 n.natAbs).length - 3)

variable {unit m n r t : Int} {d : Nat} {x : Float}

/-! ### Rounding to a unit -/

/-- A number is rounded down or up, and where both are as near to the even side. -/
theorem halfEven_cases (hunit : 0 < unit) (hn : 0 ≤ n) : ∃ q s, n = q * unit + s ∧ 0 ≤ q ∧ 0 ≤ s ∧
    s < unit ∧ (halfEven unit n = q ∧ s * 2 ≤ unit ∧ (s * 2 = unit → Even q) ∨
      halfEven unit n = q + 1 ∧ unit ≤ s * 2 ∧ (s * 2 = unit → Even (q + 1))) := by
  have hq : 0 ≤ n / unit := Int.ediv_nonneg hn hunit.le
  refine ⟨n / unit, n % unit, ?_, hq, Int.emod_nonneg n hunit.ne', Int.emod_lt_of_pos n hunit, ?_⟩
  · rw [Int.mul_comm, Int.mul_ediv_add_emod]
  · rw [halfEven, Int.tdiv_eq_ediv_of_nonneg hn, Int.tmod_eq_emod_of_nonneg hn,
      Int.tmod_eq_emod_of_nonneg hq, Int.even_iff, Int.even_iff]
    split_ifs with hlt heq
    · left; omega
    · omega
    · right; omega

theorem two_mul_abs_sub_le (hunit : 0 < unit) (hn : 0 ≤ n) :
    2 * |n - halfEven unit n * unit| ≤ unit := by
  obtain ⟨q, s, hqs, hq, hs, hlt, ⟨hr, hhalf, -⟩ | ⟨hr, hhalf, -⟩⟩ := halfEven_cases hunit hn
  · rw [hr, Int.abs_eq_natAbs]
    omega
  · rw [hr, Int.abs_eq_natAbs, Int.add_mul]
    omega

theorem isNearest_halfEven (hunit : 0 < unit) (hn : 0 ≤ n) :
    IsNearest unit n (halfEven unit n * unit) := by
  obtain ⟨q, s, hqs, hq, hs, hlt, hround⟩ := halfEven_cases hunit hn
  have hnext : (q + 1) * unit = q * unit + unit := by rw [Int.add_mul, Int.one_mul]
  refine ⟨_, rfl, fun k hk => ?_⟩
  -- a multiple that is neither the one below nor the one above is a unit away at least
  have hfar : k = q ∨ k = q + 1 ∨ k * unit ≤ q * unit - unit ∨ q * unit + 2 * unit ≤ k * unit := by
    obtain h | rfl | rfl | h : k ≤ q - 1 ∨ k = q ∨ k = q + 1 ∨ q + 2 ≤ k := by omega
    · have := Int.mul_le_mul_of_nonneg_right h hunit.le
      rw [Int.sub_mul] at this
      omega
    · exact .inl rfl
    · exact .inr (.inl rfl)
    · have := Int.mul_le_mul_of_nonneg_right h hunit.le
      rw [Int.add_mul] at this
      omega
  rw [Int.abs_eq_natAbs, Int.abs_eq_natAbs]
  rcases hround with ⟨hr, hhalf, htie⟩ | ⟨hr, hhalf, htie⟩
  · rw [hr] at hk ⊢
    rcases hfar with rfl | rfl | hfar | hfar
    · exact absurd rfl hk
    · rcases hhalf.lt_or_eq with hless | heq
      · left; omega
      · exact .inr ⟨by omega, htie heq⟩
    · left; omega
    · left; omega
  · rw [hr] at hk ⊢
    rcases hfar with rfl | rfl | hfar | hfar
    · rcases hhalf.lt_or_eq with hless | heq
      · left; omega
      · exact .inr ⟨by omega, htie heq.symm⟩
    · exact absurd rfl hk
    · left; omega
    · left; omega

/-- Rounding up stops at the next multiple. -/
theorem halfEven_mul_le_of_dvd (hunit : 0 < unit) (hn : 0 ≤ n) (hdvd : unit ∣ t) (h : n ≤ t) :
    halfEven unit n * unit ≤ t := by
  obtain ⟨k, rfl⟩ := hdvd
  obtain ⟨q, s, hqs, hq, hs, hlt, hround⟩ := halfEven_cases hunit hn
  rw [Int.mul_comm unit k] at h ⊢
  refine Int.mul_le_mul_of_nonneg_right ?_ hunit.le
  by_contra hlow
  have hle : k * unit ≤ q * unit := Int.mul_le_mul_of_nonneg_right (by omega) hunit.le
  obtain rfl : s = 0 := by omega
  have hqk : q * unit ≤ k * unit := by omega
  have := Int.le_of_mul_le_mul_right hqk hunit
  omega

/-- Rounding down stops at the multiple before. -/
theorem le_halfEven_mul_of_dvd (hunit : 0 < unit) (hn : 0 ≤ n) (hdvd : unit ∣ t) (h : t ≤ n) :
    t ≤ halfEven unit n * unit := by
  obtain ⟨k, rfl⟩ := hdvd
  obtain ⟨q, s, hqs, hq, hs, hlt, hround⟩ := halfEven_cases hunit hn
  rw [Int.mul_comm unit k] at h ⊢
  refine Int.mul_le_mul_of_nonneg_right ?_ hunit.le
  have hkq : k * unit < (q + 1) * unit := by
    rw [Int.add_mul]
    omega
  have := Int.lt_of_mul_lt_mul_right hkq hunit.le
  omega

theorem halfEven_mul_of_dvd (hunit : 0 < unit) (hn : 0 ≤ n) (hdvd : unit ∣ n) :
    halfEven unit n * unit = n :=
  le_antisymm (halfEven_mul_le_of_dvd hunit hn hdvd le_rfl)
    (le_halfEven_mul_of_dvd hunit hn hdvd le_rfl)

theorem halfEven_mono (hunit : 0 < unit) (hm : 0 ≤ m) (h : m ≤ n) :
    halfEven unit m ≤ halfEven unit n := by
  obtain ⟨q, s, rfl, hq, hs, hlt, hround⟩ := halfEven_cases hunit hm
  obtain ⟨q', s', rfl, hq', hs', hlt', hround'⟩ := halfEven_cases hunit (hm.trans h)
  rcases lt_trichotomy q q' with hless | rfl | hmore
  · omega
  · have : Even q → ¬ Even (q + 1) := fun h => by rw [Int.not_even_iff_odd]; exact h.add_one
    rcases hround with ⟨hr, hhalf, htie⟩ | ⟨hr, hhalf, htie⟩ <;>
      rcases hround' with ⟨hr', hhalf', htie'⟩ | ⟨hr', hhalf', htie'⟩
    · omega
    · omega
    · -- both are a tie, and the same quotient is rounded to one side only
      have heq : s * 2 = unit ∧ s' * 2 = unit := by omega
      exact absurd (htie heq.1) (this (htie' heq.2))
    · omega
  · have : (q' + 1) * unit ≤ q * unit := Int.mul_le_mul_of_nonneg_right hmore hunit.le
    rw [Int.add_mul] at this
    omega

/-! ### The unit of a number -/

theorem unitOf_pos (n : Int) : 0 < unitOf n := Int.pow_pos (by decide)

theorem ofNat_tenPow (k : Nat) : Int.ofNat (tenPow k) = 10 ^ k := by
  rw [tenPow, Int.ofNat_eq_natCast]
  exact Int.natCast_pow 10 k

theorem length_digits_le_iff (hd : 0 < d) (hn : 0 ≤ n) :
    (Nat.toDigits 10 n.natAbs).length ≤ d ↔ n < 10 ^ d := by
  obtain ⟨k, rfl⟩ := Int.eq_ofNat_of_zero_le hn
  rw [Nat.length_toDigits_le_iff (by decide) hd, Int.natAbs_natCast]
  exact_mod_cast Iff.rfl

/-- Numbers below a power of ten have a unit that divides it. -/
theorem unitOf_dvd (hd : 3 ≤ d) (hn : 0 ≤ n) (h : n < 10 ^ d) : unitOf n ∣ 10 ^ (d - 3) := by
  have := (length_digits_le_iff (by omega) hn).2 h
  exact pow_dvd_pow 10 (by omega)

theorem unitOf_eq (hd : 3 ≤ d) (hlow : 10 ^ (d - 1) ≤ n) (hhigh : n < 10 ^ d) :
    unitOf n = 10 ^ (d - 3) := by
  have hn : 0 ≤ n := le_trans (Int.pow_nonneg (by decide)) hlow
  have hle := (length_digits_le_iff (by omega) hn).2 hhigh
  have hlt := mt (length_digits_le_iff (d := d - 1) (by omega) hn).1 (Int.not_lt.2 hlow)
  rw [unitOf]
  congr 1
  omega

theorem exists_digits (hn : 1000 ≤ n) : ∃ d, 3 ≤ d ∧ 10 ^ (d - 1) ≤ n ∧ n < 10 ^ d := by
  have hn' : 0 ≤ n := by omega
  have hthree := mt (length_digits_le_iff (d := 3) (by omega) hn').1 (by omega)
  refine ⟨(Nat.toDigits 10 n.natAbs).length, by omega, ?_, ?_⟩
  · have := mt (length_digits_le_iff (d := (Nat.toDigits 10 n.natAbs).length - 1) (by omega) hn').2
    omega
  · exact (length_digits_le_iff (by omega) hn').1 le_rfl

theorem roundToThree_eq (hn : 0 ≤ n) : roundToThree n = halfEven (unitOf n) n * unitOf n := by
  rw [roundToThree]
  split
  · next h =>
    have hone : unitOf n = 1 := by
      rw [unitOf, Nat.sub_eq_zero_of_le h, pow_zero]
    rw [hone]
    exact (halfEven_mul_of_dvd Int.one_pos hn (one_dvd n)).symm
  · simp only [ofNat_tenPow]
    rfl

/-! ### Three digits -/

/-- A number whose unit divides it is not changed. -/
theorem roundToThree_of_dvd (hn : 0 ≤ n) (h : unitOf n ∣ n) : roundToThree n = n := by
  rw [roundToThree_eq hn, halfEven_mul_of_dvd (unitOf_pos n) hn h]

theorem roundToThree_of_lt (hn : 0 ≤ n) (h : n < 1000) : roundToThree n = n := by
  refine roundToThree_of_dvd hn ((unitOf_dvd (d := 3) le_rfl hn h).trans ?_)
  rw [Nat.sub_self, pow_zero]
  exact one_dvd n

/-- Rounding does not cross a power of ten with three digits or more. -/
theorem roundToThree_le_pow (hd : 3 ≤ d) (hn : 0 ≤ n) (h : n < 10 ^ d) :
    roundToThree n ≤ 10 ^ d := by
  rw [roundToThree_eq hn]
  have hdvd : (10 : Int) ^ (d - 3) ∣ 10 ^ d := pow_dvd_pow 10 (Nat.sub_le d 3)
  exact halfEven_mul_le_of_dvd (unitOf_pos n) hn ((unitOf_dvd hd hn h).trans hdvd) h.le

theorem pow_le_roundToThree (hd : 3 ≤ d) (hlow : 10 ^ (d - 1) ≤ n) (hhigh : n < 10 ^ d) :
    10 ^ (d - 1) ≤ roundToThree n := by
  have hn : 0 ≤ n := le_trans (Int.pow_nonneg (by decide)) hlow
  rw [roundToThree_eq hn]
  have hdvd : (10 : Int) ^ (d - 3) ∣ 10 ^ (d - 1) := pow_dvd_pow 10 (by omega)
  exact le_halfEven_mul_of_dvd (unitOf_pos n) hn ((unitOf_dvd hd hn hhigh).trans hdvd) hlow

theorem isNearest_roundToThree (hd : 3 ≤ d) (hlow : 10 ^ (d - 1) ≤ n) (hhigh : n < 10 ^ d) :
    IsNearest (10 ^ (d - 3)) n (roundToThree n) ∧ 2 * |n - roundToThree n| ≤ 10 ^ (d - 3) := by
  have hn : 0 ≤ n := le_trans (Int.pow_nonneg (by decide)) hlow
  rw [roundToThree_eq hn, ← unitOf_eq hd hlow hhigh]
  exact ⟨isNearest_halfEven (unitOf_pos n) hn, two_mul_abs_sub_le (unitOf_pos n) hn⟩

theorem roundToThree_mono (hm : 0 ≤ m) (h : m ≤ n) : roundToThree m ≤ roundToThree n := by
  have hn : 0 ≤ n := hm.trans h
  by_cases hless : n < 1000
  · rwa [roundToThree_of_lt hn hless, roundToThree_of_lt hm (by omega)]
  obtain ⟨d, hd, hlow, hhigh⟩ := exists_digits (Int.not_lt.1 hless)
  by_cases hm' : 10 ^ (d - 1) ≤ m
  · -- the numbers have one unit
    have hunit : unitOf m = unitOf n := by
      rw [unitOf_eq hd hlow hhigh, unitOf_eq hd hm' (by omega)]
    rw [roundToThree_eq hn, roundToThree_eq hm, hunit]
    exact Int.mul_le_mul_of_nonneg_right (halfEven_mono (unitOf_pos n) hm h) (unitOf_pos n).le
  · -- a power of ten is between them
    have hd' : 3 ≤ d - 1 := by
      by_contra hsmall
      obtain rfl : d = 3 := by omega
      omega
    calc roundToThree m ≤ 10 ^ (d - 1) := roundToThree_le_pow hd' hm (by omega)
      _ ≤ roundToThree n := pow_le_roundToThree hd hlow hhigh

theorem roundToThree_roundToThree (hn : 0 ≤ n) :
    roundToThree (roundToThree n) = roundToThree n := by
  by_cases hless : n < 1000
  · rw [roundToThree_of_lt hn hless, roundToThree_of_lt hn hless]
  obtain ⟨d, hd, hlow, hhigh⟩ := exists_digits (Int.not_lt.1 hless)
  have hlow' := pow_le_roundToThree hd hlow hhigh
  have hn' : 0 ≤ roundToThree n := le_trans (Int.pow_nonneg (by decide)) hlow'
  refine roundToThree_of_dvd hn' ?_
  rcases (roundToThree_le_pow hd hn hhigh).lt_or_eq with hlt | heq
  · obtain ⟨⟨q, hq, -⟩, -⟩ := isNearest_roundToThree hd hlow hhigh
    rw [unitOf_eq hd hlow' hlt, hq]
    exact Int.dvd_mul_left q _
  · -- the carry has made it a power of ten
    have hnext : unitOf (roundToThree n) = 10 ^ (d + 1 - 3) := by
      rw [heq]
      exact unitOf_eq (by omega) le_rfl (pow_lt_pow_right₀ (by decide) (Nat.lt_succ_self d))
    rw [hnext, heq]
    exact pow_dvd_pow 10 (by omega)

/-! ### Numbers of 64 bits -/

theorem inRange?_of_nonneg (h : 0 ≤ n) (hmax : n ≤ Binary.maxInt) : inRange? n = some n :=
  if_pos ⟨le_trans (by decide) h, hmax⟩

/-- The largest number is rounded down. -/
theorem roundToThree_le_maxInt (hn : 0 ≤ n) (h : n ≤ Binary.maxInt) :
    roundToThree n ≤ Binary.maxInt := by
  have hmax : roundToThree Binary.maxInt = 9220000000000000000 := by decide +kernel
  calc roundToThree n ≤ roundToThree Binary.maxInt := roundToThree_mono hn h
    _ ≤ Binary.maxInt := by rw [hmax]; decide

theorem unitOf_le (hn : 0 ≤ n) (h : n ≤ Binary.maxInt) : unitOf n ≤ 10 ^ 16 := by
  have hlt : n < 10 ^ 19 := lt_of_le_of_lt h (by decide)
  exact Int.le_of_dvd (by decide) (unitOf_dvd (d := 19) (by decide) hn hlt)

theorem halfEvenInRange?_eq (hunit : 0 < unit) (hsmall : unit ≤ 10 ^ 16) (hn : 0 ≤ n)
    (h : n ≤ Binary.maxInt) (hround : halfEven unit n ≤ Binary.maxInt) :
    halfEvenInRange? unit n = some (halfEven unit n) := by
  have hmax : Binary.maxInt = 9223372036854775807 := by decide
  have hquotient : 0 ≤ n.tdiv unit ∧ n.tdiv unit ≤ n := by
    rw [Int.tdiv_eq_ediv_of_nonneg hn]
    exact ⟨Int.ediv_nonneg hn hunit.le, Int.ediv_le_self _ hn⟩
  have hremainder : 0 ≤ n.tmod unit ∧ n.tmod unit < unit :=
    ⟨Int.tmod_nonneg _ hn, Int.tmod_lt_of_pos n hunit⟩
  have hodd : 0 ≤ (n.tdiv unit).tmod 2 ∧ (n.tdiv unit).tmod 2 < 2 :=
    ⟨Int.tmod_nonneg _ hquotient.1, Int.tmod_lt_of_pos _ (by decide)⟩
  rw [halfEven] at hround ⊢
  rw [halfEvenInRange?, inRange?_of_nonneg hquotient.1 (by omega),
    inRange?_of_nonneg hremainder.1 (by omega)]
  show (inRange? (n.tmod unit * 2)).bind _ = _
  rw [inRange?_of_nonneg (by omega) (by omega)]
  show (if _ then _ else _) = _
  split_ifs at hround ⊢ with hlt heq
  · rfl
  · rw [inRange?_of_nonneg hodd.1 (by omega)]
    exact inRange?_of_nonneg (by omega) hround
  · exact inRange?_of_nonneg (by omega) hround

/-- No operation on the way leaves the numbers of 64 bits. -/
theorem roundInRange?_eq (hn : 0 ≤ n) (h : n ≤ Binary.maxInt) :
    roundInRange? n = some (roundToThree n) := by
  rw [roundInRange?]
  split
  · next hsize => rw [roundToThree, if_pos hsize]
  · have hunit := unitOf_pos n
    have htotal := roundToThree_le_maxInt hn h
    have hpos : 0 ≤ halfEven (unitOf n) n := by
      obtain ⟨q, s, -, hq, -, -, ⟨hr, -⟩ | ⟨hr, -⟩⟩ := halfEven_cases hunit hn <;> omega
    -- the rounded quotient is no more than what it is multiplied to
    have hround : halfEven (unitOf n) n ≤ roundToThree n := by
      rw [roundToThree_eq hn]
      exact le_mul_of_one_le_right hpos hunit
    rw [ofNat_tenPow, ← unitOf, inRange?_of_nonneg hunit.le ((unitOf_le hn h).trans (by decide))]
    show (halfEvenInRange? (unitOf n) n).bind _ = _
    rw [halfEvenInRange?_eq hunit (unitOf_le hn h) hn h (hround.trans htotal), roundToThree_eq hn]
    exact inRange?_of_nonneg (Int.mul_nonneg hpos hunit.le) (roundToThree_eq hn ▸ htotal)

theorem is_five : Is 5.0 (5 * 2 ^ 50) (-50) := ⟨by decide, rfl⟩

theorem clamp_mem {n : Int} (hn : 0 ≤ n) : 0 ≤ Binary.clamp n ∧ Binary.clamp n ≤ Binary.maxInt := by
  have hmin : Binary.minInt ≤ 0 := by decide
  have hmax : 0 ≤ Binary.maxInt := by decide
  rw [Binary.clamp]
  omega

/-- The whole part of an amount above five, as a number of 64 bits. -/
theorem truncate_mem (h : ¬ x ≤ 5.0) :
    0 ≤ (Binary.ofFloat x).truncate ∧ (Binary.ofFloat x).truncate ≤ Binary.maxInt := by
  have hmax : 0 ≤ Binary.maxInt := by decide
  rcases Double.ofFloat_of_not_le is_five h with hx | hx | ⟨m, e, hx⟩
  · rw [hx]
    exact ⟨le_rfl, hmax⟩
  · rw [hx]
    exact ⟨hmax, le_rfl⟩
  · rw [hx]
    exact clamp_mem (Int.natCast_nonneg _)

/-! ### All amounts -/

/-- `r` is `n` rounded to three digits. -/
structure IsRounded (n r : Int) : Prop where
  eq_of_lt : n < 1000 → r = n
  /-- A number of `d` digits is rounded to one in its third digit. -/
  nearest : ∀ d : Nat, 3 ≤ d → 10 ^ (d - 1) ≤ n → n < 10 ^ d → IsNearest (10 ^ (d - 3)) n r
  half : ∀ d : Nat, 3 ≤ d → 10 ^ (d - 1) ≤ n → n < 10 ^ d → 2 * |n - r| ≤ 10 ^ (d - 3)

/-- The whole parts of amounts above five are numbers from zero to the largest of 64 bits. Those are
rounded to three digits without leaving the numbers of 64 bits, keeping their order, and not changed
when they are rounded again. -/
theorem roundToThree_rounds :
    (∀ x : Float, ¬ x ≤ 5.0 →
      0 ≤ (Binary.ofFloat x).truncate ∧ (Binary.ofFloat x).truncate ≤ Binary.maxInt) ∧
    ∀ n : Int, 0 ≤ n → n ≤ Binary.maxInt →
      roundInRange? n = some (roundToThree n) ∧ IsRounded n (roundToThree n) ∧
      roundToThree (roundToThree n) = roundToThree n ∧
      ∀ m, 0 ≤ m → m ≤ n → roundToThree m ≤ roundToThree n := by
  refine ⟨fun x => truncate_mem, fun n hn hmax => ⟨roundInRange?_eq hn hmax, ?_,
    roundToThree_roundToThree hn, fun m hm h => roundToThree_mono hm h⟩⟩
  exact {
    eq_of_lt := roundToThree_of_lt hn
    nearest := fun d hd hlow hhigh => (isNearest_roundToThree hd hlow hhigh).1
    half := fun d hd hlow hhigh => (isNearest_roundToThree hd hlow hhigh).2 }

/-- A tie is rounded up to a number with one digit more, and the largest number is rounded down. -/
theorem roundToThree_rounds_ties : (¬ (1e300 : Float) ≤ 5.0 ∧
      (Binary.ofFloat 1e300).truncate ≤ Binary.maxInt) ∧
    (0 ≤ (9995 : Int) ∧ (9995 : Int) ≤ Binary.maxInt ∧ roundInRange? 9995 = some 10000 ∧
      IsNearest 10 9995 10000 ∧ roundToThree 9985 ≤ 10000) ∧
    roundInRange? Binary.maxInt = some 9220000000000000000 := by
  obtain ⟨hamounts, hnumbers⟩ := roundToThree_rounds
  have hlarge : ¬ (1e300 : Float) ≤ 5.0 := by decide +kernel
  have hround : roundToThree 9995 = 10000 := by decide +kernel
  have hmax : roundToThree Binary.maxInt = 9220000000000000000 := by decide +kernel
  obtain ⟨hrange, hrounded, -, hmono⟩ := hnumbers 9995 (by decide) (by decide)
  have htop := (hnumbers Binary.maxInt (by decide) le_rfl).1
  rw [hround] at hrange hrounded hmono
  exact ⟨⟨hlarge, (hamounts 1e300 hlarge).2⟩, ⟨by decide, by decide, hrange,
    hrounded.nearest 4 (by decide) (by decide) (by decide), hmono 9985 (by decide) (by decide)⟩,
    hmax ▸ htop⟩

end RecipeBook.Amount
