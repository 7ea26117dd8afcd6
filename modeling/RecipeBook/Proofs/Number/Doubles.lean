import Mathlib
import RecipeBook.Number.Binary

/-!
# Doubles by mantissa and exponent

A positive double is a mantissa times a power of two (`Double.Is`). Such doubles are compared by their
exponents and then by their mantissas (`le_iff`), and no two of them have both the same (`eq_iff`).
Subtraction is exact where the exponents are the same: the difference of the mantissas is brought to
53 bits again (`sub_is`). As a binary fraction a double is taken apart in the same way (`ofFloat_eq`).
-/

namespace RecipeBook.Double

open Float.Model (Format UnpackedFloat totalExponent)
open Float.Model.UnpackedFloat
open Number (twoPow)

/-- The mantissa has 53 bits. -/
def IsFull (m : Nat) : Prop := 2 ^ 52 ≤ m ∧ m < 2 ^ 53

/-- The double is the positive number with the mantissa and the exponent. -/
def Is (x : Float) (m : Nat) (e : Int) : Prop :=
  ∃ h : 0 < m, x.toModel.unpack = .finite .positive m e h

variable {x y z : Float} {m n k : Nat} {e f : Int} {s : Sign}

/-! ### Order -/

theorem le_iff_unpack : x ≤ y ↔ x.toModel.unpack.le y.toModel.unpack = true := decide_eq_true_iff

theorem lt_iff_unpack : x < y ↔ x.toModel.unpack.lt y.toModel.unpack = true := decide_eq_true_iff

theorem le_iff (hx : Is x m e) (hy : Is y n f) : x ≤ y ↔ e < f ∨ e = f ∧ m ≤ n := by
  obtain ⟨_, hx⟩ := hx
  obtain ⟨_, hy⟩ := hy
  rw [le_iff_unpack, hx, hy, Float.Model.UnpackedFloat.le, Float.Model.UnpackedFloat.compare,
    Option.any_some, Ordering.isLE_then_iff_or, Int.compare_eq_lt, Int.compare_eq_eq,
    Nat.isLE_compare]

theorem not_le_of_lt (hy : Is y n f) (h : y < x) : ¬ x ≤ y := by
  obtain ⟨hn, hy⟩ := hy
  rw [lt_iff_unpack, hy] at h
  cases hx : x.toModel.unpack with
  | finite s m e hm =>
    cases s with
    | positive =>
      rw [hx] at h
      have hlt := Ordering.then_eq_lt.1 (Option.some.inj (beq_iff_eq.1 h))
      rw [Int.compare_eq_lt, Int.compare_eq_eq, Nat.compare_eq_lt] at hlt
      rw [le_iff ⟨hm, hx⟩ ⟨hn, hy⟩]
      omega
    | negative =>
      rw [hx] at h
      cases h
  | notANumber =>
    rw [hx] at h
    cases h
  | infinity s =>
    rw [le_iff_unpack, hx, hy]
    rw [hx] at h
    cases s with
    | positive => exact Bool.false_ne_true
    | negative => cases h
  | zero s =>
    rw [hx] at h
    cases s <;> cases h

/-- What is between two positive numbers is one. -/
theorem exists_is_of_le (hy : Is y n f) (hz : Is z k e) (hlow : ¬ x ≤ y) (hhigh : x ≤ z) :
    ∃ m e, Is x m e := by
  obtain ⟨_, hy⟩ := hy
  obtain ⟨_, hz⟩ := hz
  rw [le_iff_unpack, hy] at hlow
  rw [le_iff_unpack, hz] at hhigh
  cases hx : x.toModel.unpack with
  | finite s m e h =>
    rw [hx] at hlow
    cases s with
    | positive => exact ⟨m, e, h, hx⟩
    | negative => exact absurd rfl hlow
  | notANumber =>
    rw [hx] at hhigh
    cases hhigh
  | infinity s =>
    rw [hx] at hlow hhigh
    cases s with
    | positive => cases hhigh
    | negative => exact absurd rfl hlow
  | zero s =>
    rw [hx] at hlow
    cases s <;> exact absurd rfl hlow

/-! ### Bits -/

theorem log2_of_isFull (h : IsFull m) : m.log2 = 52 :=
  (Nat.log2_eq_iff (by have := h.1; omega)).2 h

theorem append_one_toNat (b : BitVec 52) : (1#1 ++ b).toNat = 2 ^ 52 + b.toNat := by
  rw [BitVec.toNat_append, ← Nat.shiftLeft_add_eq_or_of_lt b.isLt]
  rfl

theorem eq_of_unpack_eq (h : x.toModel.unpack = y.toModel.unpack) : x = y := by
  rw [← Float.toBits_inj, ← UInt64.toBitVec_inj]
  exact (unpack_inj_of_valid x.toModel.valid y.toModel.valid).1 h

/-- Mantissa and exponent tell a positive double. -/
theorem eq_iff (hx : Is x m e) (hy : Is y n e) : x = y ↔ m = n := by
  obtain ⟨_, hx⟩ := hx
  obtain ⟨_, hy⟩ := hy
  constructor
  · rintro rfl
    exact (finite.inj (hx.symm.trans hy)).2.1
  · rintro rfl
    exact eq_of_unpack_eq (hx.trans hy.symm)

/-- Mantissa and exponent come back out of the bits that they are put in. -/
theorem unpack_pack (hfull : IsFull m) (hlow : -1074 ≤ e) (hhigh : e ≤ 971) (hm : 0 < m) :
    unpack Format.binary64 (pack Format.binary64 (.finite .positive m e hm)) =
      .finite .positive m e hm := by
  obtain ⟨biased, hbiased⟩ : ∃ biased : Nat, e + 1075 = biased :=
    Int.eq_ofNat_of_zero_le (by omega)
  have hbias : (Format.binary64.exponentBias : Int) = 1023 := rfl
  have hexponent : (e + Format.binary64.exponentBias +
      Format.binary64.mantissaBitsWithoutImplicit).toNat = biased := by
    simp only [hbias]
    omega
  have hpack : pack Format.binary64 (.finite .positive m e hm) =
      packComponents Format.binary64 .positive (BitVec.ofNat _ biased) (BitVec.ofNat _ m) := by
    simp only [pack, hexponent]
    rw [if_neg (by simp; omega), if_pos (by rw [log2_of_isFull hfull]; rfl)]
  have hpart : (BitVec.ofNat 11 biased).toNat = biased := by
    rw [BitVec.toNat_ofNat, Nat.mod_eq_of_lt (by omega)]
  have hne : ∀ c : BitVec 11, c.toNat ≠ biased → BitVec.ofNat 11 biased ≠ c := by
    rintro c hc rfl
    exact hc hpart
  have hmantissa : (1#1 ++ BitVec.ofNat 52 m).toNat = m := by
    rw [append_one_toNat, BitVec.toNat_ofNat]
    have := hfull.1
    have := hfull.2
    omega
  rw [hpack]
  simp only [unpack, unpackMantissa_packComponents, unpackExponent_packComponents,
    unpackSign_packComponents, Sign.ofBitVec_toBitVec]
  rw [if_neg (hne (-1#11) (by simp; omega)), if_neg (hne 0#11 (by simp; omega))]
  congr 1
  rw [hpart, hbias]
  omega

/-! ### Rounding -/

theorem targetExponent_of_isFull (hfull : IsFull m) (hlow : -1074 ≤ e) :
    Format.binary64.targetExponent (totalExponent m e) = e := by
  have hbits : (Format.binary64.mantissaBits : Int) = 53 := rfl
  have hmin : Format.binary64.minExponent = -1074 := rfl
  rw [Format.targetExponent, totalExponent, log2_of_isFull hfull, hbits, hmin]
  omega

theorem shiftToTargetExponent_of_isFull (hfull : IsFull m) (hlow : -1074 ≤ e) :
    shiftToTargetExponent Format.binary64 m e .exact = (⟨m, false, false⟩, e) := by
  rw [shiftToTargetExponent, targetExponent_of_isFull hfull hlow, shiftToExponent, Int.sub_self]
  simp [ExtendedMantissa.ofMantissaAndAccuracy]
  rfl

/-- Nothing is rounded of a full mantissa. -/
theorem roundWithAccuracy_of_isFull (hfull : IsFull m) (hlow : -1074 ≤ e) (hm : 0 < m) :
    roundWithAccuracy Format.binary64 s m e .exact = .finite s m e hm := by
  have hrounded : (⟨m, false, false⟩ : ExtendedMantissa).roundedMantissa = m := rfl
  simp only [roundWithAccuracy, shiftToTargetExponent_of_isFull hfull hlow, hrounded]
  exact dif_neg (Nat.ne_of_gt hm)

theorem log2_mul_two_pow (hm : m ≠ 0) (k : Nat) : (m * 2 ^ k).log2 = m.log2 + k := by
  have hpos : 0 < 2 ^ k := Nat.two_pow_pos k
  refine (Nat.log2_eq_iff (Nat.mul_ne_zero hm (Nat.ne_of_gt hpos))).2 ⟨?_, ?_⟩
  · rw [Nat.pow_add]
    exact Nat.mul_le_mul_right _ (Nat.log2_self_le hm)
  · rw [Nat.add_right_comm, Nat.pow_add]
    exact Nat.mul_lt_mul_of_pos_right Nat.lt_log2_self hpos

/-- A mantissa that is too short is filled up with zeros. -/
theorem round_of_isFull (hfull : IsFull (m * 2 ^ k)) (hlow : -1074 ≤ e - k) (h : 0 < m * 2 ^ k) :
    UnpackedFloat.round Format.binary64 s m e = .finite s (m * 2 ^ k) (e - k) h := by
  have hm : m ≠ 0 := fun hm => by simp [hm] at h
  have htotal : totalExponent m e = totalExponent (m * 2 ^ k) (e - k) := by
    rw [totalExponent, totalExponent, log2_mul_two_pow hm]
    omega
  have hshift : (e - (e - k)).toNat = k := by omega
  simp only [UnpackedFloat.round, htotal, targetExponent_of_isFull hfull hlow, decreaseExponent, hshift,
    Nat.shiftLeft_eq]
  exact roundWithAccuracy_of_isFull hfull hlow h

theorem exists_isFull (hpos : 0 < m) (hlt : m < 2 ^ 53) : ∃ k, k ≤ 52 ∧ IsFull (m * 2 ^ k) := by
  have hm : m ≠ 0 := Nat.ne_of_gt hpos
  have hlog : m.log2 < 53 := (Nat.log2_lt hm).2 hlt
  refine ⟨52 - m.log2, by omega, (Nat.log2_eq_iff ?_).1 ?_⟩
  · exact Nat.mul_ne_zero hm (Nat.ne_of_gt (Nat.two_pow_pos _))
  · rw [log2_mul_two_pow hm]
    omega

/-- The difference of two doubles with one exponent is that of their mantissas, filled up with
zeros. -/
theorem sub_is (hx : Is x m e) (hy : Is y n e) (hfull : IsFull ((m - n) * 2 ^ k))
    (hlow : -1074 ≤ e - k) (hhigh : e ≤ 971) : Is (x - y) ((m - n) * 2 ^ k) (e - k) := by
  obtain ⟨_, hx⟩ := hx
  obtain ⟨_, hy⟩ := hy
  have hpos : 0 < (m - n) * 2 ^ k := Nat.lt_of_lt_of_le (Nat.two_pow_pos 52) hfull.1
  have hlt : n < m := Nat.lt_of_sub_pos (Nat.pos_of_mul_pos_right hpos)
  refine ⟨hpos, ?_⟩
  have hsub : UnpackedFloat.sub Format.binary64 x.toModel.unpack y.toModel.unpack =
      .finite .positive ((m - n) * 2 ^ k) (e - k) hpos := by
    have hshift : ∀ i : Nat, i <<< (e - e).toNat = i := fun i => by simp
    have hdifference : (m : Int) - n = ((m - n : Nat) : Int) := by omega
    have hgt : compare ((m - n : Nat) : Int) 0 = .gt := by
      rw [Int.compare_eq_gt]
      omega
    rw [hx, hy]
    simp only [UnpackedFloat.sub, Int.min_self, decreaseExponent, hshift, Sign.apply, hdifference,
      UnpackedFloat.normalize, hgt, Int.toNat_natCast]
    exact round_of_isFull hfull hlow hpos
  change unpack Format.binary64 (pack Format.binary64
    (UnpackedFloat.sub Format.binary64 x.toModel.unpack y.toModel.unpack)) = _
  rw [hsub]
  exact unpack_pack hfull hlow (by omega) hpos

/-! ### Binary fractions -/

/-- A double as a binary fraction. -/
def binary : UnpackedFloat → Binary
  | .notANumber => .notANumber
  | .infinity s => .infinite (s == .negative)
  | .zero s => .finite (s == .negative) 0 (-1074)
  | .finite s m e _ => .finite (s == .negative) m e

theorem toNat_unpackExponent (b : BitVec 64) :
    (@unpackExponent Format.binary64 b).toNat = b.toNat / twoPow 52 % twoPow 11 := by
  simp [unpackExponent, BitVec.extractLsb_toNat, Nat.shiftRight_eq_div_pow, twoPow]

theorem toNat_unpackMantissa (b : BitVec 64) :
    (@unpackMantissa Format.binary64 b).toNat = b.toNat % twoPow 52 := by
  simp [unpackMantissa, BitVec.extractLsb_toNat, twoPow]

theorem sign_eq (b : BitVec 64) :
    (Sign.ofBitVec (@unpackSign Format.binary64 b) == .negative) =
      (b.toNat / twoPow 63 % 2 == 1) := by
  have hbit : (@unpackSign Format.binary64 b).toNat = b.toNat / twoPow 63 % 2 := by
    simp [unpackSign, BitVec.extractLsb_toNat, Nat.shiftRight_eq_div_pow, twoPow]
  rw [← hbit]
  rcases BitVec.eq_zero_or_eq_one (@unpackSign Format.binary64 b) with h | h
  · rw [h]; rfl
  · rw [h]; rfl

/-- The bits of a double are taken apart alike. -/
theorem ofBits_toNat (b : BitVec 64) :
    Binary.ofBits b.toNat = binary (unpack Format.binary64 b) := by
  have hall : @unpackExponent Format.binary64 b = -BitVec.ofNat Format.binary64.exponentBits 1 ↔
      b.toNat / twoPow 52 % twoPow 11 = twoPow 11 - 1 := by
    rw [← BitVec.toNat_inj, toNat_unpackExponent]
    rfl
  have hzero : @unpackExponent Format.binary64 b = BitVec.ofNat Format.binary64.exponentBits 0 ↔
      b.toNat / twoPow 52 % twoPow 11 = 0 := by
    rw [← BitVec.toNat_inj, toNat_unpackExponent]
    rfl
  have hfraction : @unpackMantissa Format.binary64 b =
      BitVec.ofNat Format.binary64.mantissaBitsWithoutImplicit 0 ↔ b.toNat % twoPow 52 = 0 := by
    rw [← BitVec.toNat_inj, toNat_unpackMantissa]
    rfl
  rw [Binary.ofBits, unpack]
  simp only [hall, hzero, hfraction]
  by_cases hx : b.toNat / twoPow 52 % twoPow 11 = twoPow 11 - 1
  · rw [if_pos hx, if_pos hx]
    by_cases hm : b.toNat % twoPow 52 = 0
    · rw [if_pos hm, if_pos hm, binary, sign_eq]
    · rw [if_neg hm, if_neg hm, binary]
  rw [if_neg hx, if_neg hx]
  by_cases hx' : b.toNat / twoPow 52 % twoPow 11 = 0
  · rw [if_pos hx', if_pos hx']
    by_cases hm : b.toNat % twoPow 52 = 0
    · rw [dif_pos hm, binary, sign_eq, hm]
    · rw [dif_neg hm, binary, sign_eq, toNat_unpackMantissa, toNat_unpackExponent, hx']
      rfl
  · rw [if_neg hx', if_neg hx', binary, sign_eq, append_one_toNat, toNat_unpackMantissa,
      toNat_unpackExponent]
    rfl

theorem ofFloat_eq (x : Float) : Binary.ofFloat x = binary x.toModel.unpack :=
  ofBits_toNat x.toModel.toBits.toBitVec

/-- What is not at most a positive number has no minus sign. -/
theorem ofFloat_of_not_le (hy : Is y n f) (h : ¬ x ≤ y) : Binary.ofFloat x = .notANumber ∨
    Binary.ofFloat x = .infinite false ∨ ∃ m e, Binary.ofFloat x = .finite false m e := by
  obtain ⟨_, hy⟩ := hy
  rw [le_iff_unpack, hy] at h
  rw [ofFloat_eq]
  cases hx : x.toModel.unpack with
  | notANumber => exact .inl rfl
  | infinity s =>
    rw [hx] at h
    cases s with
    | positive => exact .inr (.inl rfl)
    | negative => exact absurd rfl h
  | zero s =>
    rw [hx] at h
    cases s <;> exact absurd rfl h
  | finite s m e hm =>
    rw [hx] at h
    cases s with
    | positive => exact .inr (.inr ⟨m, e, rfl⟩)
    | negative => exact absurd rfl h

end RecipeBook.Double
