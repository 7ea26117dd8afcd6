import RecipeBook.Metadata

/-!
# Text in lower case

A character is low if it is its own lower-case form. All that lowering gives is low (`isLow_of_mem`):
for the characters of the case table because the images of every range miss all ranges. A text of
low characters stays as it is, so lowering twice is lowering once (`lower_lower`). Lowering touches no
character of ASCII that is no letter, and no other character gives one (`mem_lower_iff`).
-/

namespace RecipeBook

namespace Text

/-- The character is its own lower-case form, wherever it stands. -/
def IsLow (c : Char) : Prop := lowerChar c = [c] ∧ c ≠ 'Σ'

instance (c : Char) : Decidable (IsLow c) := inferInstanceAs (Decidable (_ ∧ _))

variable {c d : Char} {s : List Char}

/-! ### Characters of ASCII -/

theorem lowerChar_of_lt (h : c.toNat < 0x80) : lowerChar c = [c.toLower] := by
  rw [lowerChar, if_pos h]

theorem ne_sigma_of_lt (h : c.toNat < 0x80) : c ≠ 'Σ' := by
  rintro rfl
  exact absurd h (by decide)

theorem lowerAfter_of_lt (h : ∀ c ∈ s, c.toNat < 0x80) (before : List Char) :
    lowerAfter before s = s.map Char.toLower := by
  induction s generalizing before with
  | nil => rfl
  | cons c r ih =>
    have hc := h c List.mem_cons_self
    rw [lowerAfter, ih fun d hd => h d (List.mem_cons_of_mem _ hd), lowerChar_of_lt hc]
    simp [ne_sigma_of_lt hc]

/-- In ASCII every letter is lowered by itself. -/
theorem lower_of_lt (h : ∀ c ∈ s, c.toNat < 0x80) : lower s = s.map Char.toLower :=
  lowerAfter_of_lt h []

theorem toLower_of_lt (h : 0x5A < c.toNat) : c.toLower = c := by
  have hlarge : ¬ (c.val ≥ 'A'.val ∧ c.val ≤ 'Z'.val) := by
    rw [UInt32.le_iff_toNat_le]
    exact fun hc => Nat.not_le.2 h hc.2
  exact dif_neg hlarge

/-! ### The case table -/

namespace CaseRange

/-- The images of `r` are not in `q`: they lie below it or above it, or have the other parity. -/
def misses (r q : CaseRange) : Bool :=
  Nat.blt (r.image + (r.last - r.first)) q.first || Nat.blt q.last r.image ||
    ((r.stride == 2 || r.first == r.last) && q.stride == 2 && (r.image + q.first) % 2 == 1)

theorem covers_iff {r : CaseRange} {n : Nat} :
    r.covers n ↔ r.first ≤ n ∧ n ≤ r.last ∧ (n - r.first) % r.stride = 0 := by
  simp [covers, and_assoc]

theorem not_covers_lower {r q : CaseRange} {n : Nat} (h : r.misses q) (hn : r.covers n) :
    ¬ q.covers (r.lower n) := by
  rw [covers_iff] at hn ⊢
  simp only [misses, Bool.or_eq_true, Bool.and_eq_true, Nat.blt_eq, beq_iff_eq] at h
  rw [lower]
  obtain ⟨h1, h2, h3⟩ := hn
  rintro ⟨h4, h5, h6⟩
  rcases h with (h | h) | ⟨⟨h | h, hq⟩, hp⟩
  · omega
  · omega
  · rw [h] at h3; rw [hq] at h6; omega
  · rw [hq] at h6; omega

end CaseRange

/-- The two characters that lower by rules of their own, as ranges. -/
def specialRanges : List CaseRange := [⟨0x130, 0x130, 1, 0x69⟩, ⟨0x3A3, 0x3A3, 1, 0x3C3⟩]

theorem misses_caseRanges :
    (caseRanges.all fun r => Nat.blt 0x5A r.image &&
      (caseRanges.all r.misses && specialRanges.all r.misses)) = true := by
  decide +kernel

/-- No range covers the character, and it is not one of those with a rule of their own. -/
theorem isLow_of_not_covers (hlt : 0x5A < c.toNat) (hI : c ≠ 'İ') (hS : c ≠ 'Σ')
    (h : ∀ q ∈ caseRanges, ¬ q.covers c.toNat) : IsLow c := by
  refine ⟨?_, hS⟩
  have hfind : caseRanges.find? (·.covers c.toNat) = none := List.find?_eq_none.2 h
  rw [lowerChar, if_neg hI, if_neg hS, hfind, toLower_of_lt hlt]
  exact ite_self _

theorem toNat_ofNat {n : Nat} (h : n.isValidChar) : (Char.ofNat n).toNat = n := by
  rw [Char.ofNat, dif_pos h]
  rfl

theorem isLow_image {r : CaseRange} (hr : r ∈ caseRanges) {n : Nat} (hn : r.covers n) :
    IsLow (.ofNat (r.lower n)) := by
  have hall := List.all_eq_true.1 misses_caseRanges r hr
  simp only [Bool.and_eq_true, Nat.blt_eq, List.all_eq_true] at hall
  obtain ⟨hz, hmiss, hspecial⟩ := hall
  by_cases hv : (r.lower n).isValidChar
  · have hto : (Char.ofNat (r.lower n)).toNat = r.lower n := by
      rw [Char.ofNat, dif_pos hv]
      rfl
    have hne : ∀ k, (∃ q ∈ specialRanges, q.covers k) → (Char.ofNat (r.lower n)).toNat ≠ k := by
      rintro k ⟨q, hq, hk⟩ rfl
      rw [hto] at hk
      exact CaseRange.not_covers_lower (hspecial q hq) hn hk
    refine isLow_of_not_covers ?_ ?_ ?_ fun q hq => ?_
    · rw [hto, CaseRange.lower]; omega
    · exact fun h => hne 0x130 (by decide) (h ▸ rfl)
    · exact fun h => hne 0x3A3 (by decide) (h ▸ rfl)
    · rw [hto]; exact CaseRange.not_covers_lower (hmiss q hq) hn
  · rw [Char.ofNat, dif_neg hv]
    decide

/-! ### Lowering twice -/

theorem isLow_toLower : ∀ n < 0x80, IsLow (Char.ofNat n).toLower := by decide +kernel

theorem isLow_of_mem_lowerChar (h : d ∈ lowerChar c) : IsLow d := by
  unfold lowerChar at h
  split at h
  · next hlt =>
    obtain rfl : d = c.toLower := by simpa using h
    simpa using isLow_toLower c.toNat hlt
  · next hge =>
    split at h
    · obtain rfl | rfl : d = 'i' ∨ d = '\u0307' := by simpa using h
      · decide +kernel
      · decide +kernel
    · next hI =>
      split at h
      · obtain rfl : d = 'σ' := by simpa using h
        decide +kernel
      · next hS =>
        split at h
        · next r hr =>
          obtain rfl : d = .ofNat (r.lower c.toNat) := by simpa using h
          have hcovers := List.find?_some hr
          exact isLow_image (List.mem_of_find?_eq_some hr) hcovers
        · next hnone =>
          obtain rfl : d = c := by simpa using h
          refine isLow_of_not_covers ?_ hI hS (List.find?_eq_none.1 hnone)
          omega

theorem lowerAfter_of_isLow (h : ∀ c ∈ s, IsLow c) (before : List Char) :
    lowerAfter before s = s := by
  induction s generalizing before with
  | nil => rfl
  | cons c r ih =>
    obtain ⟨hlow, hsigma⟩ := h c List.mem_cons_self
    rw [lowerAfter, ih fun d hd => h d (List.mem_cons_of_mem _ hd), hlow]
    simp [hsigma]

theorem isLow_of_mem_lowerAfter {before : List Char} (h : d ∈ lowerAfter before s) : IsLow d := by
  induction s generalizing before with
  | nil => simp [lowerAfter] at h
  | cons c r ih =>
    rw [lowerAfter, List.mem_append] at h
    rcases h with h | h
    · split at h
      · obtain rfl : d = 'ς' := by simpa using h
        decide +kernel
      · exact isLow_of_mem_lowerChar h
    · exact ih h

/-- Lowering twice is lowering once. -/
theorem lower_lower (s : List Char) : lower (lower s) = lower s :=
  lowerAfter_of_isLow (fun _ h => isLow_of_mem_lowerAfter h) []

/-! ### Marks -/

/-- A character of ASCII that is no letter. -/
def IsMark (c : Char) : Prop := c.toNat < 0x80 ∧ c.isAlpha = false

instance (c : Char) : Decidable (IsMark c) := inferInstanceAs (Decidable (_ ∧ _))

/-- The images of the case table are characters, and those in ASCII are small letters. -/
theorem caseRanges_miss_marks :
    (caseRanges.all fun r =>
      (Nat.blt 0x60 r.image && Nat.blt (r.image + (r.last - r.first)) 0x7B) ||
      (Nat.blt 0x7F r.image && Nat.blt (r.image + (r.last - r.first)) 0xD800) ||
      (Nat.blt 0xDFFF r.image && Nat.blt (r.image + (r.last - r.first)) 0x110000)) = true := by
  decide +kernel

theorem toLower_ofNat : ∀ n < 0x80, IsMark (Char.ofNat n) ∨ IsMark (Char.ofNat n).toLower →
    (Char.ofNat n).toLower = Char.ofNat n := by
  decide +kernel

theorem isAlpha_ofNat : ∀ n < 0x7B, 0x60 < n → (Char.ofNat n).isAlpha := by decide +kernel

theorem not_isMark_image {r : CaseRange} (hr : r ∈ caseRanges) {n : Nat} (hn : r.covers n) :
    ¬ IsMark (.ofNat (r.lower n)) := by
  obtain ⟨hfirst, hlast, -⟩ := CaseRange.covers_iff.1 hn
  have hmiss := List.all_eq_true.1 caseRanges_miss_marks r hr
  simp only [Bool.or_eq_true, Bool.and_eq_true, Nat.blt_eq] at hmiss
  have hle : r.image ≤ r.lower n ∧ r.lower n ≤ r.image + (r.last - r.first) := by
    rw [CaseRange.lower]
    omega
  have hto : (Char.ofNat (r.lower n)).toNat = r.lower n := by
    refine toNat_ofNat ?_
    rw [Nat.isValidChar]
    omega
  rintro ⟨hlt, halpha⟩
  rw [hto] at hlt
  have hletter := isAlpha_ofNat (r.lower n) (by omega) (by omega)
  rw [halpha] at hletter
  cases hletter

theorem IsMark.ne (hd : IsMark d) (hc : ¬ c.toNat < 0x80) : d ≠ c := fun h => hc (h ▸ hd.1)

/-- Lowering neither gives a mark nor takes one away. -/
theorem mem_lowerChar_iff (hd : IsMark d) : d ∈ lowerChar c ↔ d = c := by
  unfold lowerChar
  split
  · next hlt =>
    have hlower := toLower_ofNat c.toNat hlt
    rw [Char.ofNat_toNat] at hlower
    rw [List.mem_singleton]
    constructor
    · rintro rfl
      exact hlower (.inr hd)
    · rintro rfl
      exact (hlower (.inl hd)).symm
  · next hge =>
    refine iff_of_false (fun h => ?_) (hd.ne hge)
    split at h
    · revert hd
      obtain rfl | rfl : d = 'i' ∨ d = '\u0307' := by simpa using h
      · decide
      · decide
    · split at h
      · obtain rfl : d = 'σ' := by simpa using h
        exact absurd hd (by decide)
      · split at h
        · next r hr =>
          obtain rfl : d = .ofNat (r.lower c.toNat) := by simpa using h
          have hcovers : r.covers c.toNat := by simpa using List.find?_some hr
          exact not_isMark_image (List.mem_of_find?_eq_some hr) hcovers hd
        · obtain rfl : d = c := by simpa using h
          exact hge hd.1

theorem mem_lowerAfter_iff (hd : IsMark d) (before : List Char) : d ∈ lowerAfter before s ↔ d ∈ s := by
  induction s generalizing before with
  | nil => rfl
  | cons c r ih =>
    rw [lowerAfter, List.mem_append, List.mem_cons, ih]
    refine or_congr ?_ Iff.rfl
    split
    · next hfinal =>
      obtain ⟨⟨rfl, -⟩, -⟩ : (c = 'Σ' ∧ _) ∧ _ := by simpa using hfinal
      rw [List.mem_singleton]
      exact iff_of_false (hd.ne (by decide)) (hd.ne (by decide))
    · exact mem_lowerChar_iff hd

theorem mem_lower_iff (hd : IsMark d) : d ∈ lower s ↔ d ∈ s := mem_lowerAfter_iff hd []

end Text

theorem lowered_lowered (s : String) : lowered (lowered s) = lowered s := by
  simp only [lowered, String.toList_ofList, Text.lower_lower]

end RecipeBook
