import Mathlib.Data.List.DropRight
import RecipeBook.Proofs.Boundary
import RecipeBook.Proofs.Text.LowerCase
import RecipeBook.Text.Blank

/-!
# Text without blank ends

A text is trimmed if no blank character stands at either end, and then trimming leaves it alone
(`trim_eq_self_iff`). Lowering makes no blank character of another one and leaves the blank ones as
they are (`isBlank_of_mem_lowerChar`), so a text is trimmed exactly if its lower-case form is
(`isTrimmed_lower_iff`).
-/

namespace RecipeBook.Text

/-- Neither end of the text is blank. -/
def IsTrimmed (s : List Char) : Prop :=
  (∀ c ∈ s.head?, isBlank c = false) ∧ ∀ c ∈ s.getLast?, isBlank c = false

/-! ### Ends that are cut off -/

section Ends

variable {α : Type*} {p : α → Bool} {xs : List α}

theorem head?_rdropWhile (hxs : ∀ x ∈ xs.head?, p x = false) : (xs.rdropWhile p).head? = xs.head? := by
  cases xs with
  | nil => rw [List.rdropWhile_nil]
  | cons x rest =>
    obtain ⟨cut, hcut⟩ := List.rdropWhile_prefix (p := p) (x :: rest)
    cases h : (x :: rest).rdropWhile p with
    | nil =>
      have hx := List.rdropWhile_eq_nil_iff.1 h x List.mem_cons_self
      rw [hxs x rfl] at hx
      cases hx
    | cons y kept =>
      rw [h, List.cons_append] at hcut
      rw [(List.cons.inj hcut).1]
      rfl

theorem getLast?_rdropWhile (p : α → Bool) (xs : List α) :
    (xs.rdropWhile p).getLast? = xs.reverse.find? (!p ·) := by
  rw [List.rdropWhile, List.getLast?_reverse, List.find?_not_eq_head?_dropWhile]

/-- What is cut off at the front does not count for the last element that stays. -/
theorem find?_reverse_dropWhile (p : α → Bool) (xs : List α) :
    (xs.dropWhile p).reverse.find? (!p ·) = xs.reverse.find? (!p ·) := by
  have hfront : (xs.takeWhile p).reverse.find? (!p ·) = none :=
    List.find?_eq_none.2 fun x hx => by simp [List.mem_takeWhile_imp (List.mem_reverse.1 hx)]
  conv_rhs => rw [← List.takeWhile_append_dropWhile (p := p) (l := xs), List.reverse_append,
    List.find?_append, hfront, Option.or_none]

/-- A text that is cut at both ends begins with the first character that is not cut off. -/
theorem head?_rdropWhile_dropWhile (p : α → Bool) (xs : List α) :
    ((xs.dropWhile p).rdropWhile p).head? = xs.find? (!p ·) := by
  rw [head?_rdropWhile (head?_dropWhile_eq_false p xs), List.find?_not_eq_head?_dropWhile]

theorem getLast?_rdropWhile_dropWhile (p : α → Bool) (xs : List α) :
    ((xs.dropWhile p).rdropWhile p).getLast? = xs.reverse.find? (!p ·) := by
  rw [getLast?_rdropWhile, find?_reverse_dropWhile]

/-- Ends that are not of the class are not cut off. -/
theorem rdropWhile_dropWhile_eq_self (hhead : ∀ x ∈ xs.head?, p x = false)
    (hlast : ∀ x ∈ xs.getLast?, p x = false) : (xs.dropWhile p).rdropWhile p = xs := by
  have hfront : xs.dropWhile p = xs := by
    cases xs with
    | nil => rfl
    | cons x xs => rw [List.dropWhile_cons_of_neg (by simp [hhead x rfl])]
  rw [hfront, List.rdropWhile_eq_self_iff]
  exact fun hxs => by simpa using hlast _ (List.getLast?_eq_getLast_of_ne_nil hxs)

end Ends

variable {c d : Char} {s : List Char}

theorem trim_eq_rdropWhile (s : List Char) : trim s = (s.dropWhile isBlank).rdropWhile isBlank := rfl

theorem isTrimmed_trim (s : List Char) : IsTrimmed (trim s) := by
  rw [IsTrimmed, trim_eq_rdropWhile, head?_rdropWhile_dropWhile, getLast?_rdropWhile_dropWhile]
  exact ⟨fun c hc => by simpa using List.find?_some hc, fun c hc => by simpa using List.find?_some hc⟩

theorem trim_eq_self_iff : trim s = s ↔ IsTrimmed s := by
  refine ⟨fun h => h ▸ isTrimmed_trim s, fun ⟨hhead, hlast⟩ => ?_⟩
  rw [trim_eq_rdropWhile, rdropWhile_dropWhile_eq_self hhead hlast]

/-! ### Lower case -/

/-- The code points of the blank characters. -/
def blankCodes : List Nat :=
  [0x09, 0x0A, 0x0B, 0x0C, 0x0D, 0x20, 0x85, 0xA0, 0x1680, 0x2000, 0x2001, 0x2002, 0x2003, 0x2004,
    0x2005, 0x2006, 0x2007, 0x2008, 0x2009, 0x200A, 0x2028, 0x2029, 0x202F, 0x205F, 0x3000]

theorem toNat_mem_blankCodes (h : isBlank c) : c.toNat ∈ blankCodes := by
  have hle : ∀ a b : Char, a ≤ b ↔ a.toNat ≤ b.toNat := fun a b => UInt32.le_iff_toNat_le
  simp only [isBlank, Bool.or_eq_true, Bool.and_eq_true, beq_iff_eq, decide_eq_true_eq, hle,
    ← Char.toNat_inj, Char.reduceToNat] at h
  simp only [blankCodes, List.mem_cons, List.not_mem_nil, or_false]
  omega

/-- The case table neither lowers a blank character nor gives one. -/
theorem caseRanges_miss_blankCodes :
    (caseRanges.all fun r => blankCodes.all fun n => !r.covers n &&
      (Nat.blt n r.image || Nat.blt (r.image + (r.last - r.first)) n)) = true := by
  decide +kernel

theorem isBlank_toLower : ∀ n < 0x80, isBlank (Char.ofNat n).toLower = isBlank (Char.ofNat n) := by
  decide +kernel

theorem isBlank_of_covers {r : CaseRange} (hr : r ∈ caseRanges) (hc : r.covers c.toNat) :
    isBlank c = false ∧ isBlank (.ofNat (r.lower c.toNat)) = false := by
  have hmiss : ∀ n ∈ blankCodes, ¬ r.covers n ∧ (n < r.image ∨ r.image + (r.last - r.first) < n) := by
    simpa using List.all_eq_true.1 caseRanges_miss_blankCodes r hr
  constructor
  · refine Bool.eq_false_iff.2 fun hblank => ?_
    exact (hmiss _ (toNat_mem_blankCodes hblank)).1 hc
  · refine Bool.eq_false_iff.2 fun hblank => ?_
    obtain ⟨hfirst, hlast, -⟩ := CaseRange.covers_iff.1 hc
    by_cases hv : (r.lower c.toNat).isValidChar
    · have himage := (hmiss _ (toNat_mem_blankCodes hblank)).2
      rw [toNat_ofNat hv, CaseRange.lower] at himage
      omega
    · rw [Char.ofNat, dif_neg hv] at hblank
      revert hblank
      decide

theorem isBlank_of_mem_lowerChar (h : d ∈ lowerChar c) : isBlank d = isBlank c := by
  unfold lowerChar at h
  split at h
  · next hlt =>
    obtain rfl : d = c.toLower := by simpa using h
    simpa using isBlank_toLower c.toNat hlt
  · split at h
    · next hI =>
      subst hI
      obtain rfl | rfl : d = 'i' ∨ d = '\u0307' := by simpa using h
      · decide
      · decide
    · split at h
      · next hS =>
        subst hS
        obtain rfl : d = 'σ' := by simpa using h
        decide
      · split at h
        · next r hr =>
          obtain rfl : d = .ofNat (r.lower c.toNat) := by simpa using h
          have hcovers : r.covers c.toNat := by simpa using List.find?_some hr
          obtain ⟨hc, himage⟩ := isBlank_of_covers (List.mem_of_find?_eq_some hr) hcovers
          rw [hc, himage]
        · obtain rfl : d = c := by simpa using h
          rfl

theorem lowerChar_ne_nil (c : Char) : lowerChar c ≠ [] := by
  unfold lowerChar
  split_ifs
  · simp
  · simp
  · simp
  · split <;> simp

/-- What a character is lowered to is not empty, and blank if the character is. -/
theorem lowerAfter_cons (before : List Char) (c : Char) (s : List Char) :
    ∃ piece, lowerAfter before (c :: s) = piece ++ lowerAfter (c :: before) s ∧ piece ≠ [] ∧
      ∀ d ∈ piece, isBlank d = isBlank c := by
  refine ⟨_, by rw [lowerAfter], ?_, fun d hd => ?_⟩
  · split
    · simp
    · exact lowerChar_ne_nil c
  · split at hd
    · next hfinal =>
      obtain ⟨⟨rfl, -⟩, -⟩ : (c = 'Σ' ∧ _) ∧ _ := by simpa using hfinal
      obtain rfl := List.mem_singleton.1 hd
      decide
    · exact isBlank_of_mem_lowerChar hd

theorem isBlank_head?_lowerAfter (before s : List Char) :
    (lowerAfter before s).head?.map isBlank = s.head?.map isBlank := by
  cases s with
  | nil => rfl
  | cons c s =>
    obtain ⟨piece, hpiece, hne, hblank⟩ := lowerAfter_cons before c s
    obtain ⟨d, piece, rfl⟩ := List.exists_cons_of_ne_nil hne
    rw [hpiece]
    exact congrArg some (hblank d List.mem_cons_self)

theorem isBlank_getLast?_lowerAfter (before s : List Char) :
    (lowerAfter before s).getLast?.map isBlank = s.getLast?.map isBlank := by
  induction s generalizing before with
  | nil => rfl
  | cons c s ih =>
    obtain ⟨piece, hpiece, hne, hblank⟩ := lowerAfter_cons before c s
    rw [hpiece, List.getLast?_append]
    have ih := ih (c :: before)
    cases hlast : s.getLast? with
    | none =>
      obtain rfl := List.getLast?_eq_none_iff.1 hlast
      obtain ⟨piece, d, rfl⟩ := (List.eq_nil_or_concat piece).resolve_left hne
      simpa [lowerAfter] using hblank d (by simp)
    | some e =>
      rw [hlast] at ih
      obtain ⟨d, hd, hde⟩ := Option.map_eq_some_iff.1 ih
      rw [hd, List.getLast?_cons, hlast]
      simpa using hde

theorem isTrimmed_lower_iff : IsTrimmed (lower s) ↔ IsTrimmed s := by
  have hmap : ∀ s : List Char, IsTrimmed s ↔
      (∀ b ∈ s.head?.map isBlank, b = false) ∧ ∀ b ∈ s.getLast?.map isBlank, b = false := by
    intro s
    simp [IsTrimmed]
  rw [hmap, hmap, lower, isBlank_head?_lowerAfter, isBlank_getLast?_lowerAfter]

end RecipeBook.Text
