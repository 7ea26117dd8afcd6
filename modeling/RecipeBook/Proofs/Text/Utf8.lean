import Mathlib.Data.List.TakeWhile
import RecipeBook.Proofs.Url.Percent
import RecipeBook.Text.Utf8

/-!
# Text among octets

Octets that are a character are read as it, whatever comes behind them (`Completes.lossy_append`). Text
is therefore read as itself (`lossy_utf8`). An ASCII octet is a character wherever it stands: it is part
of no longer one, and so it ends what is before it, however broken that is (`lossy_append_cons`).
-/

namespace RecipeBook.Text.Utf8

/-- The octets `more` are just those that `b` needs behind it to be a character. -/
structure Completes (more : List UInt8) (b : UInt8) : Prop where
  width_eq : width b = more.length + 1
  isSecond : ∀ o ∈ more.head?, isSecond b o = true
  isFurther : ∀ o ∈ more.tail, isFurther o = true

variable {b c : UInt8} {more : List UInt8} {m n : Nat}

/-! ### Whole characters -/

theorem Completes.startLength_append (h : Completes more b) (rest : List UInt8) :
    startLength b (more ++ rest) = more.length + 1 := by
  rw [startLength, h.width_eq, Nat.add_sub_cancel, List.take_left]
  cases more with
  | nil => rfl
  | cons o more =>
    have htake : more.takeWhile Utf8.isFurther = more := List.takeWhile_eq_self_iff.2 h.isFurther
    simp only [h.isSecond o rfl, if_true, htake, List.length_cons]
    omega

theorem Completes.lossy_append (h : Completes more b) (rest : List UInt8) :
    lossy (b :: more ++ rest) = .ofNat (codePoint b more) :: lossy rest := by
  rw [List.cons_append, lossy, h.startLength_append, h.width_eq, if_pos rfl, Nat.add_sub_cancel,
    List.take_left, List.drop_left]

/-! ### Text -/

theorem width_ofNat (hn : n < 256) : width (.ofNat n) =
    if n < 0x80 then 1 else if 0xc2 ≤ n ∧ n ≤ 0xdf then 2 else if 0xe0 ≤ n ∧ n ≤ 0xef then 3
    else if 0xf0 ≤ n ∧ n ≤ 0xf4 then 4 else 0 := by
  simp only [width, UInt8.lt_iff_toNat_lt, UInt8.le_iff_toNat_le, UInt8.toNat_ofNat_of_lt' hn]
  rfl

theorem isFurther_ofNat (hn : n < 256) : isFurther (.ofNat n) = true ↔ 0x80 ≤ n ∧ n ≤ 0xbf := by
  simp only [isFurther, UInt8.le_iff_toNat_le, UInt8.toNat_ofNat_of_lt' hn, Bool.and_eq_true,
    decide_eq_true_eq]
  rfl

theorem isSecond_ofNat (hm : m < 256) (hn : n < 256) : isSecond (.ofNat m) (.ofNat n) = true ↔
    (if m = 0xe0 then 0xa0 else if m = 0xf0 then 0x90 else 0x80) ≤ n ∧
      n ≤ if m = 0xed then 0x9f else if m = 0xf4 then 0x8f else 0xbf := by
  simp only [isSecond, UInt8.le_iff_toNat_le, ← UInt8.toNat_inj, UInt8.toNat_ofNat_of_lt' hm,
    UInt8.toNat_ofNat_of_lt' hn, Bool.and_eq_true, decide_eq_true_eq, apply_ite UInt8.toNat]
  rfl

/-- The code of a character is a whole one. The four cases are those of its length. -/
theorem exists_completes (c : Char) : ∃ b more, String.utf8EncodeChar c = b :: more ∧
    Completes more b ∧ codePoint b more = c.toNat := by
  have hvalid : c.toNat < 0xd800 ∨ 0xdfff < c.toNat ∧ c.toNat < 0x110000 := c.valid
  rw [String.utf8EncodeChar, show c.val.toNat = c.toNat from rfl]
  generalize c.toNat = v at *
  split
  · refine ⟨_, _, rfl, ⟨?_, nofun, nofun⟩, ?_⟩
    · rw [width_ofNat (by omega), if_pos (by omega)]
      rfl
    · simp only [codePoint, List.length_nil, List.foldl_nil, UInt8.toNat_ofNat']
      omega
  split
  · refine ⟨_, _, rfl, ⟨?_, ?_, nofun⟩, ?_⟩
    · rw [width_ofNat (by omega), if_neg (by omega), if_pos (by omega)]
      rfl
    · simp only [List.head?_cons, Option.mem_some_iff, forall_eq']
      rw [isSecond_ofNat (by omega) (by omega)]
      split_ifs <;> omega
    · simp only [codePoint, List.length_cons, List.length_nil, List.foldl_cons, List.foldl_nil,
        UInt8.toNat_ofNat']
      omega
  split
  · refine ⟨_, _, rfl, ⟨?_, ?_, ?_⟩, ?_⟩
    · rw [width_ofNat (by omega), if_neg (by omega), if_neg (by omega), if_pos (by omega)]
      rfl
    · simp only [List.head?_cons, Option.mem_some_iff, forall_eq']
      rw [isSecond_ofNat (by omega) (by omega)]
      split_ifs <;> omega
    · simp only [List.tail_cons, List.mem_singleton, forall_eq]
      rw [isFurther_ofNat (by omega)]
      omega
    · simp only [codePoint, List.length_cons, List.length_nil, List.foldl_cons, List.foldl_nil,
        UInt8.toNat_ofNat']
      omega
  · refine ⟨_, _, rfl, ⟨?_, ?_, ?_⟩, ?_⟩
    · rw [width_ofNat (by omega), if_neg (by omega), if_neg (by omega), if_neg (by omega),
        if_pos (by omega)]
      rfl
    · simp only [List.head?_cons, Option.mem_some_iff, forall_eq']
      rw [isSecond_ofNat (by omega) (by omega)]
      split_ifs <;> omega
    · rw [List.tail_cons, List.forall_mem_cons, List.forall_mem_singleton,
        isFurther_ofNat (by omega), isFurther_ofNat (by omega)]
      omega
    · simp only [codePoint, List.length_cons, List.length_nil, List.foldl_cons, List.foldl_nil,
        UInt8.toNat_ofNat']
      omega

theorem lossy_utf8 (s : List Char) : lossy (Url.Percent.utf8 s) = s := by
  induction s with
  | nil => rw [Url.Percent.utf8, List.flatMap_nil, lossy]
  | cons c s ih =>
    obtain ⟨b, more, hcode, hmore, hpoint⟩ := exists_completes c
    rw [Url.Percent.utf8_cons, hcode, hmore.lossy_append, hpoint, Char.ofNat_toNat, ih]

/-! ### ASCII octets -/

theorem completes_nil (hc : c < 0x80) : Completes [] c := ⟨if_pos hc, nofun, nofun⟩

theorem not_isSecond_of_lt (hc : c < 0x80) : isSecond b c = false := by
  rw [isSecond]
  grind

theorem not_isFurther_of_lt (hc : c < 0x80) : isFurther c = false := by
  rw [isFurther]
  grind

/-- A character does not reach over the end. -/
theorem startLength_sub_one_le (b : UInt8) (rest : List UInt8) :
    startLength b rest - 1 ≤ rest.length := by
  rw [startLength]
  split
  · exact Nat.zero_le _
  · next o more htake =>
    have hlength := congrArg List.length htake
    rw [List.length_take, List.length_cons] at hlength
    have hmore := (List.takeWhile_sublist isFurther (l := more)).length_le
    split <;> omega

theorem takeWhile_isFurther_append_cons (hc : c < 0x80) (s t : List UInt8) (k : Nat) :
    ((s ++ c :: t).take k).takeWhile isFurther = (s.take k).takeWhile isFurther := by
  induction s generalizing k with
  | nil =>
    cases k with
    | zero => rfl
    | succ k =>
      rw [List.nil_append, List.take_succ_cons,
        List.takeWhile_cons_of_neg (by simp [not_isFurther_of_lt hc])]
      rfl
  | cons o s ih =>
    cases k with
    | zero => rfl
    | succ k =>
      rw [List.cons_append, List.take_succ_cons, List.take_succ_cons, List.takeWhile_cons,
        List.takeWhile_cons, ih]

/-- A character does not reach over an ASCII octet either. -/
theorem startLength_append_cons (hc : c < 0x80) (b : UInt8) (s t : List UInt8) :
    startLength b (s ++ c :: t) = startLength b s := by
  rw [startLength, startLength]
  cases width b - 1 with
  | zero => rfl
  | succ k =>
    cases s with
    | nil =>
      rw [List.nil_append, List.take_succ_cons]
      simp only [not_isSecond_of_lt hc, Bool.false_eq_true, if_false, List.take_nil]
    | cons o s =>
      rw [List.cons_append, List.take_succ_cons, List.take_succ_cons]
      simp only [takeWhile_isFurther_append_cons hc]

theorem lossy_append_cons (hc : c < 0x80) (s t : List UInt8) :
    lossy (s ++ c :: t) = lossy s ++ .ofNat c.toNat :: lossy t := by
  fun_induction lossy s with
  | case1 => exact (completes_nil hc).lossy_append t
  | case2 b s n ih =>
    have hn : n - 1 ≤ s.length := startLength_sub_one_le b s
    rw [List.cons_append, lossy, startLength_append_cons hc, List.drop_append_of_le_length hn,
      List.take_append_of_le_length hn, ih, List.cons_append]

end RecipeBook.Text.Utf8
