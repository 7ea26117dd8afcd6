import RecipeBook.Text.Line

/-!
# Pieces between separators

Pieces without the separator are found again when they are joined by it (`splitOn_intercalate`), and
all pieces are such (`not_mem_of_mem_splitOn`). A text is cut in two where the separator stands first
or last, and nowhere else (`splitAtFirst_eq_some_iff`, `splitAtLast_eq_some_iff`).
-/

namespace RecipeBook.Text

variable {sep : Char} {s piece rest : List Char}

theorem splitOn_append_cons (hpiece : sep ∉ piece) (rest : List Char) :
    splitOn sep (piece ++ sep :: rest) = piece :: splitOn sep rest := by
  induction piece with
  | nil => rw [List.nil_append, splitOn, if_pos rfl]
  | cons c piece ih =>
    rw [List.mem_cons, not_or] at hpiece
    rw [List.cons_append, splitOn, if_neg (Ne.symm hpiece.1), ih hpiece.2]

theorem splitOn_of_not_mem (hpiece : sep ∉ piece) : splitOn sep piece = [piece] := by
  induction piece with
  | nil => rfl
  | cons c piece ih =>
    rw [List.mem_cons, not_or] at hpiece
    rw [splitOn, if_neg (Ne.symm hpiece.1), ih hpiece.2]

theorem splitOn_intercalate {ps : List (List Char)} (hne : ps ≠ []) (h : ∀ p ∈ ps, sep ∉ p) :
    splitOn sep ([sep].intercalate ps) = ps := by
  induction ps with
  | nil => exact absurd rfl hne
  | cons p ps ih =>
    obtain ⟨hp, hps⟩ := List.forall_mem_cons.1 h
    cases ps with
    | nil => rw [List.intercalate_singleton, splitOn_of_not_mem hp]
    | cons q qs =>
      rw [List.intercalate_cons_cons, List.append_assoc, List.singleton_append,
        splitOn_append_cons hp, ih (List.cons_ne_nil q qs) hps]

theorem not_mem_of_mem_splitOn (h : piece ∈ splitOn sep s) : sep ∉ piece := by
  induction s generalizing piece with
  | nil =>
    obtain rfl := List.mem_singleton.1 h
    exact List.not_mem_nil
  | cons c s ih =>
    rw [splitOn] at h
    split at h
    · rcases List.mem_cons.1 h with rfl | h
      · exact List.not_mem_nil
      · exact ih h
    · next hc =>
      split at h
      · next hnil => exact absurd hnil (splitOn_ne_nil sep s)
      · next first pieces hpieces =>
        rw [hpieces] at ih
        rcases List.mem_cons.1 h with rfl | h
        · rw [List.mem_cons, not_or]
          exact ⟨Ne.symm hc, ih List.mem_cons_self⟩
        · exact ih (List.mem_cons_of_mem _ h)

theorem splitAtFirst_eq_none_iff {isSep : Char → Bool} :
    splitAtFirst isSep s = none ↔ ∀ c ∈ s, isSep c = false := by
  induction s with
  | nil => exact ⟨fun _ => List.forall_mem_nil _, fun _ => rfl⟩
  | cons c s ih =>
    rw [splitAtFirst, List.forall_mem_cons]
    cases isSep c with
    | true => simp
    | false => simp [ih]

/-- The separator that is found is the first. -/
theorem splitAtFirst_eq_some_iff {isSep : Char → Bool} {before after : List Char} :
    splitAtFirst isSep s = some (before, after) ↔
      ∃ c, s = before ++ c :: after ∧ isSep c = true ∧ ∀ d ∈ before, isSep d = false := by
  induction s generalizing before with
  | nil => simp [splitAtFirst]
  | cons c s ih =>
    rw [splitAtFirst]
    cases hc : isSep c with
    | true =>
      rw [if_pos rfl, Option.some.injEq, Prod.mk.injEq]
      constructor
      · rintro ⟨rfl, rfl⟩
        exact ⟨c, rfl, hc, List.forall_mem_nil _⟩
      · rintro ⟨d, hs, -, hbefore⟩
        cases before with
        | nil => exact ⟨rfl, (List.cons.inj hs).2⟩
        | cons b before =>
          obtain ⟨rfl, -⟩ := List.cons.inj hs
          rw [hbefore c List.mem_cons_self] at hc
          cases hc
    | false =>
      rw [if_neg Bool.false_ne_true, Option.map_eq_some_iff]
      constructor
      · rintro ⟨⟨before, after⟩, hsplit, hp⟩
        obtain ⟨rfl, rfl⟩ := Prod.mk.inj hp
        obtain ⟨d, rfl, hd, hbefore⟩ := ih.1 hsplit
        exact ⟨d, rfl, hd, List.forall_mem_cons.2 ⟨hc, hbefore⟩⟩
      · rintro ⟨d, hs, hd, hbefore⟩
        cases before with
        | nil =>
          obtain ⟨rfl, -⟩ := List.cons.inj hs
          rw [hd] at hc
          cases hc
        | cons b before =>
          obtain ⟨rfl, rfl⟩ := List.cons.inj hs
          exact ⟨_, ih.2 ⟨d, rfl, hd, (List.forall_mem_cons.1 hbefore).2⟩, rfl⟩

theorem splitAtLast_eq_none_iff : splitAtLast sep s = none ↔ sep ∉ s := by
  rw [splitAtLast, Option.map_eq_none_iff, splitAtFirst_eq_none_iff]
  simp only [List.mem_reverse, beq_eq_false_iff_ne]
  exact ⟨fun h hmem => h sep hmem rfl, fun h c hc heq => h (heq ▸ hc)⟩

/-- The separator that is found is the last, whatever is before it. -/
theorem splitAtLast_eq_some_iff {before after : List Char} :
    splitAtLast sep s = some (before, after) ↔ s = before ++ sep :: after ∧ sep ∉ after := by
  have hreverse : ∀ c, s.reverse = after.reverse ++ c :: before.reverse ↔ s = before ++ c :: after :=
    fun c => List.reverse_eq_iff.trans (by simp)
  have hsplit : splitAtLast sep s = some (before, after) ↔
      splitAtFirst (· == sep) s.reverse = some (after.reverse, before.reverse) := by
    rw [splitAtLast, Option.map_eq_some_iff]
    constructor
    · rintro ⟨⟨last, first⟩, h, hp⟩
      obtain ⟨rfl, rfl⟩ := Prod.mk.inj hp
      rwa [List.reverse_reverse, List.reverse_reverse]
    · intro h
      exact ⟨_, h, by rw [List.reverse_reverse, List.reverse_reverse]⟩
  rw [hsplit, splitAtFirst_eq_some_iff]
  simp only [hreverse, List.mem_reverse, beq_iff_eq, beq_eq_false_iff_ne]
  constructor
  · rintro ⟨c, hs, rfl, hafter⟩
    exact ⟨hs, fun hmem => hafter c hmem rfl⟩
  · rintro ⟨hs, hafter⟩
    exact ⟨sep, hs, rfl, fun c hc heq => hafter (heq ▸ hc)⟩

end RecipeBook.Text
