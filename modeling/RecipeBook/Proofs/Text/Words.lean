import RecipeBook.Proofs.Boundary
import RecipeBook.Text.Blank

/-!
# The words of a text

`IsWord s w` says that the text has the word without cutting it up: `w` is a run of characters that
are not blank, and what stands right before and right behind it, if anything, is blank. `words` gives
exactly these (`mem_words_iff`), because a blank character parts the words of a text
(`words_append_blank`).
-/

namespace RecipeBook.Text

/-- A run of characters that are not blank, which cannot be made longer. -/
def IsWord (s w : List Char) : Prop :=
  ∃ before after, s = before ++ (w ++ after) ∧ w ≠ [] ∧ (∀ c ∈ w, isBlank c = false) ∧
    (∀ c ∈ before.getLast?, isBlank c) ∧ ∀ c ∈ after.head?, isBlank c

variable {c : Char} {s r w : List Char}

theorem words_append_blank (hc : isBlank c) (s r : List Char) :
    words (s ++ c :: r) = words s ++ words r := by
  fun_induction words s with
  | case1 => exact words_cons_of_blank hc r
  | case2 d s hd ih => rw [List.cons_append, words_cons_of_blank hd, ih]
  | case3 d s hd ih =>
    have hnot : ∀ e ∈ (c :: r).head?, (!isBlank e) = false := by simp [hc]
    rw [List.cons_append, words, if_neg hd, takeWhile_append_of_head? hnot,
      dropWhile_append_of_head? hnot, ih, List.cons_append]

theorem words_of_run (hne : w ≠ []) (hw : ∀ c ∈ w, isBlank c = false) : words w = [w] := by
  obtain ⟨c, r, rfl⟩ := List.exists_cons_of_ne_nil hne
  have hr : ∀ d ∈ r, !isBlank d := fun d hd => by simp [hw d (List.mem_cons_of_mem c hd)]
  rw [words, if_neg (by simp [hw]), List.takeWhile_eq_self_iff.2 hr, List.dropWhile_eq_nil_iff.2 hr,
    words_nil]

theorem IsWord.mem_words (h : IsWord s w) : w ∈ words s := by
  obtain ⟨before, after, rfl, hne, hw, hbefore, hafter⟩ := h
  have hrun : w ∈ words (w ++ after) := by
    cases after with
    | nil => rw [List.append_nil, words_of_run hne hw]; exact List.mem_singleton_self w
    | cons c after =>
      rw [words_append_blank (hafter c rfl), words_of_run hne hw]
      exact List.mem_cons_self
  rcases List.eq_nil_or_concat before with rfl | ⟨before, c, rfl⟩
  · exact hrun
  · rw [List.concat_append, words_append_blank (hbefore c (by simp))]
    exact List.mem_append_right _ hrun

/-- A word is still one behind a text that ends with a blank character, or before a blank one. -/
theorem IsWord.append_left (h : IsWord r w)
    (hs : (∀ c ∈ s.getLast?, isBlank c) ∨ ∀ c ∈ r.head?, isBlank c) : IsWord (s ++ r) w := by
  obtain ⟨before, after, rfl, hne, hw, hbefore, hafter⟩ := h
  refine ⟨s ++ before, after, by rw [List.append_assoc], hne, hw, fun c hc => ?_, hafter⟩
  rcases List.eq_nil_or_concat before with rfl | ⟨before, d, rfl⟩
  · rw [List.append_nil] at hc
    rcases hs with hs | hs
    · exact hs c hc
    -- the word itself stands at the front of `r`, and it does not begin with a blank character
    · obtain ⟨d, w, rfl⟩ := List.exists_cons_of_ne_nil hne
      have hd := hs d rfl
      rw [hw d List.mem_cons_self] at hd
      cases hd
  · exact hbefore c (by simpa using hc)

theorem isWord_of_mem_words (h : w ∈ words s) : IsWord s w := by
  fun_induction words s with
  | case1 => cases h
  | case2 c r hc ih =>
    have hlast : ∀ d ∈ [c].getLast?, isBlank d := by simpa using hc
    exact (ih h).append_left (s := [c]) (.inl hlast)
  | case3 c r hc ih =>
    have hsplit : c :: r = (c :: r.takeWhile (!isBlank ·)) ++ r.dropWhile (!isBlank ·) := by
      rw [List.cons_append, List.takeWhile_append_dropWhile]
    have hhead : ∀ d ∈ (r.dropWhile (!isBlank ·)).head?, isBlank d := by
      intro d hd
      simpa using head?_dropWhile_eq_false (!isBlank ·) r d hd
    rw [hsplit]
    rcases List.mem_cons.1 h with rfl | h
    · refine ⟨[], _, rfl, List.cons_ne_nil _ _, fun d hd => ?_, by simp, hhead⟩
      rcases List.mem_cons.1 hd with rfl | hd
      · simpa using hc
      · simpa using List.mem_takeWhile_imp hd
    · exact (ih h).append_left (.inr hhead)

theorem mem_words_iff : w ∈ words s ↔ IsWord s w := ⟨isWord_of_mem_words, IsWord.mem_words⟩

end RecipeBook.Text
