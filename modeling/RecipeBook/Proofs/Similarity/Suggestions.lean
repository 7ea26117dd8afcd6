import Mathlib.Tactic.Linarith
import RecipeBook.Proofs.Similarity
import RecipeBook.Proofs.Similarity.EditDistance

/-!
# What is suggested for a word

The candidates that are similar enough to a word have one ranking (`IsRanking.unique`): most similar
first, and equally similar ones by name, each as often as it comes. `closeMatches` lists the first three
of it (`suggests_closeMatches`), so that nothing that is left out is better than a suggestion, and the
order in which the candidates come makes no difference. Words are as similar the one way as the other
(`similarity_comm`), but of two similar words one may be suggested for the other and not the other way.
-/

namespace RecipeBook.Similarity

/-- The share of the longer word's letters in which the words agree. Empty words agree. -/
def similarity (word candidate : String) : ℚ := 1 - difference word candidate

/-- Words that are less similar are not taken for one another. -/
def cutoff : ℚ := 4 / 5

/-- Candidate `a` is more similar to the word than `b`, or as similar and not behind it by name. -/
def Ranks (word a b : String) : Prop :=
  similarity word b < similarity word a ∨ similarity word a = similarity word b ∧ a ≤ b

/-- The candidates that are similar enough, each as often as it comes, the best first. -/
structure IsRanking (word : String) (xs ranked : List String) : Prop where
  perm : ranked.Perm (xs.filter fun x => cutoff ≤ similarity word x)
  pairwise : ranked.Pairwise (Ranks word)

/-- For the word, `ys` are suggested out of the candidates `xs`. -/
structure Suggests (word : String) (xs ys : List String) : Prop where
  exists_ranking : ∃ ranked, IsRanking word xs ranked
  eq_take : ∀ ranked, IsRanking word xs ranked → ys = ranked.take 3
  length_eq : ys.length = min 3 (xs.countP fun x => cutoff ≤ similarity word x)
  qualifies : ∀ y ∈ ys, y ∈ xs ∧ cutoff ≤ similarity word y
  ranked : ys.Pairwise (Ranks word)
  /-- No candidate that is similar enough goes before a suggestion if it, or one more of it, is left
  out. -/
  best : ∀ y ∈ ys, ∀ z, cutoff ≤ similarity word z → ys.count z < xs.count z → Ranks word y z
  count_le : ∀ y, ys.count y ≤ xs.count y
  /-- Only the last of the suggestions can be left out once more. -/
  count_eq : ∀ y ∈ ys, ∀ z ∈ ys, y ≠ z → Ranks word y z → ys.count y = xs.count y
  perm_of_few : xs.countP (fun x => cutoff ≤ similarity word x) ≤ 3 →
    ys.Perm (xs.filter fun x => cutoff ≤ similarity word x)
  stable : ∀ xs', xs'.Perm xs → closeMatches word xs' = ys

variable {word a b c : String} {xs ranked : List String}

theorem eq_empty_of_size_eq_zero (h : (Match.of word c).size = 0) : word = "" ∧ c = "" := by
  have hsize : max word.length c.length = 0 := h
  have hword : word.length = 0 := by omega
  have hc : c.length = 0 := by omega
  exact ⟨String.length_eq_zero_iff.1 hword, String.length_eq_zero_iff.1 hc⟩

theorem isCloseTo_iff : isCloseTo word c ↔ cutoff ≤ similarity word c := by
  by_cases hsize : (Match.of word c).size = 0
  · obtain ⟨rfl, rfl⟩ := eq_empty_of_size_eq_zero hsize
    have hclose : isCloseTo "" "" := by
      rw [isCloseTo, of_empty]
      rfl
    have hcutoff : cutoff ≤ similarity "" "" := by
      rw [similarity, difference_empty, if_pos rfl, cutoff]
      norm_num
    exact iff_of_true hclose hcutoff
  · have hpos : (0 : ℚ) < (Match.of word c).size := Nat.cast_pos.2 (Nat.pos_of_ne_zero hsize)
    have hshare : cutoff ≤ similarity word c ↔ difference word c ≤ 1 / 5 := by
      rw [similarity, cutoff]
      constructor <;> intro h <;> linarith
    rw [hshare, difference, div_le_iff₀ hpos, isCloseTo, Match.isClose, decide_eq_true_eq,
      ← Nat.cast_le (α := ℚ), Nat.cast_mul]
    push_cast
    constructor <;> intro h <;> linarith

theorem rankLE_iff_ranks : rankLE word a b ↔ Ranks word a b := by
  rw [rankLE_iff, Ranks, similarity, similarity, sub_lt_sub_iff_left, sub_right_inj]

theorem Ranks.antisymm (hab : Ranks word a b) (hba : Ranks word b a) : a = b :=
  rankLE_antisymm word a b (rankLE_iff_ranks.2 hab) (rankLE_iff_ranks.2 hba)

theorem filter_isCloseTo (word : String) (xs : List String) :
    xs.filter (isCloseTo word) = xs.filter fun x => cutoff ≤ similarity word x := by
  refine List.filter_congr fun x _ => ?_
  rw [Bool.eq_iff_iff, isCloseTo_iff, decide_eq_true_eq]

/-! ### The ranking -/

theorem isRanking_mergeSort (word : String) (xs : List String) :
    IsRanking word xs ((xs.filter (isCloseTo word)).mergeSort (rankLE word)) where
  perm := by
    rw [← filter_isCloseTo]
    exact List.mergeSort_perm _ _
  pairwise := (List.pairwise_mergeSort (rankLE_trans word) (rankLE_total word) _).imp
    rankLE_iff_ranks.1

/-- There is no other ranking, as no two candidates go before each other. -/
theorem IsRanking.unique {ranked' : List String} (h : IsRanking word xs ranked)
    (h' : IsRanking word xs ranked') : ranked = ranked' := by
  have hperm : ranked.Perm ranked' := h.perm.trans h'.perm.symm
  exact hperm.eq_of_pairwise (fun a b _ _ => Ranks.antisymm) h.pairwise h'.pairwise

namespace IsRanking

theorem length_eq (h : IsRanking word xs ranked) :
    ranked.length = xs.countP fun x => cutoff ≤ similarity word x := by
  rw [h.perm.length_eq, List.countP_eq_length_filter]

theorem mem_iff (h : IsRanking word xs ranked) : c ∈ ranked ↔ c ∈ xs ∧ cutoff ≤ similarity word c := by
  rw [h.perm.mem_iff, List.mem_filter, decide_eq_true_eq]

theorem count_le (h : IsRanking word xs ranked) (c : String) : ranked.count c ≤ xs.count c := by
  rw [h.perm.count_eq]
  exact List.filter_sublist.count_le c

theorem count_eq (h : IsRanking word xs ranked) (hc : cutoff ≤ similarity word c) :
    ranked.count c = xs.count c := by
  rw [h.perm.count_eq]
  exact List.count_filter (decide_eq_true hc)

/-- What a cut of the ranking leaves out is not before what it takes. -/
theorem ranks_of_count_lt (h : IsRanking word xs ranked) {n : Nat} (ha : a ∈ ranked.take n)
    (hb : cutoff ≤ similarity word b) (hcount : (ranked.take n).count b < xs.count b) :
    Ranks word a b := by
  have hsplit : (ranked.take n).count b + (ranked.drop n).count b = xs.count b := by
    rw [← List.count_append, List.take_append_drop, h.count_eq hb]
  have hdrop : b ∈ ranked.drop n := List.count_pos_iff.1 (by omega)
  have hpairwise := h.pairwise
  rw [← List.take_append_drop n ranked, List.pairwise_append] at hpairwise
  exact hpairwise.2.2 a ha b hdrop

end IsRanking

theorem exists_isRanking (word : String) (xs : List String) :
    ∃ ranked, IsRanking word xs ranked ∧ closeMatches word xs = ranked.take 3 :=
  ⟨_, isRanking_mergeSort word xs, closeMatches_eq word xs⟩

theorem of_mem_closeMatches (h : c ∈ closeMatches word xs) : c ∈ xs ∧ cutoff ≤ similarity word c := by
  obtain ⟨ranked, hranked, hmatches⟩ := exists_isRanking word xs
  rw [hmatches] at h
  exact hranked.mem_iff.1 (List.mem_of_mem_take h)

theorem length_closeMatches_le (word : String) (xs : List String) :
    (closeMatches word xs).length ≤ 3 := by
  obtain ⟨ranked, -, hmatches⟩ := exists_isRanking word xs
  rw [hmatches]
  exact List.length_take_le 3 ranked

theorem closeMatches_eq_nil_iff :
    closeMatches word xs = [] ↔ ∀ x ∈ xs, ¬ cutoff ≤ similarity word x := by
  obtain ⟨ranked, hranked, hmatches⟩ := exists_isRanking word xs
  have hnil : closeMatches word xs = [] ↔ ranked = [] := by
    rw [hmatches, List.take_eq_nil_iff]
    simp
  rw [hnil, List.eq_nil_iff_forall_not_mem]
  simp only [hranked.mem_iff, not_and]

theorem similarity_comm (a b : String) : similarity a b = similarity b a := by
  have hdistance : (Match.of a b).distance = (Match.of b a).distance :=
    editDistance_comm a.toList b.toList
  have hsize : (Match.of a b).size = (Match.of b a).size := Nat.max_comm a.length b.length
  rw [similarity, similarity, difference, difference, hdistance, hsize]

/-- The first three of the ranking are suggested. -/
theorem suggests_closeMatches (word : String) (xs : List String) :
    Suggests word xs (closeMatches word xs) := by
  obtain ⟨ranked, hranked, hmatches⟩ := exists_isRanking word xs
  have hbest : ∀ y ∈ ranked.take 3, ∀ z, cutoff ≤ similarity word z →
      (ranked.take 3).count z < xs.count z → Ranks word y z :=
    fun y hy z hz => hranked.ranks_of_count_lt hy hz
  have hle : ∀ y, (ranked.take 3).count y ≤ xs.count y := fun y =>
    ((List.take_sublist 3 ranked).count_le y).trans (hranked.count_le y)
  rw [hmatches]
  exact {
    exists_ranking := ⟨ranked, hranked⟩
    eq_take := fun ranked' hranked' => by rw [hranked.unique hranked']
    length_eq := by rw [List.length_take, hranked.length_eq]
    qualifies := fun y hy => hranked.mem_iff.1 (List.mem_of_mem_take hy)
    ranked := hranked.pairwise.sublist (List.take_sublist 3 ranked)
    best := hbest
    count_le := hle
    count_eq := by
      intro y hy z hz hne hrank
      -- if one more `y` were left out, `z` would go before it as well
      by_contra hcount
      have hlt : (ranked.take 3).count y < xs.count y := Nat.lt_of_le_of_ne (hle y) hcount
      have hqualifies := (hranked.mem_iff.1 (List.mem_of_mem_take hy)).2
      exact hne (hrank.antisymm (hbest z hz y hqualifies hlt))
    perm_of_few := by
      intro hfew
      rw [← hranked.length_eq] at hfew
      rw [List.take_of_length_le hfew]
      exact hranked.perm
    stable := fun xs' hperm => (closeMatches_eq_of_perm word hperm).trans hmatches }

end RecipeBook.Similarity
