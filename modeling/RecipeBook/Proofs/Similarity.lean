import Mathlib.Algebra.Order.Field.Basic
import Mathlib.Algebra.Order.Ring.Rat
import RecipeBook.Proofs.StableSort
import RecipeBook.Similarity

/-!
# The order of suggestions

Candidates are ranked by the share of letters in which they differ from the word, and equally near
ones by name (`rankLE_iff`). That is a total order of the candidates, so that the suggestions are
the same in whatever order the candidates come (`closeMatches_eq_of_perm`).
-/

namespace RecipeBook.Similarity

/-- The share of the longer word's letters in which the words differ. Empty words do not differ. -/
def difference (word candidate : String) : ℚ :=
  (Match.of word candidate).distance / (Match.of word candidate).size

/-- Candidate `a` goes before `b` or is the same. -/
def rankLE (word a b : String) : Bool := (Match.of word a).before (.of word b)

/-- The candidate agrees with the word in at least four fifths of the letters. -/
def isCloseTo (word candidate : String) : Bool := (Match.of word candidate).isClose

variable {word a b c : String} {xs ys : List String}

theorem editDistance_nil (b : List Char) : editDistance [] b = b.length := by
  simp [editDistance, List.range_succ]

/-- From no letters, all letters of the candidate have to be inserted. -/
theorem of_empty (c : String) : Match.of "" c = ⟨c, c.length, c.length⟩ := by
  simp [Match.of, editDistance_nil, String.length_toList]

theorem size_pos (hword : word ≠ "") (c : String) : 0 < (Match.of word c).size := by
  have hlength : word.length ≠ 0 := fun h => hword (String.length_eq_zero_iff.1 h)
  exact lt_max_of_lt_left (Nat.pos_of_ne_zero hlength)

theorem empty_le (c : String) : "" ≤ c := fun h => List.not_lt_nil _ h

theorem difference_empty (c : String) : difference "" c = if c = "" then 0 else 1 := by
  rw [difference, of_empty]
  split_ifs with hc
  · simp [hc]
  · have hlength : (c.length : ℚ) ≠ 0 := by simpa using hc
    exact div_self hlength

theorem rankLE_iff : rankLE word a b ↔ difference word a < difference word b ∨
    difference word a = difference word b ∧ a ≤ b := by
  by_cases hword : word = ""
  · -- nothing but the empty word is nearer than others to the empty word, and it is first by name
    subst hword
    have hrank : rankLE "" a b ↔ a ≤ b := by
      simp [rankLE, Match.before, of_empty, Nat.mul_comm]
    rw [hrank, difference_empty, difference_empty]
    by_cases ha : a = ""
    · subst ha
      by_cases hb : b = "" <;> simp [hb, empty_le]
    · by_cases hb : b = ""
      · have hnot : ¬ a ≤ "" := fun hle => ha (String.le_antisymm hle (empty_le a))
        simp [ha, hb, hnot]
      · simp [ha, hb]
  · have hpos : ∀ c, 0 < ((Match.of word c).size : ℚ) := fun c => Nat.cast_pos.2 (size_pos hword c)
    rw [difference, difference, div_lt_div_iff₀ (hpos a) (hpos b),
      div_eq_div_iff (hpos a).ne' (hpos b).ne']
    simp only [rankLE, Match.before, Bool.or_eq_true, Bool.and_eq_true, decide_eq_true_eq, beq_iff_eq]
    norm_cast

theorem rankLE_trans (word a b c : String) (hab : rankLE word a b) (hbc : rankLE word b c) :
    rankLE word a c := by
  rw [rankLE_iff] at hab hbc ⊢
  rcases hab with hab | ⟨hab, hab'⟩
  · rcases hbc with hbc | ⟨hbc, -⟩
    · exact .inl (hab.trans hbc)
    · exact .inl (hbc ▸ hab)
  · rcases hbc with hbc | ⟨hbc, hbc'⟩
    · exact .inl (hab ▸ hbc)
    · exact .inr ⟨hab.trans hbc, String.le_trans hab' hbc'⟩

theorem rankLE_total (word a b : String) : rankLE word a b || rankLE word b a := by
  rw [Bool.or_eq_true, rankLE_iff, rankLE_iff]
  rcases lt_trichotomy (difference word a) (difference word b) with h | h | h
  · exact .inl (.inl h)
  · exact (String.le_total a b).imp (fun hle => .inr ⟨h, hle⟩) fun hle => .inr ⟨h.symm, hle⟩
  · exact .inr (.inl h)

theorem rankLE_antisymm (word a b : String) (hab : rankLE word a b) (hba : rankLE word b a) : a = b := by
  rw [rankLE_iff] at hab hba
  rcases hab with hab | ⟨hab, hle⟩
  · rcases hba with hba | ⟨hba, -⟩
    · exact absurd hba hab.asymm
    · exact absurd hab hba.le.not_gt
  · rcases hba with hba | ⟨-, hge⟩
    · exact absurd hba hab.le.not_gt
    · exact String.le_antisymm hle hge

/-- The close candidates, ranked. -/
theorem closeMatches_eq (word : String) (xs : List String) : closeMatches word xs =
    ((xs.filter (isCloseTo word)).mergeSort (rankLE word)).take maxSuggestions := by
  have hcandidates : ∀ xs : List String, (xs.map (Match.of word)).map Match.candidate = xs := fun xs => by
    rw [List.map_map]
    exact List.map_id xs
  have hsort : ((xs.filter (isCloseTo word)).map (Match.of word)).mergeSort Match.before =
      ((xs.filter (isCloseTo word)).mergeSort (rankLE word)).map (Match.of word) := by
    refine (List.map_mergeSort ?_).symm
    intro a _ b _
    rfl
  rw [closeMatches, List.filter_map]
  change List.map _ (List.take _ (((xs.filter (isCloseTo word)).map (Match.of word)).mergeSort _)) = _
  rw [hsort, ← List.map_take, hcandidates]

theorem closeMatches_eq_of_perm (word : String) (h : xs.Perm ys) :
    closeMatches word xs = closeMatches word ys := by
  rw [closeMatches_eq, closeMatches_eq, mergeSort_eq_of_perm (rankLE_trans word) (rankLE_total word)
    (rankLE_antisymm word) (h.filter (isCloseTo word))]

end RecipeBook.Similarity
