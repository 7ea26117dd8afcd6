import Mathlib.Data.List.Basic
import Mathlib.Data.List.Induction
import Mathlib.Data.List.Nodup

/-!
# Elements in the order of their first occurrence

`List.eraseDups` keeps the first occurrence of each element. The lemmas here say what it does when
one more element comes at the end, which is how a list of occurrences grows while it is read.
-/

namespace RecipeBook

variable {α : Type*} {l : List α} {a b : α}

theorem nodup_concat_iff : (l ++ [a]).Nodup ↔ a ∉ l ∧ l.Nodup := by
  rw [← List.concat_eq_append, List.nodup_concat]

theorem exists_split_of_nodup (h : l.Nodup) (ha : a ∈ l) :
    ∃ as bs, l = as ++ a :: bs ∧ a ∉ as ∧ a ∉ bs := by
  obtain ⟨as, bs, rfl⟩ := List.append_of_mem ha
  rw [List.nodup_middle, List.nodup_cons, List.mem_append, not_or] at h
  exact ⟨as, bs, rfl, h.1⟩

theorem filter_ne_eq_self [DecidableEq α] (h : a ∉ l) : l.filter (· ≠ a) = l :=
  List.filter_eq_self.2 fun _ hb => decide_eq_true (ne_of_mem_of_not_mem hb h)

variable [BEq α] [LawfulBEq α]

theorem eraseDups_concat_of_mem (h : a ∈ l) : (l ++ [a]).eraseDups = l.eraseDups := by
  rw [List.eraseDups_append]
  simp [List.removeAll, h]

theorem eraseDups_concat_of_not_mem (h : a ∉ l) : (l ++ [a]).eraseDups = l.eraseDups ++ [a] := by
  rw [List.eraseDups_append]
  simp [List.removeAll, h, List.eraseDups_cons]

theorem nodup_eraseDups (l : List α) : l.eraseDups.Nodup := by
  induction l using List.reverseRecOn with
  | nil => exact List.nodup_nil
  | append_singleton l a ih =>
    by_cases ha : a ∈ l
    · rw [eraseDups_concat_of_mem ha]; exact ih
    · rw [eraseDups_concat_of_not_mem ha, nodup_concat_iff, List.mem_eraseDups]
      exact ⟨ha, ih⟩

/-- The elements stand in the order of the places at which they occur first. -/
theorem pairwise_idxOf_eraseDups (l : List α) :
    l.eraseDups.Pairwise fun a b => l.idxOf a < l.idxOf b := by
  induction l using List.reverseRecOn with
  | nil => exact List.Pairwise.nil
  | append_singleton l a ih =>
    have hold : l.eraseDups.Pairwise fun b c => (l ++ [a]).idxOf b < (l ++ [a]).idxOf c := by
      refine ih.imp_of_mem fun hb hc hbc => ?_
      rw [List.idxOf_append_of_mem (List.mem_eraseDups.1 hb),
        List.idxOf_append_of_mem (List.mem_eraseDups.1 hc)]
      exact hbc
    by_cases ha : a ∈ l
    · rw [eraseDups_concat_of_mem ha]; exact hold
    · rw [eraseDups_concat_of_not_mem ha]
      refine List.pairwise_append.2 ⟨hold, List.pairwise_singleton _ _, fun b hb c hc => ?_⟩
      rw [List.mem_singleton.1 hc, List.idxOf_append_of_notMem ha,
        List.idxOf_append_of_mem (List.mem_eraseDups.1 hb)]
      have := List.idxOf_lt_length_of_mem (List.mem_eraseDups.1 hb)
      omega

end RecipeBook
