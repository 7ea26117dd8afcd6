import Mathlib.Algebra.GroupWithZero.Nat
import Mathlib.Algebra.Order.BigOperators.Group.List
import Mathlib.Algebra.Order.Group.Nat
import RecipeBook.Proofs.Query.Written
import RecipeBook.Proofs.Scanner.Extent

/-!
# How much of a text its terms take

Every term is taken off the front of a text, with at least one character, and is no longer than what is
taken with it (`exists_taken_of_term?`). So it is with terms that are taken one after the other
(`Taken.exists_append`), of which there are therefore no more than characters. Reading a query takes
terms until there are no more, and makes its clauses of some of them, in order (`exists_takesAll`).
-/

namespace RecipeBook.Query

/-- The terms that are taken off the front of a text, one after the other, and what is left then. -/
inductive Taken : List Char → List (List Char) → List Char → Prop
  | nil (s : List Char) : Taken s [] s
  | cons {s t r : List Char} {ts : List (List Char)} {rest : List Char}
      (h : term? s = some (t, r)) (hrest : Taken r ts rest) : Taken s (t :: ts) rest

/-- The terms are all that can be taken off a text. -/
def TakesAll (s : List Char) (ts : List (List Char)) : Prop :=
  ∃ rest, Taken s ts rest ∧ term? rest = none

variable {s t rest : List Char} {ts : List (List Char)}

/-! ### What a term takes -/

theorem exists_append_of_term? (h : term? s = some (t, rest)) :
    ∃ taken, taken ++ rest = s ∧ t.length ≤ taken.length := by
  have hs : s.takeWhile separators.contains ++ Scanner.skip separators s = s :=
    List.takeWhile_append_dropWhile
  rw [term?] at h
  split at h
  · cases h
  · next c r hskip =>
    rw [hskip] at hs
    split at h
    · obtain ⟨rfl, rfl⟩ := Prod.mk.inj (Option.some.inj h)
      obtain ⟨raw, hraw, ht⟩ := Scanner.exists_extent_scanUntil [c] r
      -- the closing quotation mark, if there is one, is taken too
      have hclosed := List.take_append_drop 1 (Scanner.scanUntil [c] r).2
      rw [List.drop_one] at hclosed
      refine ⟨s.takeWhile separators.contains ++ c :: raw ++
        (Scanner.scanUntil [c] r).2.take 1, ?_, ?_⟩
      · rw [List.append_assoc, hclosed, List.append_assoc, List.cons_append, hraw.append_eq, hs]
      · have hle := Scanner.length_unescape_le raw
        rw [ht]
        simp only [List.length_append, List.length_cons]
        omega
    · obtain ⟨raw, hraw, ht⟩ := Scanner.exists_extent_scanUntil termEnds (c :: r)
      rw [Option.some.inj h] at hraw
      obtain rfl : t = Scanner.unescape raw := by rw [← ht, Option.some.inj h]
      refine ⟨s.takeWhile separators.contains ++ raw, ?_, ?_⟩
      · rw [List.append_assoc, hraw.append_eq, hs]
      · have hle := Scanner.length_unescape_le raw
        rw [List.length_append]
        omega

/-- A term is taken with at least one character, and is no longer than what is taken. -/
theorem exists_taken_of_term? (h : term? s = some (t, rest)) :
    ∃ taken, taken ≠ [] ∧ taken ++ rest = s ∧ t.length ≤ taken.length := by
  obtain ⟨taken, htaken, hle⟩ := exists_append_of_term? h
  refine ⟨taken, ?_, htaken, hle⟩
  rintro rfl
  have hlt := length_of_term h
  rw [← htaken, List.nil_append] at hlt
  exact Nat.lt_irrefl _ hlt

/-- There are no more terms, and no more characters in them, than characters that were taken. -/
theorem Taken.exists_append (h : Taken s ts rest) : ∃ taken, taken ++ rest = s ∧
    ts.length ≤ taken.length ∧ (ts.map List.length).sum ≤ taken.length := by
  induction h with
  | nil s => exact ⟨[], rfl, Nat.le_refl 0, Nat.le_refl 0⟩
  | cons hterm _ ih =>
    obtain ⟨taken, rfl, hcount, hsum⟩ := ih
    obtain ⟨front, hne, rfl, hle⟩ := exists_taken_of_term? hterm
    have hpos := List.length_pos_iff.2 hne
    refine ⟨front ++ taken, List.append_assoc .., ?_, ?_⟩
    · rw [List.length_cons, List.length_append]
      omega
    · rw [List.map_cons, List.sum_cons, List.length_append]
      omega

/-! ### What a query takes -/

theorem exists_keyword_of_maker? {make : String → Query} (h : maker? t rest = some make) :
    ∃ k : Keyword, make = k.make := by
  rw [maker?] at h
  split at h
  · simp only [keyword?] at h
    split_ifs at h
    · exact ⟨.tag, (Option.some.inj h).symm⟩
    · exact ⟨.ingredient, (Option.some.inj h).symm⟩
  · cases h

theorem ofList_ne_empty (ht : t ≠ []) : String.ofList t ≠ "" := by
  rwa [Ne, String.ofList_eq_empty_iff]

theorem TakesAll.of_none (h : term? s = none) : TakesAll s [] := ⟨s, .nil s, h⟩

theorem TakesAll.cons (h : term? s = some (t, rest)) (hrest : TakesAll rest ts) :
    TakesAll s (t :: ts) := by
  obtain ⟨left, htaken, hnone⟩ := hrest
  exact ⟨left, .cons h htaken, hnone⟩

/-- The clauses of a text are made of some of the terms that there are in it. -/
theorem exists_takesAll (s : List Char) : ∃ (cs : List Clause) (ts : List (List Char)),
    clauses s = cs.map Clause.query ∧ TakesAll s ts ∧
      (cs.map fun c => c.term.toList).Sublist ts := by
  fun_induction clauses s with
  | case1 s h => exact ⟨[], [], rfl, .of_none h, .slnil⟩
  | case2 s rest h _ ih =>
    obtain ⟨cs, ts, hcs, hts, hsub⟩ := ih
    exact ⟨cs, _, hcs, hts.cons h, hsub.cons _⟩
  | case3 s t rest h _ hne _ ih =>
    obtain ⟨cs, ts, hcs, hts, hsub⟩ := ih
    refine ⟨⟨none, .ofList t, ofList_ne_empty hne⟩ :: cs, _, ?_, hts.cons h, ?_⟩
    · rw [hcs]
      rfl
    · rw [List.map_cons, String.toList_ofList]
      exact hsub.cons_cons t
  | case4 s t rest h _ _ _ _ hnone => exact ⟨[], _, rfl, .cons h (.of_none hnone), .cons _ .slnil⟩
  | case5 s t rest h _ _ _ _ rest' hvalue _ ih =>
    obtain ⟨cs, ts, hcs, hts, hsub⟩ := ih
    exact ⟨cs, _, hcs, (hts.cons hvalue).cons h, (hsub.cons _).cons _⟩
  | case6 s t rest h _ _ make hmake value rest' hvalue _ hne ih =>
    obtain ⟨cs, ts, hcs, hts, hsub⟩ := ih
    obtain ⟨k, rfl⟩ := exists_keyword_of_maker? hmake
    refine ⟨⟨some k, .ofList value, ofList_ne_empty hne⟩ :: cs, _, ?_, (hts.cons hvalue).cons h, ?_⟩
    · rw [hcs]
      rfl
    · rw [List.map_cons, String.toList_ofList]
      exact (hsub.cons_cons value).cons t

theorem sum_length_le {cs : List Clause} (h : (cs.map fun c => c.term.toList).Sublist ts) :
    (cs.map fun c => c.term.length).sum ≤ (ts.map List.length).sum := by
  have hlength : (cs.map fun c => c.term.length) =
      (cs.map fun c => c.term.toList).map List.length := by
    rw [List.map_map]
    exact List.map_congr_left fun c _ => String.length_toList.symm
  rw [hlength]
  exact (h.map List.length).sum_le_sum fun _ _ => Nat.zero_le _

/-- Terms are taken off a text with at least one character each, so that there is an end to them, and
reading a query takes them all. It is a flat list of clauses with terms that are not empty, which
together are no longer than the text. -/
theorem read_takes_terms :
    (∀ s t rest, term? s = some (t, rest) →
      ∃ taken, taken ≠ [] ∧ taken ++ rest = s ∧ t.length ≤ taken.length) ∧
    (∀ s ts rest, Taken s ts rest → ts.length ≤ s.length) ∧
    ∀ s : String, ∃ (cs : List Clause) (ts : List (List Char)), read s = .all (cs.map Clause.query) ∧
      TakesAll s.toList ts ∧ (cs.map fun c => c.term.toList).Sublist ts ∧
      (cs.map fun c => c.term.length).sum ≤ s.length := by
  refine ⟨fun s t rest => exists_taken_of_term?, fun s ts rest h => ?_, fun s => ?_⟩
  · obtain ⟨taken, rfl, hcount, -⟩ := h.exists_append
    rw [List.length_append]
    omega
  · obtain ⟨cs, ts, hcs, hts, hsub⟩ := exists_takesAll s.toList
    refine ⟨cs, ts, congrArg Query.all hcs, hts, hsub, ?_⟩
    obtain ⟨rest, htaken, -⟩ := hts
    obtain ⟨taken, heq, -, hsum⟩ := htaken.exists_append
    calc (cs.map fun c => c.term.length).sum ≤ (ts.map List.length).sum := sum_length_le hsub
      _ ≤ taken.length := hsum
      _ ≤ s.length := by
        rw [← String.length_toList, ← heq, List.length_append]
        exact Nat.le_add_right _ _

/-- An empty term behind a keyword, and a quotation mark that is not closed. -/
theorem read_takes_terms_unclosed : ∃ ts,
    Taken "tag:'' a\\ b\"c".toList ts [] ∧ ts = ["tag", "", "a b", "c"].map String.toList ∧
    ts.length ≤ "tag:'' a\\ b\"c".toList.length ∧
    term? "tag:'' a\\ b\"c".toList = some ("tag".toList, ":'' a\\ b\"c".toList) ∧
    ∃ taken, taken ≠ [] ∧ taken ++ ":'' a\\ b\"c".toList = "tag:'' a\\ b\"c".toList ∧
      "tag".toList.length ≤ taken.length := by
  obtain ⟨hterm, hcount, -⟩ := read_takes_terms
  have htag : term? "tag:'' a\\ b\"c".toList = some ("tag".toList, ":'' a\\ b\"c".toList) := by
    decide +kernel
  have htaken : Taken "tag:'' a\\ b\"c".toList (["tag", "", "a b", "c"].map String.toList) [] :=
    .cons htag (.cons (r := " a\\ b\"c".toList) (by decide +kernel)
      (.cons (r := "\"c".toList) (by decide +kernel) (.cons (by decide +kernel) (.nil []))))
  exact ⟨_, htaken, rfl, hcount _ _ _ htaken, htag, hterm _ _ _ htag⟩

end RecipeBook.Query
