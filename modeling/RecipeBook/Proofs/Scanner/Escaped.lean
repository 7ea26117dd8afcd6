import RecipeBook.Scanner

/-!
# Escaped text

`escape ends t` is `t` with a backslash before every backslash and before every character that would
end it. Reading takes it back and then goes on behind it (`scanUntil_escape_append`), whatever comes
there.
-/

namespace RecipeBook.Scanner

/-- The text with a backslash before every character that has a meaning of its own. -/
def escape (ends : List Char) (t : List Char) : List Char :=
  t.flatMap fun c => if c = '\\' ∨ c ∈ ends then ['\\', c] else [c]

variable {ends : List Char} {c : Char}

theorem scanUntil_backslash (ends : List Char) (c : Char) (r : List Char) :
    scanUntil ends ('\\' :: c :: r) = (c :: (scanUntil ends r).1, (scanUntil ends r).2) := by
  rw [scanUntil, if_pos rfl]

theorem scanUntil_plain (hb : c ≠ '\\') (hc : c ∉ ends) (r : List Char) :
    scanUntil ends (c :: r) = (c :: (scanUntil ends r).1, (scanUntil ends r).2) := by
  cases r <;> simp [scanUntil, hb, hc]

theorem scanUntil_end (hb : c ≠ '\\') (hc : c ∈ ends) (r : List Char) :
    scanUntil ends (c :: r) = ([], c :: r) := by
  cases r <;> simp [scanUntil, hb, hc]

theorem scanUntil_plain_append {t : List Char} (ht : ∀ c ∈ t, c ≠ '\\' ∧ c ∉ ends) (r : List Char) :
    scanUntil ends (t ++ r) = (t ++ (scanUntil ends r).1, (scanUntil ends r).2) := by
  induction t with
  | nil => rfl
  | cons c t ih =>
    obtain ⟨hb, hc⟩ := ht c List.mem_cons_self
    rw [List.cons_append, scanUntil_plain hb hc, ih fun d hd => ht d (List.mem_cons_of_mem _ hd)]
    rfl

/-- Escaped text is read back, and reading goes on behind it. -/
theorem scanUntil_escape_append (ends t r : List Char) :
    scanUntil ends (escape ends t ++ r) = (t ++ (scanUntil ends r).1, (scanUntil ends r).2) := by
  induction t with
  | nil => rfl
  | cons c t ih =>
    rw [escape, List.flatMap_cons, List.append_assoc, ← escape]
    by_cases hc : c = '\\' ∨ c ∈ ends
    · rw [if_pos hc, List.cons_append, List.cons_append, List.nil_append, scanUntil_backslash, ih]
      rfl
    · obtain ⟨hb, he⟩ := not_or.1 hc
      rw [if_neg hc, List.cons_append, List.nil_append, scanUntil_plain hb he, ih]
      rfl

end RecipeBook.Scanner
