import Mathlib.Data.List.Basic
import Mathlib.Order.Bounds.Basic
import RecipeBook.Similarity

/-!
# The least number of edits

`Edits n a b` says that `n` letters are deleted, inserted or changed on the way from `a` to `b`, and
all others kept in their order. `editDistance` is the least such number (`isLeast_editDistance`), and
the same in both directions (`editDistance_comm`). It is computed row by row. What the rows hold are
the values of a recursion on the last letters (`foldl_nextRow`), which `leastEdits` does on reversed
words, where the last letters come first.
-/

namespace RecipeBook.Similarity

/-- With `n` edits, the first word becomes the second. -/
inductive Edits : Nat → List Char → List Char → Prop
  | nil : Edits 0 [] []
  | keep {n : Nat} {a b : List Char} (c : Char) (h : Edits n a b) : Edits n (c :: a) (c :: b)
  | delete {n : Nat} {a b : List Char} (c : Char) (h : Edits n a b) : Edits (n + 1) (c :: a) b
  | insert {n : Nat} {a b : List Char} (d : Char) (h : Edits n a b) : Edits (n + 1) a (d :: b)
  | change {n : Nat} {a b : List Char} (c d : Char) (h : Edits n a b) :
    Edits (n + 1) (c :: a) (d :: b)

/-- The least number of edits, by what becomes of the first letters. -/
def leastEdits : List Char → List Char → Nat
  | [], b => b.length
  | a, [] => a.length
  | c :: a, d :: b =>
    min (min (leastEdits (c :: a) b + 1) (leastEdits a (d :: b) + 1))
      (leastEdits a b + if c = d then 0 else 1)
termination_by a b => a.length + b.length

/-- The least numbers of edits from `p` to the words that arise when the letters of `w` are put, one
after the other, in front of `q`. -/
def editRow (p q : List Char) : List Char → List Nat
  | [] => [leastEdits p q]
  | d :: w => leastEdits p q :: editRow p (d :: q) w

variable {m n : Nat} {a b a' b' p q w : List Char} {c : Char}

/-! ### Ways to edit a word -/

namespace Edits

theorem symm (h : Edits n a b) : Edits n b a := by
  induction h with
  | nil => exact .nil
  | keep c _ ih => exact .keep c ih
  | delete c _ ih => exact .insert c ih
  | insert d _ ih => exact .delete d ih
  | change c d _ ih => exact .change d c ih

theorem append (h : Edits m a b) (h' : Edits n a' b') : Edits (m + n) (a ++ a') (b ++ b') := by
  induction h with
  | nil => rwa [Nat.zero_add]
  | keep c _ ih => exact .keep c ih
  | delete c _ ih => rw [Nat.add_right_comm]; exact .delete c ih
  | insert d _ ih => rw [Nat.add_right_comm]; exact .insert d ih
  | change c d _ ih => rw [Nat.add_right_comm]; exact .change c d ih

theorem reverse (h : Edits n a b) : Edits n a.reverse b.reverse := by
  induction h with
  | nil => exact .nil
  | keep c _ ih =>
    rw [List.reverse_cons, List.reverse_cons]
    exact ih.append (.keep c .nil)
  | @delete n a b c _ ih =>
    have h := ih.append (.delete c .nil)
    rwa [List.append_nil, ← List.reverse_cons] at h
  | @insert n a b d _ ih =>
    have h := ih.append (.insert d .nil)
    rwa [List.append_nil, ← List.reverse_cons] at h
  | change c d _ ih =>
    rw [List.reverse_cons, List.reverse_cons]
    exact ih.append (.change c d .nil)

theorem reverse_iff : Edits n a.reverse b.reverse ↔ Edits n a b := by
  constructor
  · intro h
    have h := h.reverse
    rwa [List.reverse_reverse, List.reverse_reverse] at h
  · exact reverse

theorem delete_all (a : List Char) : Edits a.length a [] := by
  induction a with
  | nil => exact .nil
  | cons c a ih => exact .delete c ih

end Edits

/-! ### The recursion on first letters -/

@[simp] theorem leastEdits_nil_left (b : List Char) : leastEdits [] b = b.length := by
  rw [leastEdits]

@[simp] theorem leastEdits_nil_right (a : List Char) : leastEdits a [] = a.length := by
  cases a with
  | nil => exact leastEdits_nil_left []
  | cons c a => rw [leastEdits]; exact List.cons_ne_nil c a

theorem leastEdits_cons_cons (c d : Char) (a b : List Char) : leastEdits (c :: a) (d :: b) =
    min (min (leastEdits (c :: a) b + 1) (leastEdits a (d :: b) + 1))
      (leastEdits a b + if c = d then 0 else 1) := by
  rw [leastEdits]

theorem leastEdits_delete_le (c : Char) (a b : List Char) :
    leastEdits (c :: a) b ≤ leastEdits a b + 1 := by
  cases b with
  | nil => simp
  | cons d b => rw [leastEdits_cons_cons]; omega

theorem leastEdits_insert_le (d : Char) (a b : List Char) :
    leastEdits a (d :: b) ≤ leastEdits a b + 1 := by
  cases a with
  | nil => simp
  | cons c a => rw [leastEdits_cons_cons]; omega

/-- There is no way with fewer edits. -/
theorem leastEdits_le (h : Edits n a b) : leastEdits a b ≤ n := by
  -- a way may delete a letter where the recursion keeps it, hence the two bounds above
  induction h with
  | nil => exact Nat.le_of_eq (leastEdits_nil_left [])
  | keep c _ ih =>
    rw [leastEdits_cons_cons, if_pos rfl]
    omega
  | delete c _ ih => exact Nat.le_trans (leastEdits_delete_le c _ _) (Nat.succ_le_succ ih)
  | insert d _ ih => exact Nat.le_trans (leastEdits_insert_le d _ _) (Nat.succ_le_succ ih)
  | change c d _ ih =>
    have hone : (if c = d then 0 else 1) ≤ 1 := by split <;> omega
    rw [leastEdits_cons_cons]
    omega

theorem edits_leastEdits (a b : List Char) : Edits (leastEdits a b) a b := by
  fun_induction leastEdits a b with
  | case1 b => exact (Edits.delete_all b).symm
  | case2 a => exact .delete_all a
  | case3 c a d b ihinsert ihdelete ihkeep =>
    -- a way of each of the three kinds; the minimum is the number of one of them
    have hinsert := Edits.insert d ihinsert
    have hdelete := Edits.delete c ihdelete
    have hkeep : Edits (leastEdits a b + if c = d then 0 else 1) (c :: a) (d :: b) := by
      split
      · next hc => rw [hc]; exact .keep d ihkeep
      · exact .change c d ihkeep
    rcases Nat.le_total (min (leastEdits (c :: a) b + 1) (leastEdits a (d :: b) + 1))
      (leastEdits a b + if c = d then 0 else 1) with h | h
    · rw [Nat.min_eq_left h]
      rcases Nat.le_total (leastEdits (c :: a) b + 1) (leastEdits a (d :: b) + 1) with h' | h'
      · rwa [Nat.min_eq_left h']
      · rwa [Nat.min_eq_right h']
    · rwa [Nat.min_eq_right h]

/-! ### The rows -/

theorem editRow_eq_cons (p q w : List Char) : ∃ row, editRow p q w = leastEdits p q :: row := by
  cases w with
  | nil => exact ⟨[], rfl⟩
  | cons d w => exact ⟨_, rfl⟩

theorem getLastD_editRow (p q w : List Char) (x : Nat) :
    (editRow p q w).getLastD x = leastEdits p (w.reverse ++ q) := by
  induction w generalizing q x with
  | nil => rfl
  | cons d w ih =>
    rw [editRow, List.getLastD_cons, ih, List.reverse_cons, List.append_assoc, List.singleton_append]

theorem editRow_nil (q w : List Char) : editRow [] q w = List.range' q.length (w.length + 1) := by
  induction w generalizing q with
  | nil => simp [editRow]
  | cons d w ih =>
    rw [editRow, ih, leastEdits_nil_left, List.length_cons, List.length_cons]
    exact List.range'_succ.symm

/-- The cells behind `(c :: p, q)` are those of the row of `c :: p`. -/
theorem nextCells_editRow (c : Char) (p q w : List Char) :
    leastEdits (c :: p) q :: nextCells c (leastEdits (c :: p) q) w (editRow p q w) =
      editRow (c :: p) q w := by
  induction w generalizing q with
  | nil => rw [editRow, editRow, nextCells]; simp
  | cons d w ih =>
    obtain ⟨row, hrow⟩ := editRow_eq_cons p (d :: q) w
    have hcell := leastEdits_cons_cons c d p q
    rw [editRow, editRow, ← ih (d :: q), hrow, nextCells, hcell]

theorem nextRow_editRow (c : Char) (p w : List Char) :
    nextRow w (editRow p [] w) c = editRow (c :: p) [] w := by
  have hfirst : (editRow p [] w).headD 0 + 1 = leastEdits (c :: p) [] := by
    obtain ⟨row, hrow⟩ := editRow_eq_cons p [] w
    rw [hrow]
    simp
  rw [nextRow, hfirst]
  exact nextCells_editRow c p [] w

/-- After some letters of the first word, the row holds the least numbers of edits from these to every
beginning of the second. -/
theorem foldl_nextRow (a p w : List Char) :
    a.foldl (nextRow w) (editRow p [] w) = editRow (a.reverse ++ p) [] w := by
  induction a generalizing p with
  | nil => rfl
  | cons c a ih =>
    rw [List.foldl_cons, nextRow_editRow, ih, List.reverse_cons, List.append_assoc,
      List.singleton_append]

theorem editDistance_eq (a b : List Char) : editDistance a b = leastEdits a.reverse b.reverse := by
  have hstart : List.range (b.length + 1) = editRow [] [] b := by
    rw [editRow_nil, List.range_eq_range']
    rfl
  rw [editDistance, hstart, foldl_nextRow, List.append_nil, getLastD_editRow, List.append_nil]

/-! ### The edit distance -/

theorem isLeast_editDistance (a b : List Char) : IsLeast {n | Edits n a b} (editDistance a b) := by
  rw [editDistance_eq]
  constructor
  · exact Edits.reverse_iff.1 (edits_leastEdits a.reverse b.reverse)
  · intro n hn
    exact leastEdits_le (Edits.reverse_iff.2 hn)

theorem editDistance_comm (a b : List Char) : editDistance a b = editDistance b a := by
  -- the rows are not symmetric, but what they compute is the least of the same numbers
  have hsame : {n | Edits n a b} = {n | Edits n b a} := Set.ext fun n => ⟨.symm, .symm⟩
  have hleast := isLeast_editDistance a b
  rw [hsame] at hleast
  exact hleast.unique (isLeast_editDistance b a)

end RecipeBook.Similarity
