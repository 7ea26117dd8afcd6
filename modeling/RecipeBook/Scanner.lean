/-!
# Reading text character by character

The functions here take what is left of a text and give what is left after them. A backslash takes
the next character as it is, so that a text can hold any of the characters that would end it; a
backslash at the very end stands for nothing.
-/

namespace RecipeBook.Scanner

/-- Drops characters of the class from the front. -/
def skip (chars : List Char) (s : List Char) : List Char := s.dropWhile chars.contains

/-- Reads until one of the `ends` comes that no backslash takes, and leaves it there. -/
def scanUntil (ends : List Char) : List Char → List Char × List Char
  | [] => ([], [])
  | [c] => if c = '\\' then ([], []) else if ends.contains c then ([], [c]) else ([c], [])
  | c :: d :: r =>
    if c = '\\' then
      let p := scanUntil ends r
      (d :: p.1, p.2)
    else if ends.contains c then ([], c :: d :: r)
    else
      let p := scanUntil ends (d :: r)
      (c :: p.1, p.2)

theorem length_scanUntil_le (ends s : List Char) : (scanUntil ends s).2.length ≤ s.length := by
  fun_induction scanUntil ends s with
  | case1 | case2 | case3 | case4 | case6 => simp
  | case5 d r p ih => exact Nat.le_succ_of_le (Nat.le_succ_of_le ih)
  | case7 c d r _ _ p ih => exact Nat.le_succ_of_le ih

theorem length_skip_le (chars s : List Char) : (skip chars s).length ≤ s.length :=
  (List.dropWhile_sublist _).length_le

end RecipeBook.Scanner
