/-!
# Blank characters, trimming and words

`isBlank` is the Unicode property White_Space. Text is trimmed of blank characters (`trim`) and cut
into words at them (`words`). A trimmed text has no blank character at either end, and a word is
never empty and holds no blank character.
-/

namespace RecipeBook.Text

/-- The Unicode property White_Space (25 characters). -/
def isBlank (c : Char) : Bool :=
  c == ' ' || ('\t' ≤ c && c ≤ '\r') || c == '\u0085' || c == '\u00a0' || c == '\u1680' ||
    ('\u2000' ≤ c && c ≤ '\u200a') || c == '\u2028' || c == '\u2029' || c == '\u202f' ||
    c == '\u205f' || c == '\u3000'

def trimStart (s : List Char) : List Char := s.dropWhile isBlank

def trimEnd (s : List Char) : List Char := (s.reverse.dropWhile isBlank).reverse

def trim (s : List Char) : List Char := trimEnd (trimStart s)

/-- A text of blank characters only, the empty one included. -/
def isBlankText (s : List Char) : Bool := s.all isBlank

/-- The maximal runs of characters that are not blank, in order. -/
def words : List Char → List (List Char)
  | [] => []
  | c :: r =>
    if isBlank c then words r
    else (c :: r.takeWhile (!isBlank ·)) :: words (r.dropWhile (!isBlank ·))
termination_by s => s.length
decreasing_by
  · simp
  · have := (List.dropWhile_sublist (!isBlank ·) (l := r)).length_le
    simp only [List.length_cons]
    omega

theorem words_nil : words [] = [] := by rw [words]

theorem words_cons_of_blank {c : Char} (h : isBlank c) (r : List Char) :
    words (c :: r) = words r := by
  rw [words, if_pos h]

theorem ne_nil_of_mem_words {s w : List Char} (h : w ∈ words s) : w ≠ [] := by
  fun_induction words s with
  | case1 => simp at h
  | case2 c r _ ih => exact ih h
  | case3 c r _ ih =>
    rcases List.mem_cons.1 h with rfl | h
    · simp
    · exact ih h

end RecipeBook.Text
