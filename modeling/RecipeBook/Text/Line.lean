import RecipeBook.Text.Blank

/-!
# Pieces and lines

`splitOn sep s` cuts a text at every `sep`: there is one piece more than there are separators, and
joining the pieces gives the text back (`join_splitOn`). `lines` cuts at line feeds; a carriage
return before a line feed belongs to the line end, and a line feed at the very end starts no line.
-/

namespace RecipeBook.Text

/-- The pieces between the separators, empty ones included. -/
def splitOn (sep : Char) : List Char → List (List Char)
  | [] => [[]]
  | c :: r =>
    if c = sep then [] :: splitOn sep r
    else match splitOn sep r with
      | [] => [[c]]
      | piece :: pieces => (c :: piece) :: pieces

/-- The pieces with `sep` written between neighbours. -/
def join (sep : List Char) : List (List Char) → List Char
  | [] => []
  | [piece] => piece
  | piece :: pieces => piece ++ sep ++ join sep pieces

theorem splitOn_ne_nil (sep : Char) (s : List Char) : splitOn sep s ≠ [] := by
  cases s with
  | nil => simp [splitOn]
  | cons c r =>
    rw [splitOn]
    split
    · simp
    · split <;> simp

theorem join_splitOn (sep : Char) (s : List Char) : join [sep] (splitOn sep s) = s := by
  induction s with
  | nil => rfl
  | cons c r ih =>
    have hne := splitOn_ne_nil sep r
    obtain ⟨p, ps, hp⟩ := List.exists_cons_of_ne_nil hne
    rw [hp] at ih
    by_cases h : c = sep
    · subst h
      simp [splitOn, hp, join, ih]
    · cases ps with
      | nil => simpa [splitOn, h, hp, join] using ih
      | cons q qs => simpa [splitOn, h, hp, join] using ih

/-- The part before the first character of the class and the part after it. -/
def splitAtFirst (isSep : Char → Bool) : List Char → Option (List Char × List Char)
  | [] => none
  | c :: r =>
    if isSep c then some ([], r)
    else (splitAtFirst isSep r).map fun p => (c :: p.1, p.2)

/-- The part before the last `sep` and the part after it. -/
def splitAtLast (sep : Char) (s : List Char) : Option (List Char × List Char) :=
  (splitAtFirst (· == sep) s.reverse).map fun p => (p.2.reverse, p.1.reverse)

/-- The text less the given beginning, if it has it. -/
def dropStart? : List Char → List Char → Option (List Char)
  | [], s => some s
  | _ :: _, [] => none
  | b :: bs, c :: cs => if b = c then dropStart? bs cs else none

/-- The text less the given end, if it has it. -/
def dropEnd? (ending s : List Char) : Option (List Char) :=
  (dropStart? ending.reverse s.reverse).map List.reverse

def dropReturn (s : List Char) : List Char := (dropEnd? ['\r'] s).getD s

/-- The lines of a text: cut at line feeds, a carriage return right before one dropped with it. -/
def lines (s : List Char) : List (List Char) := ended (splitOn '\n' s)
where
  /-- Every piece but the last is ended by a line feed; the last is a line only if it is not empty. -/
  ended : List (List Char) → List (List Char)
    | [] => []
    | [last] => if last = [] then [] else [last]
    | line :: rest => dropReturn line :: ended rest

end RecipeBook.Text
