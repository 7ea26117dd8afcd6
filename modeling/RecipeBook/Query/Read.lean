import RecipeBook.Query
import RecipeBook.Scanner

/-!
# Reading queries

A query is written as terms, separated by spaces and colons, that may stand in quotation marks or
apostrophes. `tag` or `ingr` with a colon right behind it says what the next term asks for; every
other term asks for anything. A backslash takes the next character as it is. Every text is a query.
-/

namespace RecipeBook.Query

def separators : List Char := [':', ' ']

def termEnds : List Char := [' ', ':', '"', '\'']

/-- The next term and what comes after it, the closing quotation mark dropped. -/
def term? (s : List Char) : Option (List Char × List Char) :=
  match Scanner.skip separators s with
  | [] => none
  | c :: r =>
    if c = '"' ∨ c = '\'' then
      let p := Scanner.scanUntil [c] r
      some (p.1, p.2.tail)
    else some (Scanner.scanUntil termEnds (c :: r))

theorem length_scanUntil_lt {ends : List Char} {c : Char} {r : List Char}
    (h : ends.contains c → c = '\\') : (Scanner.scanUntil ends (c :: r)).2.length < r.length + 1 := by
  cases r with
  | nil =>
    rw [Scanner.scanUntil]
    split
    · simp
    · next hc => rw [if_neg fun he => hc (h he)]; simp
  | cons d r =>
    rw [Scanner.scanUntil]
    split
    · have := Scanner.length_scanUntil_le ends r
      simp only [List.length_cons]; omega
    · next hc =>
      rw [if_neg fun he => hc (h he)]
      have := Scanner.length_scanUntil_le ends (d :: r)
      simp only [List.length_cons] at this ⊢; omega

theorem head_skip {c : Char} {r s : List Char} (h : Scanner.skip separators s = c :: r) :
    c ∉ separators := by
  intro hc
  have := List.head?_dropWhile_not separators.contains s
  rw [Scanner.skip] at h
  rw [h] at this
  simp only [List.head?_cons] at this
  simp [hc] at this

/-- A term takes at least one character. -/
theorem length_of_term {s term rest : List Char} (h : term? s = some (term, rest)) :
    rest.length < s.length := by
  unfold term? at h
  have hle := Scanner.length_skip_le separators s
  split at h
  · cases h
  · next c r hs =>
    rw [hs] at hle
    split at h
    · cases h
      have := Scanner.length_scanUntil_le [c] r
      simp only [List.length_tail, List.length_cons] at *
      omega
    · next hq =>
      obtain rfl : (Scanner.scanUntil termEnds (c :: r)).2 = rest := by rw [Option.some.inj h]
      have hsep := head_skip hs
      have : (Scanner.scanUntil termEnds (c :: r)).2.length < r.length + 1 := by
        refine length_scanUntil_lt fun he => ?_
        simp only [separators, termEnds, List.contains_iff_mem, List.mem_cons,
          List.not_mem_nil, or_false, not_or] at he hsep hq
        rcases he with he | he | he | he
        · exact absurd he hsep.2
        · exact absurd he hsep.1
        · exact absurd he hq.1
        · exact absurd he hq.2
      simp only [List.length_cons] at hle
      omega

/-- What a keyword makes of the term behind it. -/
def keyword? (term : List Char) : Option (String → Query) :=
  let word := Text.lower term
  if word = "tag".toList then some .tag
  else if word = "ingr".toList then some .ingredient
  else none

/-- What a term makes of the next one, given what comes after it: a keyword has a colon right
behind it. -/
def maker? (term rest : List Char) : Option (String → Query) :=
  if rest.head? = some ':' then keyword? term else none

/-- The clauses of a text, in order. Empty terms ask for nothing. -/
def clauses (s : List Char) : List Query :=
  match h : term? s with
  | none => []
  | some (term, rest) =>
    have := length_of_term h
    if term = [] then clauses rest
    else
      match maker? term rest with
      | none => .generic (.ofList term) :: clauses rest
      | some make =>
        match h' : term? rest with
        | none => []
        | some (value, rest') =>
          have := length_of_term h'
          if value = [] then clauses rest' else make (.ofList value) :: clauses rest'
termination_by s.length
decreasing_by all_goals omega

def read (s : String) : Query := .all (clauses s.toList)

end RecipeBook.Query
