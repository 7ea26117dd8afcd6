import RecipeBook.LoadError

/-!
# Lines cut into words

Words are separated by blank characters. Apostrophes keep what is between them as it is. Between
quotation marks a backslash escapes a quotation mark, a backslash, a dollar sign and a grave accent,
and joins lines; elsewhere it escapes any character. Quoted and plain pieces that touch form one
word, and an empty quoted piece is a word of its own.
-/

namespace RecipeBook.Words

inductive Fault
  | unclosedQuote
  | trailingBackslash
  deriving DecidableEq, Repr

/-- Reads up to the closing apostrophe: what is before it and what comes after it. -/
def single : List Char → Option (List Char × List Char)
  | [] => none
  | c :: r => if c = '\'' then some ([], r) else (single r).map fun p => (c :: p.1, p.2)

/-- What `\c` between quotation marks stands for. -/
def escaped (c : Char) : List Char :=
  if c = '\n' then []
  else if c = '"' ∨ c = '\\' ∨ c = '$' ∨ c = '`' then [c]
  else ['\\', c]

/-- Reads up to the closing quotation mark: the value of what is before it and what comes after. -/
def double : List Char → Option (List Char × List Char)
  | [] => none
  | [c] => if c = '"' then some ([], []) else none
  | c :: d :: r =>
    if c = '"' then some ([], d :: r)
    else if c = '\\' then (double r).map fun p => (escaped d ++ p.1, p.2)
    else (double (d :: r)).map fun p => (c :: p.1, p.2)

theorem length_of_single {s value rest : List Char} (h : single s = some (value, rest)) :
    rest.length < s.length := by
  induction s generalizing value with
  | nil => simp [single] at h
  | cons c r ih =>
    rw [single] at h
    split at h
    · cases h; simp
    · obtain ⟨p, hp, he⟩ := Option.map_eq_some_iff.1 h
      cases he
      have := @ih p.1 hp
      simp only [List.length_cons]; omega

theorem length_of_double {s value rest : List Char} (h : double s = some (value, rest)) :
    rest.length < s.length := by
  fun_induction double s generalizing value with
  | case1 => simp at h
  | case2 => cases h; simp
  | case3 => simp at h
  | case4 => cases h; simp
  | case5 d r _ ih =>
    obtain ⟨p, hp, he⟩ := Option.map_eq_some_iff.1 h
    cases he
    have := @ih p.1 hp
    simp only [List.length_cons]; omega
  | case6 c d r _ _ ih =>
    obtain ⟨p, hp, he⟩ := Option.map_eq_some_iff.1 h
    cases he
    have := @ih p.1 hp
    simp only [List.length_cons] at this ⊢; omega

/-- The words of `s`, where `word` is the word that is being read, if one is. -/
def splitFrom (word : Option (List Char)) (s : List Char) : Except Fault (List (List Char)) :=
  match s with
  | [] => .ok word.toList
  | c :: r =>
    let started := word.getD []
    if Text.isBlank c then (splitFrom none r).map (word.toList ++ ·)
    else if c = '\'' then
      match h : single r with
      | none => .error .unclosedQuote
      | some (value, rest) =>
        have := length_of_single h
        splitFrom (some (started ++ value)) rest
    else if c = '"' then
      match h : double r with
      | none => .error .unclosedQuote
      | some (value, rest) =>
        have := length_of_double h
        splitFrom (some (started ++ value)) rest
    else if c = '\\' then
      match r with
      | [] => .error .trailingBackslash
      | d :: rest => splitFrom (some (started ++ if d = '\n' then [] else [d])) rest
    else splitFrom (some (started ++ [c])) r
termination_by s.length
decreasing_by
  all_goals simp only [List.length_cons]; omega

/-- The words of a line, as lists of characters. -/
def split (s : List Char) : Except Fault (List (List Char)) := splitFrom none s

/-- The words of a line. -/
def ofLine (line : String) : Except LoadError (List String) :=
  match split line.toList with
  | .ok words => .ok (words.map String.ofList)
  | .error .unclosedQuote => fail (.unclosedQuote line)
  | .error .trailingBackslash => fail (.trailingBackslash line)

end RecipeBook.Words
