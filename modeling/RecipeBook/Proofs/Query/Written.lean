import RecipeBook.Proofs.Scanner.Escaped
import RecipeBook.Proofs.Text.LowerCase
import RecipeBook.Query.Read

/-!
# How queries are written

A `Phrase` is a clause together with a way to write it: the term between quotation marks, between
apostrophes or bare, and the letters of the keyword in either case. Reading takes a phrase off the
front of a text and leaves the space behind it (`clauses_text_append`), so that phrases with a space
behind each are read one by one and what comes after them is read as if it stood alone.
-/

namespace RecipeBook.Query

/-- The ways to write a term. -/
inductive Style
  | quotationMarks
  | apostrophes
  | bare

/-- The written term: a backslash comes before whatever would end it, and before every backslash. -/
def Style.write : Style → List Char → List Char
  | quotationMarks, t => '"' :: Scanner.escape ['"'] t ++ ['"']
  | apostrophes, t => '\'' :: Scanner.escape ['\''] t ++ ['\'']
  | bare, t => Scanner.escape termEnds t

inductive Keyword
  | tag
  | ingredient

namespace Keyword

def letters : Keyword → List Char
  | tag => "tag".toList
  | ingredient => "ingr".toList

def make : Keyword → String → Query
  | tag => .tag
  | ingredient => .ingredient

end Keyword

/-- What one clause asks for: a term, of the kind that a keyword says or of any kind. -/
structure Clause where
  keyword : Option Keyword
  term : String
  term_ne : term ≠ ""

def Clause.query (c : Clause) : Query :=
  match c.keyword with
  | none => .generic c.term
  | some k => k.make c.term

/-- A keyword, each of its letters capital or small. -/
structure Spelled where
  keyword : Keyword
  word : List Char
  map_toLower : word.map Char.toLower = keyword.letters

def Keyword.spelled (k : Keyword) : Spelled := ⟨k, k.letters, by cases k <;> decide⟩

/-- A clause as it is written. -/
structure Phrase where
  keyword : Option Spelled
  style : Style
  term : String
  term_ne : term ≠ ""

namespace Phrase

def clause (p : Phrase) : Clause := ⟨p.keyword.map Spelled.keyword, p.term, p.term_ne⟩

def text (p : Phrase) : List Char :=
  match p.keyword with
  | none => p.style.write p.term.toList
  | some k => k.word ++ ':' :: p.style.write p.term.toList

/-- A bare term behind a keyword in small letters. -/
def plain (c : Clause) : Phrase := ⟨c.keyword.map Keyword.spelled, .bare, c.term, c.term_ne⟩

theorem clause_plain (c : Clause) : (plain c).clause = c := by
  obtain ⟨keyword, term, h⟩ := c
  cases keyword <;> rfl

end Phrase

/-- The phrases, a space behind each. -/
def written (ps : List Phrase) : String := .ofList (ps.flatMap fun p => p.text ++ [' '])

variable {s t r : List Char}

/-! ### Terms -/

theorem term?_separator {c : Char} (hc : c ∈ separators) (r : List Char) :
    term? (c :: r) = term? r := by
  have hskip : Scanner.skip separators (c :: r) = Scanner.skip separators r := by
    rw [Scanner.skip, List.dropWhile_cons_of_pos (List.contains_iff_mem.2 hc), Scanner.skip]
  rw [term?, hskip, term?]

theorem skip_of_not_mem {c : Char} (hc : c ∉ separators) (r : List Char) :
    Scanner.skip separators (c :: r) = c :: r := by
  rw [Scanner.skip, List.dropWhile_cons_of_neg (mt List.contains_iff_mem.1 hc)]

theorem term?_quote {c : Char} (hc : c = '"' ∨ c = '\'') (r : List Char) :
    term? (c :: r) = some ((Scanner.scanUntil [c] r).1, (Scanner.scanUntil [c] r).2.tail) := by
  have hsep : c ∉ separators := by
    rcases hc with rfl | rfl
    · decide
    · decide
  rw [term?, skip_of_not_mem hsep]
  exact if_pos hc

theorem term?_bare {c : Char} (hc : c ∉ termEnds) (r : List Char) :
    term? (c :: r) = some (Scanner.scanUntil termEnds (c :: r)) := by
  simp only [termEnds, List.mem_cons, List.not_mem_nil, or_false, not_or] at hc
  have hsep : c ∉ separators := by simp [separators, hc]
  rw [term?, skip_of_not_mem hsep]
  exact if_neg (by simp [hc])

theorem term?_quoted {c : Char} (hc : c = '"' ∨ c = '\'') (t r : List Char) :
    term? (c :: Scanner.escape [c] t ++ [c] ++ r) = some (t, r) := by
  have hb : c ≠ '\\' := by
    rcases hc with rfl | rfl
    · decide
    · decide
  rw [List.append_assoc, List.cons_append, term?_quote hc, Scanner.scanUntil_escape_append,
    List.singleton_append, Scanner.scanUntil_end hb List.mem_cons_self, List.append_nil,
    List.tail_cons]

theorem scanUntil_termEnds_space (r : List Char) :
    Scanner.scanUntil termEnds (' ' :: r) = ([], ' ' :: r) :=
  Scanner.scanUntil_end (by decide) (by decide) r

/-- However a term is written, it is read up to the space behind it. -/
theorem term?_write (style : Style) (ht : t ≠ []) (r : List Char) :
    term? (style.write t ++ ' ' :: r) = some (t, ' ' :: r) := by
  cases style with
  | quotationMarks => exact term?_quoted (.inl rfl) t _
  | apostrophes => exact term?_quoted (.inr rfl) t _
  | bare =>
    have hscan : Scanner.scanUntil termEnds (Scanner.escape termEnds t ++ ' ' :: r) =
        (t, ' ' :: r) := by
      rw [Scanner.scanUntil_escape_append, scanUntil_termEnds_space, List.append_nil]
    obtain ⟨c, u, rfl⟩ := List.exists_cons_of_ne_nil ht
    -- the first character is a backslash or none of those that end a term
    have hhead : ∃ d v, d ∉ termEnds ∧ Scanner.escape termEnds (c :: u) = d :: v := by
      rw [Scanner.escape, List.flatMap_cons]
      split
      · exact ⟨'\\', _, by decide, rfl⟩
      · next hc => exact ⟨c, _, fun h => hc (.inr h), rfl⟩
    obtain ⟨d, v, hd, hv⟩ := hhead
    rw [← hscan, Style.write, hv, List.cons_append, term?_bare hd]

/-! ### Keywords -/

namespace Spelled

variable (k : Spelled)

theorem toLower_mem {c : Char} (hc : c ∈ k.word) : c.toLower ∈ k.keyword.letters :=
  k.map_toLower ▸ List.mem_map_of_mem hc

theorem ne_nil : k.word ≠ [] := by
  intro h
  have := k.map_toLower
  rw [h] at this
  cases hk : k.keyword <;> simp [hk, Keyword.letters] at this

theorem toNat_lt {c : Char} (hc : c ∈ k.word) : c.toNat < 0x80 := by
  have hletters : ∀ k : Keyword, ∀ d ∈ k.letters, d.toNat < 0x80 := by
    intro k
    cases k <;> simp [Keyword.letters]
  rcases Nat.lt_or_ge c.toNat 0x80 with h | h
  · exact h
  · have hmem := k.toLower_mem hc
    rw [Text.toLower_of_lt (by omega)] at hmem
    exact hletters k.keyword c hmem

/-- Nothing in a keyword ends it. -/
theorem not_mem_termEnds {c : Char} (hc : c ∈ k.word) : c ≠ '\\' ∧ c ∉ termEnds := by
  have hletters : ∀ k : Keyword, ('\\' :: termEnds).all fun d => !k.letters.contains d.toLower := by
    intro k
    cases k <;> decide
  rw [← not_or, ← List.mem_cons]
  intro hend
  have hlower := List.all_eq_true.1 (hletters k.keyword) c hend
  rw [List.contains_iff_mem.2 (k.toLower_mem hc)] at hlower
  cases hlower

theorem keyword?_word : keyword? k.word = some k.keyword.make := by
  rw [keyword?, Text.lower_of_lt fun _ => k.toNat_lt, k.map_toLower]
  cases k.keyword <;> rfl

/-- A keyword is read up to its colon. -/
theorem term?_word_append (r : List Char) :
    term? (k.word ++ ':' :: r) = some (k.word, ':' :: r) := by
  have hscan : Scanner.scanUntil termEnds (k.word ++ ':' :: r) = (k.word, ':' :: r) := by
    rw [Scanner.scanUntil_plain_append fun _ => k.not_mem_termEnds,
      Scanner.scanUntil_end (by decide) (by decide), List.append_nil]
  obtain ⟨c, u, hword⟩ := List.exists_cons_of_ne_nil k.ne_nil
  have hc : c ∉ termEnds := (k.not_mem_termEnds (hword ▸ List.mem_cons_self)).2
  rw [← hscan, hword, List.cons_append, term?_bare hc]

end Spelled

/-! ### Clauses -/

theorem clauses_eq (s : List Char) :
    clauses s = match term? s with
      | none => []
      | some (term, rest) =>
        if term = [] then clauses rest
        else match maker? term rest with
          | none => .generic (.ofList term) :: clauses rest
          | some make => match term? rest with
            | none => []
            | some (value, rest') =>
              if value = [] then clauses rest' else make (.ofList value) :: clauses rest' := by
  rw [clauses.eq_def]
  split
  · next h => simp only [h]
  · next term rest h =>
    simp only [h]
    split
    · rfl
    · cases maker? term rest with
      | none => rfl
      | some make =>
        dsimp only
        split <;> simp [*]

theorem clauses_nil : clauses [] = [] := by
  rw [clauses_eq]
  rfl

theorem clauses_space (r : List Char) : clauses (' ' :: r) = clauses r := by
  rw [clauses_eq, term?_separator (by decide), ← clauses_eq]

/-- A term with a space behind it asks for anything, also if it is spelled like a keyword. -/
theorem clauses_of_term (h : term? s = some (t, ' ' :: r)) (ht : t ≠ []) :
    clauses s = .generic (.ofList t) :: clauses r := by
  have hmaker : maker? t (' ' :: r) = none := if_neg (by simp)
  rw [clauses_eq]
  simp only [h, if_neg ht, hmaker, clauses_space]

theorem clauses_keyword_append (k : Spelled) (h : term? s = some (t, ' ' :: r)) (ht : t ≠ []) :
    clauses (k.word ++ ':' :: s) = k.keyword.make (.ofList t) :: clauses r := by
  have hmaker : maker? k.word (':' :: s) = some k.keyword.make := by
    rw [maker?, if_pos (by simp), k.keyword?_word]
  have hcolon : term? (':' :: s) = some (t, ' ' :: r) := by rw [term?_separator (by decide), h]
  rw [clauses_eq]
  simp only [k.term?_word_append, if_neg k.ne_nil, hmaker, hcolon, if_neg ht, clauses_space]

/-- A phrase with a space behind it gives its clause, and the rest is read by itself. -/
theorem clauses_text_append (p : Phrase) (r : List Char) :
    clauses (p.text ++ ' ' :: r) = p.clause.query :: clauses r := by
  obtain ⟨keyword, style, term, hne⟩ := p
  have hterm : term.toList ≠ [] := by simpa using hne
  have hwrite := term?_write style hterm r
  cases keyword with
  | none =>
    have := clauses_of_term hwrite hterm
    rwa [String.ofList_toList] at this
  | some k =>
    have := clauses_keyword_append k hwrite hterm
    rw [String.ofList_toList] at this
    rw [Phrase.text, List.append_assoc, List.cons_append, this]
    rfl

theorem clauses_written_append (ps : List Phrase) (r : List Char) :
    clauses ((written ps).toList ++ r) = (ps.map Phrase.clause).map Clause.query ++ clauses r := by
  rw [written, String.toList_ofList]
  induction ps with
  | nil => rfl
  | cons p ps ih =>
    rw [List.flatMap_cons, List.append_assoc, List.append_assoc, List.singleton_append,
      clauses_text_append, ih]
    rfl

/-- Phrases are read as their clauses, and what comes behind them as it would be by itself. Every list
of clauses can be written as phrases. -/
theorem read_written_append :
    (∀ (ps : List Phrase) (b : String), ∃ cs, read b = .all cs ∧
      read (written ps ++ b) = .all ((ps.map Phrase.clause).map Clause.query ++ cs)) ∧
      ∀ cs : List Clause, ∃ ps : List Phrase, ps.map Phrase.clause = cs ∧
        read (written ps) = .all (cs.map Clause.query) := by
  refine ⟨fun ps b => ⟨clauses b.toList, rfl, ?_⟩, fun cs => ?_⟩
  · rw [read, String.toList_append, clauses_written_append]
  · have hclause : (cs.map Phrase.plain).map Phrase.clause = cs := by
      rw [List.map_map]
      exact List.map_id'' Phrase.clause_plain cs
    have hread := clauses_written_append (cs.map Phrase.plain) []
    rw [hclause, clauses_nil, List.append_nil, List.append_nil] at hread
    exact ⟨cs.map Phrase.plain, hclause, congrArg Query.all hread⟩

example : written [⟨some ⟨.tag, "TAG".toList, by decide⟩, .bare, "red wine", by decide⟩,
    ⟨none, .quotationMarks, "tag", by decide⟩] = "TAG:red\\ wine \"tag\" " := by decide +kernel

end RecipeBook.Query
