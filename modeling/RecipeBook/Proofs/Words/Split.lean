import RecipeBook.Proofs.Words.Grammar

/-!
# Splitting follows the grammar

What `splitFrom` does with the rest of a line depends on nothing but the word that is being read
(`Line.splitFrom_append`). A line therefore splits into the words that it derives, and a line that
ends in something open is refused. As every line is one or the other, splitting decides the grammar.
-/

namespace RecipeBook.Words

open Text (isBlank isBlankText)

/-! ### Quoted text -/

@[simp] theorem single_quote (r : List Char) : single ('\'' :: r) = some ([], r) := by
  simp [single]

theorem single_append {s : List Char} (h : '\'' ∉ s) (r : List Char) :
    single (s ++ r) = (single r).map fun p => (s ++ p.1, p.2) := by
  induction s with
  | nil => simp
  | cons c s ih =>
    obtain ⟨hc, hs⟩ : '\'' ≠ c ∧ '\'' ∉ s := by simpa using h
    rw [List.cons_append, single, if_neg hc.symm, ih hs, Option.map_map]
    rfl

@[simp] theorem double_quote (r : List Char) : double ('"' :: r) = some ([], r) := by
  cases r <;> simp [double]

theorem double_plain {c : Char} (hq : c ≠ '"') (hb : c ≠ '\\') (r : List Char) :
    double (c :: r) = (double r).map fun p => (c :: p.1, p.2) := by
  cases r <;> simp [double, hq, hb]

theorem double_escape (c : Char) (r : List Char) :
    double ('\\' :: c :: r) = (double r).map fun p => (escaped c ++ p.1, p.2) := by
  simp [double]

theorem escaped_of_mem {c : Char} (h : c ∈ ['"', '\\', '$', '`']) : escaped c = [c] := by
  have hn : c ≠ '\n' := by rintro rfl; simp at h
  rw [escaped, if_neg hn, if_pos (by simpa using h)]

theorem escaped_of_not_mem {c : Char} (h : c ∉ ['"', '\\', '$', '`', '\n']) :
    escaped c = ['\\', c] := by
  simp only [List.mem_cons, List.not_mem_nil, or_false, not_or] at h
  simp [escaped, h]

theorem double_append {s v : List Char} (h : Quoted s v) (r : List Char) :
    double (s ++ r) = (double r).map fun p => (v ++ p.1, p.2) := by
  induction h with
  | nil => simp
  | plain hq hb _ ih =>
    rw [List.cons_append, double_plain hq hb, ih, Option.map_map]
    rfl
  | escape hc _ ih =>
    rw [List.cons_append, List.cons_append, double_escape, ih, escaped_of_mem hc, Option.map_map]
    rfl
  | join _ ih =>
    rw [List.cons_append, List.cons_append, double_escape, ih, Option.map_map]
    rfl
  | keep hc _ ih =>
    rw [List.cons_append, List.cons_append, double_escape, ih, escaped_of_not_mem hc,
      Option.map_map]
    rfl

/-! ### What a line starts with -/

section splitFrom

variable (word : Option (List Char))

@[simp] theorem splitFrom_nil : splitFrom word [] = .ok word.toList := by
  simp [splitFrom.eq_def]

theorem splitFrom_blank {c : Char} (h : isBlank c) (r : List Char) :
    splitFrom word (c :: r) = (splitFrom none r).map (word.toList ++ ·) := by
  rw [splitFrom.eq_def]
  exact if_pos h

theorem splitFrom_single (r : List Char) :
    splitFrom word ('\'' :: r) = match single r with
      | none => .error .unclosedQuote
      | some (value, rest) => splitFrom (some (word.getD [] ++ value)) rest := by
  have hb : isBlank '\'' = false := rfl
  rw [splitFrom.eq_def]
  simp only [hb, Bool.false_eq_true, if_false, if_true]
  split <;> simp [*]

theorem splitFrom_double (r : List Char) :
    splitFrom word ('"' :: r) = match double r with
      | none => .error .unclosedQuote
      | some (value, rest) => splitFrom (some (word.getD [] ++ value)) rest := by
  have hb : isBlank '"' = false := rfl
  have hq : '"' ≠ '\'' := by decide
  rw [splitFrom.eq_def]
  simp only [hb, hq, Bool.false_eq_true, if_false, if_true]
  split <;> simp [*]

theorem splitFrom_backslash (c : Char) (r : List Char) :
    splitFrom word ('\\' :: c :: r) =
      splitFrom (some (word.getD [] ++ if c = '\n' then [] else [c])) r := by
  rw [splitFrom.eq_def]
  rfl

theorem splitFrom_backslash_nil : splitFrom word ['\\'] = .error .trailingBackslash := by
  rw [splitFrom.eq_def]
  rfl

theorem splitFrom_plain {c : Char} (hc : isBlank c = false) (hn : c ∉ ['\'', '"', '\\'])
    (r : List Char) : splitFrom word (c :: r) = splitFrom (some (word.getD [] ++ [c])) r := by
  simp only [List.mem_cons, List.not_mem_nil, or_false, not_or] at hn
  rw [splitFrom.eq_def]
  simp only [hc, hn, Bool.false_eq_true, if_false]

/-! ### Pieces, words and gaps -/

theorem splitFrom_piece {p v : List Char} (h : Piece p v) (r : List Char) :
    splitFrom word (p ++ r) = splitFrom (some (word.getD [] ++ v)) r := by
  cases h with
  | plain hc hn => exact splitFrom_plain word hc hn r
  | join => exact splitFrom_backslash word '\n' r
  | @escape c hc =>
    have := splitFrom_backslash word c r
    rwa [if_neg hc] at this
  | single hs =>
    rw [List.append_assoc, List.cons_append, splitFrom_single, single_append hs]
    simp
  | double hs =>
    rw [List.append_assoc, List.cons_append, splitFrom_double, double_append hs]
    simp

theorem splitFrom_word {t w : List Char} (h : Word t w) (r : List Char) :
    splitFrom word (t ++ r) = splitFrom (some (word.getD [] ++ w)) r := by
  induction h generalizing word with
  | one hp => exact splitFrom_piece word hp r
  | cons hp _ ih => rw [List.append_assoc, splitFrom_piece word hp, ih]; simp

theorem splitFrom_gap {gap : List Char} (hne : gap ≠ []) (hgap : isBlankText gap) (r : List Char) :
    splitFrom word (gap ++ r) = (splitFrom none r).map (word.toList ++ ·) := by
  induction gap generalizing word with
  | nil => exact absurd rfl hne
  | cons c gap ih =>
    obtain ⟨hc, hg⟩ : isBlank c ∧ isBlankText gap := by simpa [isBlankText] using hgap
    rw [List.cons_append, splitFrom_blank word hc]
    by_cases hn : gap = []
    · rw [hn, List.nil_append]
    · rw [ih none hn hg]
      cases splitFrom none r <;> rfl

theorem splitFrom_opening {t : List Char} {fault : Fault} (h : Opening t fault) :
    splitFrom word t = .error fault := by
  cases h with
  | @single s hs =>
    have hn : single s = none := by simpa [single] using single_append hs []
    rw [splitFrom_single, hn]
  | @double s v hs =>
    have hn : double s = none := by simpa [double] using double_append hs []
    rw [splitFrom_double, hn]
  | escape hs =>
    rw [List.cons_append, splitFrom_double, double_append hs]
    rfl
  | backslash => exact splitFrom_backslash_nil word

end splitFrom

/-! ### Lines -/

theorem map_nil_append {ε α : Type} (x : Except ε (List α)) : x.map ([] ++ ·) = x := by
  cases x <;> rfl

theorem map_append_map {ε α : Type} (x : Except ε (List α)) (a b : List α) :
    (x.map (b ++ ·)).map (a ++ ·) = x.map (a ++ b ++ ·) := by
  cases x <;> simp [Except.map]

theorem splitFrom_none_gap {gap : List Char} (hgap : isBlankText gap) (r : List Char) :
    splitFrom none (gap ++ r) = splitFrom none r := by
  by_cases hne : gap = []
  · rw [hne, List.nil_append]
  · exact (splitFrom_gap none hne hgap r).trans (map_nil_append _)

theorem Joined.splitFrom_append {texts ws : List (List Char)} {s : List Char}
    (h : Joined texts s) (hw : List.Forall₂ Word texts ws) :
    ∃ init last, ws = init ++ last.toList ∧
      ∀ r, splitFrom none (s ++ r) = (splitFrom last r).map (init ++ ·) := by
  induction h generalizing ws with
  | nil =>
    cases hw
    exact ⟨[], none, rfl, fun r => (map_nil_append _).symm⟩
  | one t =>
    obtain ⟨w, _, ht, ⟨⟩, rfl⟩ := List.forall₂_cons_left_iff.1 hw
    refine ⟨[], some w, rfl, fun r => ?_⟩
    rw [map_nil_append]
    exact splitFrom_word none ht r
  | @cons t u gap s ts hne hgap _ ih =>
    obtain ⟨w, ws, ht, hts, rfl⟩ := List.forall₂_cons_left_iff.1 hw
    obtain ⟨init, last, rfl, hs⟩ := ih hts
    refine ⟨w :: init, last, rfl, fun r => ?_⟩
    calc splitFrom none (t ++ gap ++ s ++ r)
        = splitFrom (some w) (gap ++ (s ++ r)) := by
          rw [List.append_assoc, List.append_assoc]
          exact splitFrom_word none ht _
      _ = ((splitFrom last r).map (init ++ ·)).map ([w] ++ ·) := by
          rw [splitFrom_gap (some w) hne hgap, hs r]
          rfl
      _ = (splitFrom last r).map (w :: init ++ ·) := map_append_map _ _ _

/-- Behind a line, all but the last of its words are there, and the last one may go on. -/
theorem Line.splitFrom_append {s : List Char} {ws : List (List Char)} (h : Line s ws) :
    ∃ init last, ws = init ++ last.toList ∧
      ∀ r, splitFrom none (s ++ r) = (splitFrom last r).map (init ++ ·) := by
  obtain ⟨front, texts, middle, back, hf, hm, hw, hb, rfl⟩ := h
  obtain ⟨init, last, rfl, hs⟩ := hm.splitFrom_append hw
  have hr (r : List Char) : splitFrom none (front ++ middle ++ back ++ r) =
      (splitFrom last (back ++ r)).map (init ++ ·) := by
    rw [List.append_assoc, List.append_assoc, splitFrom_none_gap hf, hs]
  -- blank characters at the end finish the last word
  by_cases hne : back = []
  · exact ⟨init, last, rfl, fun r => by rw [hr, hne, List.nil_append]⟩
  · refine ⟨init ++ last.toList, none, by simp, fun r => ?_⟩
    rw [hr, splitFrom_gap last hne hb, map_append_map]

theorem Line.split_eq {s : List Char} {ws : List (List Char)} (h : Line s ws) :
    split s = .ok ws := by
  obtain ⟨init, last, rfl, hs⟩ := h.splitFrom_append
  simpa [split, Except.map] using hs []

theorem Unfinished.split_eq {s : List Char} {fault : Fault} (h : Unfinished s fault) :
    split s = .error fault := by
  obtain ⟨p, ws, t, hp, ht, rfl⟩ := h
  obtain ⟨init, last, -, hs⟩ := hp.splitFrom_append
  rw [split, hs, splitFrom_opening last ht]
  rfl

theorem split_eq_ok_iff (s : List Char) (ws : List (List Char)) :
    split s = .ok ws ↔ Line s ws := by
  refine ⟨fun h => ?_, Line.split_eq⟩
  rcases settled s with ⟨ws', h'⟩ | ⟨fault, h'⟩
  · obtain rfl : ws' = ws := by simpa [h'.split_eq] using h
    exact h'
  · simp [h'.split_eq] at h

theorem split_eq_error_iff (s : List Char) (fault : Fault) :
    split s = .error fault ↔ Unfinished s fault := by
  refine ⟨fun h => ?_, Unfinished.split_eq⟩
  rcases settled s with ⟨ws, h'⟩ | ⟨fault', h'⟩
  · simp [h'.split_eq] at h
  · obtain rfl : fault' = fault := by simpa [h'.split_eq] using h
    exact h'

theorem exists_unfinished_iff (s : List Char) :
    (∃ fault, Unfinished s fault) ↔ ¬ ∃ ws, Line s ws := by
  refine ⟨fun ⟨fault, h⟩ ⟨ws, h'⟩ => ?_, (settled s).resolve_left⟩
  have := h.split_eq
  rw [h'.split_eq] at this
  simp at this

/-- Written words with blank characters between them are a line. -/
theorem Joined.line {texts ws : List (List Char)} {s : List Char} (h : Joined texts s)
    (hw : List.Forall₂ Written texts ws) : Line s ws :=
  ⟨[], texts, s, [], rfl, h, hw.imp fun _ _ => Written.word, rfl, by simp⟩

/-- What is wrong with a line that ends in something open. -/
def Fault.problem (line : String) : Fault → Problem
  | .unclosedQuote => .unclosedQuote line
  | .trailingBackslash => .trailingBackslash line

theorem ofLine_eq (line : String) :
    ofLine line = match split line.toList with
      | .ok words => .ok (words.map String.ofList)
      | .error fault => fail (fault.problem line) := by
  rw [ofLine]
  split <;> simp [*, Fault.problem]

theorem ofLine_eq_ok_iff (line : String) (words : List String) :
    ofLine line = .ok words ↔ Line line.toList (words.map String.toList) := by
  rw [← split_eq_ok_iff, ofLine_eq]
  cases split line.toList with
  | error fault => simp [fail]
  | ok ws =>
    constructor
    · rintro ⟨⟩
      simp
    · rintro ⟨⟩
      simp

theorem ofLine_eq_error_iff (line : String) (e : LoadError) :
    ofLine line = .error e ↔
      ∃ fault, Unfinished line.toList fault ∧ e = .of (fault.problem line) := by
  simp only [← split_eq_error_iff, ofLine_eq]
  cases split line.toList with
  | error fault => simp [fail, eq_comm]
  | ok ws => simp

/-- A line is cut into the words that it derives, and refused exactly if it derives none, which is if
it ends in something open. Words written between apostrophes or quotation marks, as all words can be,
come back from any line that joins them. -/
theorem ofLine_follows_grammar :
    (∀ line words, ofLine line = .ok words ↔ Line line.toList (words.map String.toList)) ∧
      (∀ line e, ofLine line = .error e ↔
        ∃ fault, Unfinished line.toList fault ∧ e = .of (fault.problem line)) ∧
      (∀ line, (∃ e, ofLine line = .error e) ↔ ¬ ∃ ws, Line line.toList ws) ∧
      (∀ line texts words, Joined texts line.toList →
        List.Forall₂ Written texts (words.map String.toList) → ofLine line = .ok words) ∧
      ∀ w : String, Written (quoted w.toList) w.toList := by
  refine ⟨ofLine_eq_ok_iff, ofLine_eq_error_iff, fun line => ?_, fun line texts words hj hw => ?_,
    fun w => written_quoted w.toList⟩
  · rw [← exists_unfinished_iff]
    simp only [ofLine_eq_error_iff]
    constructor
    · rintro ⟨_, fault, h, -⟩
      exact ⟨fault, h⟩
    · rintro ⟨fault, h⟩
      exact ⟨_, fault, h, rfl⟩
  · exact (ofLine_eq_ok_iff line words).2 (hj.line hw)

/-- An empty word, one with both quotes and one with a line break. -/
theorem ofLine_written_words :
    ofLine "'' \"it's \\\"5\\\"\" \t'two\nlines'" = .ok ["", "it's \"5\"", "two\nlines"] := by
  have hw : List.Forall₂ Written
      [['\'', '\''], quoted "it's \"5\"".toList, "'two\nlines'".toList]
      (["", "it's \"5\"", "two\nlines"].map String.toList) :=
    .cons (.single (w := []) (by decide)) (.cons (written_quoted _)
      (.cons (.single (w := "two\nlines".toList) (by decide)) .nil))
  have hj : Joined [['\'', '\''], quoted "it's \"5\"".toList, "'two\nlines'".toList]
      "'' \"it's \\\"5\\\"\" \t'two\nlines'".toList :=
    .cons (g := [' ']) (by decide) rfl (.cons (g := [' ', '\t']) (by decide) rfl (.one _))
  exact ofLine_follows_grammar.2.2.2.1 _ _ _ hj hw

end RecipeBook.Words
