import Mathlib.Data.List.Forall2
import RecipeBook.Text.Blank
import RecipeBook.Words

/-!
# The grammar of lines

`Line s ws` derives the words `ws` from the line `s`: words are sequences of pieces, with blank
characters between and around them. `Unfinished s fault` says that a line ends where it must not, in
an open quote or right after a backslash. Every line is one or the other (`settled`): what is left of
a line behind a piece or a blank character is, and so is the line.
-/

namespace RecipeBook.Words

open Text (isBlank isBlankText)

/-- A text between quotation marks, and what it stands for. -/
inductive Quoted : List Char → List Char → Prop
  | nil : Quoted [] []
  | plain {c : Char} {s v : List Char} : c ≠ '"' → c ≠ '\\' → Quoted s v → Quoted (c :: s) (c :: v)
  | escape {c : Char} {s v : List Char} :
    c ∈ ['"', '\\', '$', '`'] → Quoted s v → Quoted ('\\' :: c :: s) (c :: v)
  | join {s v : List Char} : Quoted s v → Quoted ('\\' :: '\n' :: s) v
  | keep {c : Char} {s v : List Char} :
    c ∉ ['"', '\\', '$', '`', '\n'] → Quoted s v → Quoted ('\\' :: c :: s) ('\\' :: c :: v)

/-- A piece of a word, and what it stands for. -/
inductive Piece : List Char → List Char → Prop
  | plain {c : Char} : isBlank c = false → c ∉ ['\'', '"', '\\'] → Piece [c] [c]
  | join : Piece ['\\', '\n'] []
  | escape {c : Char} : c ≠ '\n' → Piece ['\\', c] [c]
  | single {s : List Char} : '\'' ∉ s → Piece ('\'' :: s ++ ['\'']) s
  | double {s v : List Char} : Quoted s v → Piece ('"' :: s ++ ['"']) v

/-- One or more pieces, which stand for their values one after the other. -/
inductive Word : List Char → List Char → Prop
  | one {s v : List Char} : Piece s v → Word s v
  | cons {s t v w : List Char} : Piece s v → Word t w → Word (s ++ t) (v ++ w)

/-- Texts with one or more blank characters between them. -/
inductive Joined : List (List Char) → List Char → Prop
  | nil : Joined [] []
  | one (t : List Char) : Joined [t] t
  | cons {t u g s : List Char} {ts : List (List Char)} :
    g ≠ [] → isBlankText g → Joined (u :: ts) s → Joined (t :: u :: ts) (t ++ g ++ s)

/-- A line, and the words that it derives. -/
def Line (s : List Char) (ws : List (List Char)) : Prop :=
  ∃ front texts middle back, isBlankText front ∧ Joined texts middle ∧ List.Forall₂ Word texts ws ∧
    isBlankText back ∧ s = front ++ middle ++ back

/-- What is open at the end of a line. -/
inductive Opening : List Char → Fault → Prop
  | single {s : List Char} : '\'' ∉ s → Opening ('\'' :: s) .unclosedQuote
  | double {s v : List Char} : Quoted s v → Opening ('"' :: s) .unclosedQuote
  | escape {s v : List Char} : Quoted s v → Opening ('"' :: s ++ ['\\']) .unclosedQuote
  | backslash : Opening ['\\'] .trailingBackslash

/-- A word between apostrophes or quotation marks. -/
inductive Written : List Char → List Char → Prop
  | single {w : List Char} : '\'' ∉ w → Written ('\'' :: w ++ ['\'']) w
  | double {s w : List Char} : Quoted s w → Written ('"' :: s ++ ['"']) w

/-- A line that ends in something open. -/
def Unfinished (s : List Char) (fault : Fault) : Prop :=
  ∃ p ws t, Line p ws ∧ Opening t fault ∧ s = p ++ t

/-! ### Text between quotation marks -/

theorem Quoted.escaped {s v : List Char} (c : Char) (h : Quoted s v) :
    Quoted ('\\' :: c :: s) (escaped c ++ v) := by
  unfold Words.escaped
  split_ifs with hn hc
  · subst hn
    exact .join h
  · exact .escape (by simpa using hc) h
  · refine .keep ?_ h
    simp only [not_or] at hc
    simp [hn, hc]

/-- Behind an opening quotation mark there is a closing one, or the text goes on to the end, where a
backslash may be left. -/
def Enclosed (s : List Char) : Prop :=
  (∃ q v r, Quoted q v ∧ s = q ++ '"' :: r) ∨ (∃ v, Quoted s v) ∨
    ∃ q v, Quoted q v ∧ s = q ++ ['\\']

theorem Enclosed.append {p s : List Char} (hp : ∀ {q v}, Quoted q v → ∃ v', Quoted (p ++ q) v')
    (h : Enclosed s) : Enclosed (p ++ s) := by
  rcases h with ⟨q, v, r, h, rfl⟩ | ⟨v, h⟩ | ⟨q, v, h, rfl⟩
  · obtain ⟨v', h'⟩ := hp h
    exact .inl ⟨p ++ q, v', r, h', by simp⟩
  · exact .inr (.inl (hp h))
  · obtain ⟨v', h'⟩ := hp h
    exact .inr (.inr ⟨p ++ q, v', h', by simp⟩)

theorem enclosed : ∀ s : List Char, Enclosed s
  | [] => .inr (.inl ⟨[], .nil⟩)
  | c :: r => by
    by_cases hq : c = '"'
    · exact .inl ⟨[], [], r, .nil, by simp [hq]⟩
    by_cases hb : c = '\\'
    · subst hb
      match r with
      | [] => exact .inr (.inr ⟨[], [], .nil, rfl⟩)
      | d :: r =>
        exact Enclosed.append (p := ['\\', d]) (fun h => ⟨_, h.escaped d⟩) (enclosed r)
    · exact Enclosed.append (p := [c]) (fun h => ⟨_, .plain hq hb h⟩) (enclosed r)

/-- A word between quotation marks, with a backslash before each character that needs one. -/
def quoted (w : List Char) : List Char :=
  '"' :: (w.flatMap fun c => if c = '"' ∨ c = '\\' then ['\\', c] else [c]) ++ ['"']

/-- Every word can be written. -/
theorem written_quoted (w : List Char) : Written (quoted w) w := by
  refine .double ?_
  induction w with
  | nil => exact .nil
  | cons c w ih =>
    rw [List.flatMap_cons]
    split
    · next h =>
      rcases h with rfl | rfl
      · exact .escape (by decide) ih
      · exact .escape (by decide) ih
    · next h =>
      rw [not_or] at h
      exact .plain h.1 h.2 ih

theorem Written.word {t w : List Char} (h : Written t w) : Word t w := by
  cases h with
  | single h => exact .one (.single h)
  | double h => exact .one (.double h)

/-! ### Lines grow at the front -/

theorem Line.nil : Line [] [] := ⟨[], [], [], [], rfl, .nil, .nil, rfl, rfl⟩

theorem Line.blank {c : Char} {s : List Char} {ws : List (List Char)} (hc : isBlank c)
    (h : Line s ws) : Line (c :: s) ws := by
  obtain ⟨front, texts, middle, back, hf, hm, hw, hb, rfl⟩ := h
  exact ⟨c :: front, texts, middle, back, by simpa [isBlankText, hc] using hf, hm, hw, hb, rfl⟩

/-- A text grows at the front of the first word. -/
theorem Joined.glue {t s : List Char} {ts : List (List Char)} (p : List Char)
    (h : Joined (t :: ts) s) : Joined ((p ++ t) :: ts) (p ++ s) := by
  cases h with
  | one => exact .one _
  | cons hne hg h => simpa using Joined.cons (t := p ++ t) hne hg h

/-- A piece in front of a line is a word of its own if a blank character follows or nothing does,
and part of the first word otherwise. -/
theorem Line.piece {p v s : List Char} {ws : List (List Char)} (hp : Piece p v) (h : Line s ws) :
    ∃ ws', Line (p ++ s) ws' := by
  obtain ⟨front, texts, middle, back, hf, hm, hw, hb, rfl⟩ := h
  cases hw with
  | nil =>
    cases hm
    refine ⟨[v], [], [p], p, front ++ back, rfl, .one p, .cons (.one hp) .nil, ?_, by simp⟩
    simp only [isBlankText, List.all_append, Bool.and_eq_true] at hf hb ⊢
    exact ⟨hf, hb⟩
  | @cons t w ts ws ht hts =>
    -- without a blank character before it, the first word takes the piece in
    by_cases hne : front = []
    · subst hne
      exact ⟨(v ++ w) :: ws, [], (p ++ t) :: ts, p ++ middle, back, rfl, hm.glue p,
        .cons (.cons hp ht) hts, hb, by simp⟩
    · exact ⟨v :: w :: ws, [], p :: t :: ts, p ++ front ++ middle, back, rfl, .cons hne hf hm,
        .cons (.one hp) (.cons ht hts), hb, by simp⟩

theorem Unfinished.of_opening {s : List Char} {fault : Fault} (h : Opening s fault) :
    Unfinished s fault := ⟨[], [], s, Line.nil, h, rfl⟩

/-- A line is derived, or it ends in something open. -/
def Settled (s : List Char) : Prop := (∃ ws, Line s ws) ∨ ∃ fault, Unfinished s fault

theorem Settled.blank {c : Char} {s : List Char} (hc : isBlank c) (h : Settled s) :
    Settled (c :: s) := by
  rcases h with ⟨ws, h⟩ | ⟨fault, p, ws, t, h, ht, rfl⟩
  · exact .inl ⟨ws, h.blank hc⟩
  · exact .inr ⟨fault, c :: p, ws, t, h.blank hc, ht, rfl⟩

theorem Settled.piece {p v s : List Char} (hp : Piece p v) (h : Settled s) :
    Settled (p ++ s) := by
  rcases h with ⟨ws, h⟩ | ⟨fault, q, ws, t, h, ht, rfl⟩
  · exact .inl (h.piece hp)
  · obtain ⟨ws', h'⟩ := h.piece hp
    exact .inr ⟨fault, p ++ q, ws', t, h', ht, by simp⟩

/-- The first character says what a line starts with. -/
theorem settled (s : List Char) : Settled s := by
  suffices ∀ n, ∀ s : List Char, s.length ≤ n → Settled s from this _ s (Nat.le_refl _)
  intro n
  induction n with
  | zero =>
    intro s hs
    obtain rfl := List.length_eq_zero_iff.1 (Nat.le_zero.1 hs)
    exact .inl ⟨[], Line.nil⟩
  | succ n ih =>
    intro s hs
    match s with
    | [] => exact .inl ⟨[], Line.nil⟩
    | c :: r =>
      have hr : r.length ≤ n := by simpa using hs
      by_cases hc : isBlank c
      · exact (ih r hr).blank hc
      by_cases hq : c = '\''
      · subst hq
        by_cases hm : '\'' ∈ r
        · obtain ⟨q, t, rfl, hn⟩ := List.eq_append_cons_of_mem hm
          have ht : t.length ≤ n := by simp at hr; omega
          simpa using (ih t ht).piece (.single hn)
        · exact .inr ⟨_, .of_opening (.single hm)⟩
      by_cases hd : c = '"'
      · subst hd
        rcases enclosed r with ⟨q, v, t, h, rfl⟩ | ⟨v, h⟩ | ⟨q, v, h, rfl⟩
        · have ht : t.length ≤ n := by simp at hr; omega
          simpa using (ih t ht).piece (.double h)
        · exact .inr ⟨_, .of_opening (.double h)⟩
        · exact .inr ⟨_, .of_opening (.escape h)⟩
      by_cases hb : c = '\\'
      · subst hb
        match r with
        | [] => exact .inr ⟨_, .of_opening .backslash⟩
        | d :: t =>
          have ht : t.length ≤ n := by simp at hr; omega
          by_cases hn : d = '\n'
          · subst hn
            exact (ih t ht).piece .join
          · exact (ih t ht).piece (.escape hn)
      · exact (ih r hr).piece (.plain (by simpa using hc) (by simp [hq, hd, hb]))

end RecipeBook.Words
