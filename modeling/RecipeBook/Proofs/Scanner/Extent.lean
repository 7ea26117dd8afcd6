import RecipeBook.Proofs.Scanner.Escaped

/-!
# How far reading goes

A text falls into pieces: a backslash with the character that it takes, and every other character by
itself. Reading up to some ends takes pieces off the front and stops before the first that is an end
(`Extent`), and what it gives is what the pieces stand for. There is just one such place in every text
(`scanUntil_of_extent`, `exists_extent`), so that nothing more needs to be known of the reader.
-/

namespace RecipeBook.Scanner

/-- The pieces of a text. Only the last one can be a backslash that takes no character. -/
def pieces : List Char → List (List Char)
  | [] => []
  | [c] => [[c]]
  | c :: d :: r => if c = '\\' then [c, d] :: pieces r else [c] :: pieces (d :: r)

/-- What a piece stands for: a backslash for nothing but the character that it takes. -/
def pieceValue : List Char → List Char
  | '\\' :: taken => taken
  | piece => piece

/-- The text with every backslash and the character that it takes replaced by that character. -/
def unescape (s : List Char) : List Char := (pieces s).flatMap pieceValue

/-- Nothing is there, or one of the ends, which a backslash never is. -/
def AtEnd (ends : List Char) : List Char → Prop
  | [] => True
  | c :: _ => c ∈ ends ∧ c ≠ '\\'

instance (ends : List Char) : (s : List Char) → Decidable (AtEnd ends s)
  | [] => isTrue trivial
  | c :: _ => inferInstanceAs (Decidable (c ∈ ends ∧ c ≠ '\\'))

/-- The text `s` is `raw`, in which nothing ends it, and `rest`, which is left. -/
structure Extent (ends s raw rest : List Char) : Prop where
  append_eq : raw ++ rest = s
  atEnd : AtEnd ends rest
  /-- No end stands by itself but a backslash. -/
  not_mem : ∀ c ∈ ends, c ≠ '\\' → [c] ∉ pieces raw
  /-- A backslash takes no character only if there is none. -/
  eq_nil_of_lone : ['\\'] ∈ pieces raw → rest = []

variable {ends s t raw rest : List Char} {c d : Char}

/-! ### Pieces -/

theorem pieces_backslash (d : Char) (r : List Char) :
    pieces ('\\' :: d :: r) = ['\\', d] :: pieces r := by
  rw [pieces, if_pos rfl]

theorem pieces_plain (hc : c ≠ '\\') (r : List Char) : pieces (c :: r) = [c] :: pieces r := by
  cases r with
  | nil => rfl
  | cons d r => rw [pieces, if_neg hc]

theorem unescape_backslash (d : Char) (r : List Char) :
    unescape ('\\' :: d :: r) = d :: unescape r := by
  rw [unescape, pieces_backslash, List.flatMap_cons]
  rfl

theorem pieceValue_plain (hc : c ≠ '\\') : pieceValue [c] = [c] := by
  rw [pieceValue]
  exact fun taken h => hc (List.cons.inj h).1

theorem unescape_plain (hc : c ≠ '\\') (r : List Char) : unescape (c :: r) = c :: unescape r := by
  rw [unescape, pieces_plain hc, List.flatMap_cons, pieceValue_plain hc]
  rfl

theorem length_unescape_le (s : List Char) : (unescape s).length ≤ s.length := by
  fun_induction pieces s with
  | case1 => exact Nat.le_refl 0
  | case2 c =>
    by_cases hc : c = '\\'
    · subst hc
      exact Nat.zero_le _
    · rw [unescape_plain hc]
      exact Nat.le_refl 1
  | case3 d r ih =>
    rw [unescape_backslash, List.length_cons, List.length_cons, List.length_cons]
    omega
  | case4 c d r hc ih =>
    rw [unescape_plain hc, List.length_cons, List.length_cons]
    omega

/-! ### Extents -/

namespace Extent

theorem nil (h : AtEnd ends rest) : Extent ends rest [] rest := ⟨rfl, h, nofun, nofun⟩

theorem lone : Extent ends ['\\'] ['\\'] [] :=
  ⟨rfl, trivial, fun c _ hc hmem => hc (by simpa [pieces] using hmem), fun _ => rfl⟩

theorem backslash (d : Char) (h : Extent ends s raw rest) :
    Extent ends ('\\' :: d :: s) ('\\' :: d :: raw) rest where
  append_eq := by rw [← h.append_eq]; rfl
  atEnd := h.atEnd
  not_mem c hc hne := by
    rw [pieces_backslash, List.mem_cons, not_or]
    exact ⟨by simp, h.not_mem c hc hne⟩
  eq_nil_of_lone hmem := by
    rw [pieces_backslash, List.mem_cons] at hmem
    exact h.eq_nil_of_lone (hmem.resolve_left (by simp))

theorem plain (hb : c ≠ '\\') (hc : c ∉ ends) (h : Extent ends s raw rest) :
    Extent ends (c :: s) (c :: raw) rest where
  append_eq := by rw [← h.append_eq]; rfl
  atEnd := h.atEnd
  not_mem e he hne := by
    rw [pieces_plain hb, List.mem_cons, not_or, List.singleton_inj]
    exact ⟨fun hec => hc (hec ▸ he), h.not_mem e he hne⟩
  eq_nil_of_lone hmem := by
    rw [pieces_plain hb, List.mem_cons, List.singleton_inj] at hmem
    exact h.eq_nil_of_lone (hmem.resolve_left (Ne.symm hb))

end Extent

theorem exists_extent (ends s : List Char) : ∃ raw rest, Extent ends s raw rest := by
  fun_induction pieces s with
  | case1 => exact ⟨[], [], .nil trivial⟩
  | case2 c =>
    by_cases hb : c = '\\'
    · subst hb
      exact ⟨_, _, .lone⟩
    · by_cases hc : c ∈ ends
      · exact ⟨_, _, .nil ⟨hc, hb⟩⟩
      · exact ⟨_, _, .plain hb hc (.nil trivial)⟩
  | case3 d r ih =>
    obtain ⟨raw, rest, h⟩ := ih
    exact ⟨_, _, h.backslash d⟩
  | case4 c d r hb ih =>
    obtain ⟨raw, rest, h⟩ := ih
    by_cases hc : c ∈ ends
    · exact ⟨_, _, .nil ⟨hc, hb⟩⟩
    · exact ⟨_, _, h.plain hb hc⟩

theorem scanUntil_of_atEnd (h : AtEnd ends rest) : scanUntil ends rest = ([], rest) := by
  cases rest with
  | nil => rfl
  | cons c r => exact scanUntil_end h.2 h.1 r

theorem scanUntil_of_extent (h : Extent ends s raw rest) :
    scanUntil ends s = (unescape raw, rest) := by
  obtain ⟨rfl, hend, hmem, hlone⟩ := h
  fun_induction pieces raw with
  | case1 => exact scanUntil_of_atEnd hend
  | case2 c =>
    by_cases hb : c = '\\'
    · subst hb
      obtain rfl := hlone List.mem_cons_self
      rfl
    · have hc : c ∉ ends := fun hc => hmem c hc hb List.mem_cons_self
      rw [List.cons_append, List.nil_append, scanUntil_plain hb hc, scanUntil_of_atEnd hend,
        unescape_plain hb]
      rfl
  | case3 d r ih =>
    rw [List.cons_append, List.cons_append, scanUntil_backslash, unescape_backslash,
      ih (fun c hc hne hr => hmem c hc hne (List.mem_cons_of_mem _ hr))
        fun hr => hlone (List.mem_cons_of_mem _ hr)]
  | case4 c d r hb ih =>
    have hc : c ∉ ends := fun hc => hmem c hc hb List.mem_cons_self
    rw [List.cons_append, scanUntil_plain hb hc, unescape_plain hb,
      ih (fun c hc hne hr => hmem c hc hne (List.mem_cons_of_mem _ hr))
        fun hr => hlone (List.mem_cons_of_mem _ hr)]

/-- What is read, as what is taken off the front stands for, and what is left. -/
theorem exists_extent_scanUntil (ends s : List Char) : ∃ raw,
    Extent ends s raw (scanUntil ends s).2 ∧ (scanUntil ends s).1 = unescape raw := by
  obtain ⟨raw, rest, h⟩ := exists_extent ends s
  rw [scanUntil_of_extent h]
  exact ⟨raw, h, rfl⟩

/-- Reading stops just where the text ends or an end stands that no backslash takes, and gives what
is before it, unescaped. Escaped text is read back. -/
theorem scanUntil_splits (ends : List Char) :
    (∀ s t rest, scanUntil ends s = (t, rest) ↔ ∃ raw, Extent ends s raw rest ∧ t = unescape raw) ∧
    ∀ t rest, AtEnd ends rest → scanUntil ends (escape ends t ++ rest) = (t, rest) := by
  refine ⟨fun s t rest => ⟨fun h => ?_, ?_⟩, fun t rest hend => ?_⟩
  · obtain ⟨raw, hraw, ht⟩ := exists_extent_scanUntil ends s
    rw [h] at hraw ht
    exact ⟨raw, hraw, ht⟩
  · rintro ⟨raw, hraw, rfl⟩
    exact scanUntil_of_extent hraw
  · rw [scanUntil_escape_append, scanUntil_of_atEnd hend, List.append_nil]

/-- An end that is a backslash, a backslash with nothing behind it, and text behind an end. -/
theorem scanUntil_splits_colon :
    Extent [':', '\\'] "tag\\:x:rest".toList "tag\\:x".toList ":rest".toList ∧
    scanUntil [':', '\\'] "tag\\:x:rest".toList = ("tag:x".toList, ":rest".toList) ∧
    Extent [':', '\\'] "a\\\\b\\".toList "a\\\\b\\".toList [] ∧
    scanUntil [':', '\\'] "a\\\\b\\".toList = ("a\\b".toList, []) ∧
    AtEnd [':', '\\'] ":rest".toList ∧
    scanUntil [':', '\\'] (escape [':', '\\'] "a:\\".toList ++ ":rest".toList) =
      ("a:\\".toList, ":rest".toList) := by
  obtain ⟨hsplits, hescape⟩ := scanUntil_splits [':', '\\']
  have hcolon : Extent [':', '\\'] "tag\\:x:rest".toList "tag\\:x".toList ":rest".toList :=
    ⟨by decide, by decide, by simp [pieces], by decide⟩
  have hlone : Extent [':', '\\'] "a\\\\b\\".toList "a\\\\b\\".toList [] :=
    ⟨by decide, by decide, by simp [pieces], by decide⟩
  exact ⟨hcolon, (hsplits _ _ _).2 ⟨_, hcolon, by decide⟩, hlone,
    (hsplits _ _ _).2 ⟨_, hlone, by decide⟩, by decide, hescape _ _ (by decide)⟩

end RecipeBook.Scanner
