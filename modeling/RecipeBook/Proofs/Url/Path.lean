import Mathlib.Data.List.Flatten
import RecipeBook.Proofs.Text.Pieces
import RecipeBook.Proofs.Text.Trimmed
import RecipeBook.Proofs.Url.Percent
import RecipeBook.Url

/-!
# Relative paths in URLs

A relative path is followed from the root of a site (`exists_join`). One in which nothing means anything
else in a URL is the path that is then reached, encoded. Of any other, what is reached differs: whatever
else a URL makes of a text makes it shorter, but for backslashes, which are slashes then.
-/

namespace RecipeBook.Url

open Percent (encode encoded hasCode pathSet utf8)

/-- Characters that a URL leaves out, or that end its path. -/
def dropped : List Char := ['\t', '\n', '\r', '#', '?']

/-- A text in which nothing means anything else in the path of a URL. -/
structure IsLiteral (s : List Char) : Prop where
  not_mem_dropped : ∀ c ∈ s, c ∉ dropped
  backslash_not_mem : '\\' ∉ s
  hasCode_eq : hasCode s = false

instance (s : List Char) : Decidable (IsLiteral s) :=
  decidable_of_iff (s.all (· ∉ dropped) = true ∧ '\\' ∉ s ∧ hasCode s = false)
    ⟨fun h => ⟨by simpa using h.1, h.2.1, h.2.2⟩, fun h => ⟨by simpa using h.1, h.2, h.3⟩⟩

/-- A name that leads nowhere or up. -/
def isDots (name : List Char) : Bool := isDot (encode pathSet name) || isTwoDots (encode pathSet name)

/-- The path with these names. -/
def written (names : List (List Char)) : List Char := names.flatMap fun name => '/' :: name

/-- The octets of the path with these names. -/
def weight (names : List (List Char)) : Nat := (utf8 (written names)).length

/-- A walk along names leaves these: all of them, or less if some are dots. -/
def Leaves (names left : List (List Char)) : Prop :=
  left = names ∨ (∃ name ∈ names, isDots name = true) ∧ weight left < weight names

variable {s : List Char} {name : List Char} {names names' left left' base : List (List Char)}

/-! ### Names -/

theorem written_append (names names' : List (List Char)) :
    written (names ++ names') = written names ++ written names' := List.flatMap_append

theorem written_splitOn (s : List Char) : written (Text.splitOn '/' s) = '/' :: s := by
  induction s with
  | nil => rfl
  | cons c s ih =>
    rw [Text.splitOn]
    split
    · next hc =>
      subst hc
      exact congrArg ('/' :: ·) ih
    · split
      · next hnil => exact absurd hnil (Text.splitOn_ne_nil '/' s)
      · next first rest hsplit =>
        rw [hsplit] at ih
        exact congrArg ('/' :: c :: ·) (List.cons.inj ih).2

theorem encode_written (names : List (List Char)) :
    encode pathSet (written names) = written (names.map (encode pathSet)) := by
  induction names with
  | nil => rfl
  | cons name names ih =>
    have hslash : encode pathSet ('/' :: name) = '/' :: encode pathSet name :=
      Percent.encode_cons_of_not_isCoded (by decide) name
    rw [written, List.flatMap_cons, Percent.encode_append, hslash, ← written, ih]
    rfl

theorem weight_append (names names' : List (List Char)) :
    weight (names ++ names') = weight names + weight names' := by
  rw [weight, written_append, Percent.utf8_append, List.length_append]
  rfl

theorem weight_singleton (name : List Char) : weight [name] = 1 + (utf8 name).length := by
  rw [weight, written, List.flatMap_singleton, Percent.utf8_cons, List.length_append]
  rfl

theorem weight_le_of_prefix (h : left <+: names) : weight left ≤ weight names := by
  obtain ⟨rest, rfl⟩ := h
  rw [weight_append]
  omega

theorem length_utf8_pos_of_isDots (h : isDots name = true) : 0 < (utf8 name).length := by
  cases name with
  | nil => exact absurd h (by decide)
  | cons c r =>
    rw [Percent.utf8_cons, List.length_append]
    have := List.length_pos_iff.2 (String.utf8EncodeChar_ne_nil (c := c))
    omega

/-- Dots end in a full stop, or in the last digit of its code. -/
theorem isDots_of_getLast? (h : name.getLast? = some 'g') : isDots name = false := by
  obtain ⟨front, rfl⟩ := List.getLast?_eq_some_iff.1 h
  have hencode : encode pathSet (front ++ ['g']) = encode pathSet front ++ ['g'] := by
    rw [Percent.encode_append]
    rfl
  have hne : ∀ t u : List Char, u.getLast? ≠ some 'g' → ¬ t ++ ['g'] = u := fun t u hu => by
    rintro rfl
    exact hu List.getLast?_concat
  rw [isDots, hencode, isDot, isTwoDots, List.map_append, List.map_singleton]
  simp only [Bool.or_eq_false_iff, beq_eq_false_iff_ne, List.any_eq_false, List.forall_mem_cons, beq_iff_eq]
  exact ⟨⟨hne _ _ (by decide), hne _ _ (by decide)⟩, hne _ _ (by decide), hne _ _ (by decide),
    hne _ _ (by decide), hne _ _ (by decide), nofun⟩

/-! ### Walks -/

theorem Leaves.append_right (h : Leaves names left) (rest : List (List Char)) :
    Leaves (names ++ rest) (left ++ rest) := by
  rcases h with rfl | ⟨⟨name, hname, hdots⟩, hlt⟩
  · exact .inl rfl
  · refine .inr ⟨⟨name, List.mem_append_left rest hname, hdots⟩, ?_⟩
    rw [weight_append, weight_append]
    omega

theorem Leaves.weight_le (h : Leaves names left) : weight left ≤ weight names := by
  rcases h with rfl | ⟨-, hlt⟩
  · exact Nat.le_refl _
  · exact Nat.le_of_lt hlt

theorem Leaves.trans (h : Leaves names left) (h' : Leaves left left') : Leaves names left' := by
  rcases h with rfl | ⟨hdots, hlt⟩
  · exact h'
  · exact .inr ⟨hdots, Nat.lt_of_le_of_lt h'.weight_le hlt⟩

theorem exists_up (base : List (List Char)) :
    ∃ left, up (base.map (encode pathSet)) = left.map (encode pathSet) ∧ left <+: base := by
  rw [up]
  split
  · exact ⟨base, rfl, List.prefix_refl base⟩
  · exact ⟨base.dropLast, List.map_dropLast.symm, List.dropLast_prefix base⟩

/-- Dots leave at most an empty name. -/
theorem exists_ending (hup : left <+: base) (h : isDots name = true) (isLast : Bool) : ∃ left',
    left.map (encode pathSet) ++ (if isLast then [[]] else []) = left'.map (encode pathSet) ∧
      Leaves (base ++ [name]) left' := by
  have hending : weight (if isLast then [[]] else []) ≤ 1 := by cases isLast <;> decide
  have hle := weight_le_of_prefix hup
  have hname := length_utf8_pos_of_isDots h
  refine ⟨left ++ if isLast then [[]] else [], by cases isLast <;> simp [encode], .inr ⟨?_, ?_⟩⟩
  · exact ⟨name, List.mem_append_right base List.mem_cons_self, h⟩
  · rw [weight_append, weight_append, weight_singleton]
    omega

theorem exists_step (base : List (List Char)) (name : List Char) (isLast : Bool) :
    ∃ left, step (base.map (encode pathSet)) name isLast = left.map (encode pathSet) ∧
      Leaves (base ++ [name]) left := by
  rw [step]
  split
  · next htwo =>
    obtain ⟨left, hleft, hprefix⟩ := exists_up base
    rw [hleft]
    exact exists_ending hprefix (by rw [isDots, htwo, Bool.or_true]) isLast
  · split
    · next hone =>
      exact exists_ending (List.prefix_refl base) (by rw [isDots, hone, Bool.true_or]) isLast
    · exact ⟨base ++ [name], by rw [List.map_append]; rfl, .inl rfl⟩

theorem exists_walk (base names : List (List Char)) :
    ∃ left, walk (base.map (encode pathSet)) names = left.map (encode pathSet) ∧
      Leaves (base ++ names) left := by
  induction names generalizing base with
  | nil => exact ⟨base, rfl, .inl (List.append_nil base).symm⟩
  | cons name rest ih =>
    cases rest with
    | nil => exact exists_step base name true
    | cons name' rest =>
      obtain ⟨left, hleft, hleaves⟩ := exists_step base name false
      obtain ⟨left', hleft', hleaves'⟩ := ih left
      refine ⟨left', by rw [walk, hleft, hleft']; exact nofun, ?_⟩
      have happend : base ++ name :: name' :: rest = base ++ [name] ++ name' :: rest := by
        rw [List.append_assoc, List.singleton_append]
      rw [happend]
      exact (hleaves.append_right _).trans hleaves'

/-! ### References -/

/-- The root of a site. -/
def root : Url := ⟨"http", some "localhost", .segments [[]], none, none⟩

/-- The text is a path from a folder: no blank ends, and no dots among its names. -/
structure IsBelow (s : List Char) : Prop where
  head : ∀ c ∈ s.head?, isTrimmed c = false
  last : ∀ c ∈ s.getLast?, isTrimmed c = false
  isDots_eq : ∀ name ∈ Text.splitOn '/' s, isDots name = false

/-- What a URL takes for the path in a text. -/
def pathIn (s : List Char) : List Char := (tails (cleaned s)).1

theorem cleaned_eq_filter (s : List Char) : cleaned s =
    ((s.dropWhile isTrimmed).rdropWhile isTrimmed).filter fun c => c ≠ '\t' && c ≠ '\n' && c ≠ '\r' :=
  rfl

theorem pathIn_eq_takeWhile (s : List Char) :
    pathIn s = ((cleaned s).takeWhile (· ≠ '#')).takeWhile (· ≠ '?') := rfl

theorem pathIn_sublist (s : List Char) : (pathIn s).Sublist s := by
  rw [pathIn_eq_takeWhile, cleaned_eq_filter]
  exact ((List.takeWhile_sublist _).trans (List.takeWhile_sublist _)).trans (List.filter_sublist.trans
    ((List.rdropWhile_prefix _ _).sublist.trans (List.dropWhile_sublist _)))

theorem not_mem_dropped {c : Char} (h : c ∈ pathIn s) : c ∉ dropped := by
  rw [pathIn_eq_takeWhile] at h
  have hfragment := (List.takeWhile_sublist _).subset h
  have hcleaned := (List.mem_filter.1 ((List.takeWhile_sublist _).subset hfragment)).2
  have hquery := List.mem_takeWhile_imp h
  have hmark := List.mem_takeWhile_imp hfragment
  simp_all [dropped]

theorem pathIn_eq_self (hs : IsBelow s) (h : ∀ c ∈ s, c ∉ dropped) : pathIn s = s := by
  have hne : ∀ c ∈ s, ∀ d ∈ dropped, c ≠ d := fun c hc d hd hcd => h c hc (hcd ▸ hd)
  have hcleaned : cleaned s = s := by
    rw [cleaned_eq_filter, Text.rdropWhile_dropWhile_eq_self hs.head hs.last, List.filter_eq_self]
    intro c hc
    have := hne c hc
    simp_all [dropped]
  have hfragment : s.takeWhile (· ≠ '#') = s :=
    List.takeWhile_eq_self_iff.2 fun c hc => decide_eq_true (hne c hc '#' (by decide))
  rw [pathIn_eq_takeWhile, hcleaned, hfragment]
  exact List.takeWhile_eq_self_iff.2 fun c hc => decide_eq_true (hne c hc '?' (by decide))

/-- A backslash counts as a slash. -/
def slashed (s : List Char) : List Char := s.map fun c => if c = '\\' then '/' else c

theorem names_root (s : List Char) :
    Url.names (Kind.ofScheme root.scheme) s = Text.splitOn '/' (slashed s) := by
  refine congrArg (Text.splitOn '/') (List.map_congr_left fun c _ => ?_)
  have hslash : (Kind.ofScheme root.scheme).isSlash c = (c == '/' || c == '\\') := by
    rw [Kind.isSlash]
    exact congrArg _ (Bool.and_true _)
  rw [hslash]
  by_cases hc : c = '/'
  · subst hc
    rfl
  · by_cases hb : c = '\\' <;> simp [hc, hb]

theorem length_utf8_slashed (s : List Char) : (utf8 (slashed s)).length = (utf8 s).length := by
  induction s with
  | nil => rfl
  | cons c s ih =>
    rw [slashed, List.map_cons, ← slashed, Percent.utf8_cons, Percent.utf8_cons, List.length_append,
      List.length_append, ih]
    split
    · next hc => rw [hc]; rfl
    · rfl

theorem slashed_eq_self_iff : slashed s = s ↔ '\\' ∉ s := by
  constructor
  · intro h hmem
    rw [← h] at hmem
    obtain ⟨c, -, hc⟩ := List.mem_map.1 hmem
    split at hc
    · exact absurd hc (by decide)
    · next hne => exact hne hc
  · intro h
    have hsame : ∀ c ∈ s, (if c = '\\' then '/' else c) = c := fun c hc => by
      rw [if_neg fun hb : c = '\\' => h (hb ▸ hc)]
    exact (List.map_congr_left hsame).trans (List.map_id s)

theorem exists_join_eq_ok (s : List Char) : ∃ left u, root.join (.ofList s) = .ok u ∧
    u.pathText = .ofList (encode pathSet (written left)) ∧
    Leaves (Text.splitOn '/' (slashed (pathIn s))) left := by
  obtain ⟨left, hleft, hleaves⟩ := exists_walk [] (Text.splitOn '/' (slashed (pathIn s)))
  refine ⟨left, _, rfl, ?_, hleaves⟩
  rw [encode_written, ← hleft, String.toList_ofList, ← names_root]
  rfl

/-! ### The path that is reached -/

theorem weight_splitOn_slashed (s : List Char) :
    weight (Text.splitOn '/' (slashed s)) = 1 + (utf8 s).length := by
  rw [weight, written_splitOn, Percent.utf8_cons, List.length_append, length_utf8_slashed]
  rfl

/-- A literal path is all that is reached. -/
theorem written_eq_of_isLiteral (hs : IsBelow s) (h : IsLiteral s)
    (hleaves : Leaves (Text.splitOn '/' (slashed (pathIn s))) left) : written left = '/' :: s := by
  rw [pathIn_eq_self hs h.not_mem_dropped, slashed_eq_self_iff.2 h.backslash_not_mem] at hleaves
  rcases hleaves with rfl | ⟨⟨name, hname, hdots⟩, -⟩
  · exact written_splitOn s
  · rw [hs.isDots_eq name hname] at hdots
    cases hdots

/-- No other path is read back from what is reached. -/
theorem isLiteral_of_decode_eq (hleaves : Leaves (Text.splitOn '/' (slashed (pathIn s))) left)
    (h : Percent.decode (encoded (written left)) = utf8 ('/' :: s)) : IsLiteral s := by
  -- at every step there are no more octets than before, and so there are as many
  have hlength : (Percent.decode (encoded (written left))).length = 1 + (utf8 s).length := by
    rw [h, Percent.utf8_cons, List.length_append]
    rfl
  have hdecode : (Percent.decode (encoded (written left))).length ≤ weight left :=
    Percent.length_decode_encoded_le _
  have hsublist : (utf8 (pathIn s)).Sublist (utf8 s) := (pathIn_sublist s).flatMap _
  have hleft := hleaves.weight_le
  rw [weight_splitOn_slashed] at hleft
  have hpath : pathIn s = s := Percent.utf8_inj.1 (hsublist.eq_of_length_le (by omega))
  rw [hpath] at hleaves hleft
  obtain rfl : left = Text.splitOn '/' (slashed s) := by
    refine hleaves.resolve_right fun hlt => ?_
    rw [weight_splitOn_slashed] at hlt
    omega
  have hcode : hasCode (written (Text.splitOn '/' (slashed s))) = false := by
    refine Bool.eq_false_iff.2 fun hcode => ?_
    have hlt : (Percent.decode (encoded _)).length < weight _ := Percent.length_decode_encoded_lt hcode
    omega
  rw [Percent.decode_encoded hcode, Percent.utf8_inj, written_splitOn, List.cons.injEq] at h
  rw [written_splitOn, h.2] at hcode
  exact ⟨fun c hc => not_mem_dropped (hpath.symm ▸ hc), slashed_eq_self_iff.1 h.2, hcode⟩

/-- A path is followed from the root to an encoded path. It is the path itself if that is literal, and
otherwise one that is not read back as it. -/
theorem exists_join (hs : IsBelow s) : ∃ q u, root.join (.ofList s) = .ok u ∧
    u.pathText = .ofList (encode pathSet q) ∧ (IsLiteral s → q = '/' :: s) ∧
    (Percent.decode (encoded q) = utf8 ('/' :: s) ↔ IsLiteral s) := by
  obtain ⟨left, u, hu, htext, hleaves⟩ := exists_join_eq_ok s
  refine ⟨written left, u, hu, htext, fun h => written_eq_of_isLiteral hs h hleaves,
    isLiteral_of_decode_eq hleaves, fun h => ?_⟩
  rw [written_eq_of_isLiteral hs h hleaves]
  exact Percent.decode_encoded h.hasCode_eq

end RecipeBook.Url
