import RecipeBook.Proofs.FirstOccurrence
import RecipeBook.Totals

/-!
# Totals in closed form

`closedForm serves l` says what the totals of the occurrences `l` are without merging them one by
one: an entry for each name and unit that occurs with an amount, in the order of the first such
occurrence, and behind them one for each that only occurs without. The lemmas say what one more
occurrence changes: the keys of the two blocks, the sum and the share of its own key.
-/

namespace RecipeBook

namespace Ingredient

/-- What totals are kept for: a name and a unit, letter by letter. -/
def key (i : Ingredient) : String × Option String := (i.name, i.unit)

theorem sameKey_iff {a b : Ingredient} : a.sameKey b ↔ a.key = b.key := by
  simp [sameKey, key]

theorem isQuantified_of_some {i : Ingredient} {a : Float} (h : i.amount = some a) :
    i.isQuantified := by
  rw [isQuantified, h, Option.isSome_some]

theorem not_isQuantified_iff {i : Ingredient} : i.isQuantified = false ↔ i.amount = none := by
  rw [isQuantified, Option.isSome_eq_false_iff, Option.isNone_iff_eq_none]

/-- The share of one serving in an amount is the amount over the serving count. -/
theorem make_eq (serves : Nat) (name : String) (amount : Option Float) (unit : Option String) :
    make serves name amount unit = ⟨name, amount, unit, amount.map (· / Float.ofNat serves)⟩ := rfl

theorem addOption_eq_merge (x y : Option Float) : addOption x y = Option.merge (· + ·) x y := by
  cases x <;> cases y <;> rfl

end Ingredient

namespace Totals

abbrev Key := String × Option String

/-- The occurrences of a name and unit. -/
def occurrences (l : List Ingredient) (k : Key) : List Ingredient := l.filter (·.key = k)

/-- What occurs with an amount, in the order of the first such occurrence. -/
def quantifiedKeys (l : List Ingredient) : List Key :=
  ((l.filter Ingredient.isQuantified).map Ingredient.key).eraseDups

/-- What only occurs without an amount, in the order of the first occurrence. -/
def bareKeys (l : List Ingredient) : List Key :=
  (l.map Ingredient.key).eraseDups.filter (· ∉ quantifiedKeys l)

/-- The sum from left to right, if there is anything to add up. -/
def sum? : List Float → Option Float
  | [] => none
  | a :: as => some (as.foldl (· + ·) a)

/-- The share that the first amount brings: the amount over the serving count if it is what occurs
first, otherwise the share that the occurrence has itself. -/
def firstShare (serves : Nat) : List Ingredient → Option Float
  | [] => none
  | first :: later =>
    match first.amount with
    | some a => some (a / Float.ofNat serves)
    | none => (later.find? Ingredient.isQuantified).bind Ingredient.perServing

/-- The first share and those of the later occurrences with an amount, as far as they have one. -/
def shares (serves : Nat) (occurrences : List Ingredient) : Option Float :=
  ((occurrences.filter Ingredient.isQuantified).tail.map Ingredient.perServing).foldl
    (Option.merge (· + ·)) (firstShare serves occurrences)

/-- The entry of what occurs with an amount. -/
def total (serves : Nat) (l : List Ingredient) (k : Key) : Ingredient where
  name := k.1
  amount := sum? ((occurrences l k).filterMap Ingredient.amount)
  unit := k.2
  perServing := shares serves (occurrences l k)

/-- The entry of what only occurs without an amount. -/
def bare (k : Key) : Ingredient := ⟨k.1, none, k.2, none⟩

def closedForm (serves : Nat) (l : List Ingredient) : Totals :=
  (quantifiedKeys l).map (total serves l) ++ (bareKeys l).map bare

variable {serves : Nat} {l : List Ingredient} {new : Ingredient} {k : Key}

@[simp] theorem key_total : (total serves l k).key = k := rfl

@[simp] theorem key_bare : (bare k).key = k := rfl

/-! ### Names and units -/

theorem mem_quantifiedKeys : k ∈ quantifiedKeys l ↔ ∃ i ∈ l, i.isQuantified ∧ i.key = k := by
  simp only [quantifiedKeys, List.mem_eraseDups, List.mem_map, List.mem_filter, and_assoc]

theorem mem_bareKeys : k ∈ bareKeys l ↔ k ∈ l.map Ingredient.key ∧ k ∉ quantifiedKeys l := by
  simp only [bareKeys, List.mem_filter, List.mem_eraseDups, decide_eq_true_eq]

theorem nodup_quantifiedKeys : (quantifiedKeys l).Nodup := nodup_eraseDups _

theorem nodup_bareKeys : (bareKeys l).Nodup := (nodup_eraseDups _).filter _

theorem mem_keys_of_mem_quantifiedKeys (h : k ∈ quantifiedKeys l) : k ∈ l.map Ingredient.key := by
  obtain ⟨i, hi, -, rfl⟩ := mem_quantifiedKeys.1 h
  exact List.mem_map_of_mem hi

theorem filter_concat_of_quantified (h : new.isQuantified) :
    (l ++ [new]).filter Ingredient.isQuantified = l.filter Ingredient.isQuantified ++ [new] := by
  rw [List.filter_append, List.filter_singleton, h, cond_true]

theorem filter_concat_of_bare (h : new.isQuantified = false) :
    (l ++ [new]).filter Ingredient.isQuantified = l.filter Ingredient.isQuantified := by
  rw [List.filter_append, List.filter_singleton, h, cond_false, List.append_nil]

theorem quantifiedKeys_concat_of_bare (h : new.isQuantified = false) :
    quantifiedKeys (l ++ [new]) = quantifiedKeys l := by
  rw [quantifiedKeys, filter_concat_of_bare h, quantifiedKeys]

theorem quantifiedKeys_concat_of_mem (h : new.isQuantified) (hk : new.key ∈ quantifiedKeys l) :
    quantifiedKeys (l ++ [new]) = quantifiedKeys l := by
  rw [quantifiedKeys, List.mem_eraseDups] at hk
  rw [quantifiedKeys, filter_concat_of_quantified h, List.map_append, List.map_singleton,
    eraseDups_concat_of_mem hk, quantifiedKeys]

theorem quantifiedKeys_concat_of_not_mem (h : new.isQuantified) (hk : new.key ∉ quantifiedKeys l) :
    quantifiedKeys (l ++ [new]) = quantifiedKeys l ++ [new.key] := by
  rw [quantifiedKeys, List.mem_eraseDups] at hk
  rw [quantifiedKeys, filter_concat_of_quantified h, List.map_append, List.map_singleton,
    eraseDups_concat_of_not_mem hk, quantifiedKeys]

/-- What occurs with an amount leaves the entries without one. -/
theorem bareKeys_concat_of_quantified (h : new.isQuantified) :
    bareKeys (l ++ [new]) = (bareKeys l).filter (· ≠ new.key) := by
  have hmem : ∀ k, k ∈ quantifiedKeys (l ++ [new]) ↔ k ∈ quantifiedKeys l ∨ k = new.key := by
    intro k
    by_cases hq : new.key ∈ quantifiedKeys l
    · rw [quantifiedKeys_concat_of_mem h hq]
      exact ⟨.inl, fun hk => hk.elim id fun he => he ▸ hq⟩
    · rw [quantifiedKeys_concat_of_not_mem h hq, List.mem_append, List.mem_singleton]
  simp only [bareKeys, List.filter_filter, hmem, List.map_append, List.map_singleton]
  by_cases hk : new.key ∈ l.map Ingredient.key
  · rw [eraseDups_concat_of_mem hk]
    exact List.filter_congr fun k _ => by simp [not_or, and_comm]
  · rw [eraseDups_concat_of_not_mem hk, List.filter_append]
    have : [new.key].filter (fun k => ¬ (k ∈ quantifiedKeys l ∨ k = new.key)) = [] := by simp
    rw [this, List.append_nil]
    exact List.filter_congr fun k _ => by simp [not_or, and_comm]

theorem bareKeys_concat_of_mem (h : new.isQuantified = false) (hk : new.key ∈ l.map Ingredient.key) :
    bareKeys (l ++ [new]) = bareKeys l := by
  rw [bareKeys, quantifiedKeys_concat_of_bare h, List.map_append, List.map_singleton,
    eraseDups_concat_of_mem hk, bareKeys]

theorem bareKeys_concat_of_not_mem (h : new.isQuantified = false)
    (hk : new.key ∉ l.map Ingredient.key) :
    bareKeys (l ++ [new]) = bareKeys l ++ [new.key] := by
  have hq : new.key ∉ quantifiedKeys l := mt mem_keys_of_mem_quantifiedKeys hk
  rw [bareKeys, quantifiedKeys_concat_of_bare h, List.map_append, List.map_singleton,
    eraseDups_concat_of_not_mem hk, List.filter_append, bareKeys]
  simp [hq]

/-! ### Amounts and shares -/

theorem sum?_concat (as : List Float) (a : Float) :
    sum? (as ++ [a]) = Option.merge (· + ·) (sum? as) (some a) := by
  cases as with
  | nil => rfl
  | cons b as => simp only [List.cons_append, sum?, List.foldl_append, List.foldl_cons,
      List.foldl_nil, Option.merge]

theorem sum?_isSome {as : List Float} (h : as ≠ []) : (sum? as).isSome := by
  cases as with
  | nil => exact absurd rfl h
  | cons a as => rfl

theorem occurrences_concat_self :
    occurrences (l ++ [new]) new.key = occurrences l new.key ++ [new] := by
  simp [occurrences]

theorem occurrences_concat_of_ne (h : k ≠ new.key) : occurrences (l ++ [new]) k = occurrences l k := by
  simp [occurrences, h.symm]

theorem total_concat_of_ne (h : k ≠ new.key) : total serves (l ++ [new]) k = total serves l k := by
  rw [total, occurrences_concat_of_ne h, total]

theorem occurrences_eq_nil_iff : occurrences l k = [] ↔ k ∉ l.map Ingredient.key := by
  simp [occurrences, List.filter_eq_nil_iff]

theorem filter_occurrences_eq_nil_iff :
    (occurrences l k).filter Ingredient.isQuantified = [] ↔ k ∉ quantifiedKeys l := by
  simp only [List.filter_eq_nil_iff, occurrences, List.mem_filter, decide_eq_true_eq,
    mem_quantifiedKeys]
  grind

/-- The amounts of some occurrences are those of the occurrences that have one. -/
theorem filterMap_amount_eq_nil {occ : List Ingredient}
    (h : occ.filter Ingredient.isQuantified = []) : occ.filterMap Ingredient.amount = [] := by
  rw [List.filterMap_eq_nil_iff]
  intro i hi
  exact Ingredient.not_isQuantified_iff.1 (by simpa using List.filter_eq_nil_iff.1 h i hi)

theorem exists_amount_total (serves : Nat) (hk : k ∈ quantifiedKeys l) :
    ∃ a, (total serves l k).amount = some a := by
  refine Option.isSome_iff_exists.1 (sum?_isSome fun h => ?_)
  refine mt filter_occurrences_eq_nil_iff.1 (not_not.2 hk) (List.filter_eq_nil_iff.2 fun i hi => ?_)
  simp [Ingredient.isQuantified, List.filterMap_eq_nil_iff.1 h i hi]

section
variable {occ : List Ingredient}

theorem firstShare_concat_of_bare (h : new.isQuantified = false) (hocc : occ ≠ []) :
    firstShare serves (occ ++ [new]) = firstShare serves occ := by
  cases occ with
  | nil => exact absurd rfl hocc
  | cons first later =>
    simp only [List.cons_append, firstShare, List.find?_append, List.find?_singleton, h]
    simp

theorem firstShare_concat_of_quantified (hocc : occ.filter Ingredient.isQuantified ≠ []) :
    firstShare serves (occ ++ [new]) = firstShare serves occ := by
  cases occ with
  | nil => exact absurd rfl hocc
  | cons first later =>
    simp only [List.cons_append, firstShare]
    cases ha : first.amount with
    | some a => rfl
    | none =>
      have hlater : (later.find? Ingredient.isQuantified).isSome := by
        rw [List.filter_cons_of_neg (by simp [Ingredient.isQuantified, ha])] at hocc
        obtain ⟨i, hi⟩ := List.exists_mem_of_ne_nil _ hocc
        exact List.find?_isSome.2 ⟨i, List.mem_filter.1 hi⟩
      simp only [List.find?_append, Option.or_of_isSome hlater]

theorem shares_concat_of_bare (h : new.isQuantified = false) (hocc : occ ≠ []) :
    shares serves (occ ++ [new]) = shares serves occ := by
  rw [shares, filter_concat_of_bare h, firstShare_concat_of_bare h hocc, shares]

theorem shares_concat_of_quantified (h : new.isQuantified)
    (hocc : occ.filter Ingredient.isQuantified ≠ []) :
    shares serves (occ ++ [new]) = Option.merge (· + ·) (shares serves occ) new.perServing := by
  rw [shares, filter_concat_of_quantified h, firstShare_concat_of_quantified hocc,
    List.tail_append_of_ne_nil hocc, List.map_append, List.foldl_append, shares]
  rfl

/-- The first amount of what has occurred without one before brings its own share. -/
theorem shares_concat_of_filter_eq_nil (h : new.isQuantified) (hocc : occ ≠ [])
    (hbare : occ.filter Ingredient.isQuantified = []) :
    shares serves (occ ++ [new]) = new.perServing := by
  rw [shares, filter_concat_of_quantified h, hbare]
  cases occ with
  | nil => exact absurd rfl hocc
  | cons first later =>
    have hall := List.filter_eq_nil_iff.1 hbare
    have hfirst : first.amount = none :=
      Ingredient.not_isQuantified_iff.1 (by simpa using hall first List.mem_cons_self)
    have hlater : later.find? Ingredient.isQuantified = none :=
      List.find?_eq_none.2 fun i hi => hall i (List.mem_cons_of_mem _ hi)
    simp only [List.nil_append, List.tail_cons, List.map_nil, List.foldl_nil, List.cons_append,
      firstShare, hfirst, List.find?_append, hlater, List.find?_singleton, h, if_true, Option.none_or,
      Option.bind_some]

end

/-! ### One more occurrence -/

/-- An occurrence without an amount adds nothing to what has occurred before. -/
theorem total_concat_of_bare (h : new.isQuantified = false) (hk : k ∈ l.map Ingredient.key) :
    total serves (l ++ [new]) k = total serves l k := by
  by_cases hne : k = new.key
  · have hamount := Ingredient.not_isQuantified_iff.1 h
    have hocc : occurrences l new.key ≠ [] := mt occurrences_eq_nil_iff.1 (not_not.2 (hne ▸ hk))
    rw [hne, total, occurrences_concat_self, shares_concat_of_bare h hocc, List.filterMap_append,
      List.filterMap_cons_none hamount, List.filterMap_nil, List.append_nil, total]
  · exact total_concat_of_ne hne

/-- What has not occurred yet. -/
theorem total_concat_of_not_mem {a : Float} (h : new.amount = some a)
    (hk : new.key ∉ l.map Ingredient.key) :
    total serves (l ++ [new]) new.key = Ingredient.make serves new.name new.amount new.unit := by
  have hq := Ingredient.isQuantified_of_some h
  rw [total, occurrences_concat_self, occurrences_eq_nil_iff.2 hk]
  simp [shares, firstShare, hq, h, sum?, Ingredient.make_eq, Ingredient.key]

/-- What has only occurred without an amount. -/
theorem total_concat_of_mem_bareKeys {a : Float} (h : new.amount = some a)
    (hk : new.key ∈ bareKeys l) : total serves (l ++ [new]) new.key =
      { bare new.key with amount := some a, perServing := new.perServing } := by
  obtain ⟨hmem, hnot⟩ := mem_bareKeys.1 hk
  have hq := Ingredient.isQuantified_of_some h
  have hfilter := filter_occurrences_eq_nil_iff.2 hnot
  have hocc : occurrences l new.key ≠ [] := mt occurrences_eq_nil_iff.1 (not_not.2 hmem)
  rw [total, occurrences_concat_self, shares_concat_of_filter_eq_nil hq hocc hfilter,
    List.filterMap_append, filterMap_amount_eq_nil hfilter, List.nil_append,
    List.filterMap_cons_some h]
  rfl

/-- What has occurred with an amount. -/
theorem total_concat_of_mem_quantifiedKeys {old a : Float} (h : new.amount = some a)
    (hk : new.key ∈ quantifiedKeys l) (hold : (total serves l new.key).amount = some old) :
    total serves (l ++ [new]) new.key = (total serves l new.key).plus new old a := by
  have hq := Ingredient.isQuantified_of_some h
  have hfilter := mt filter_occurrences_eq_nil_iff.1 (not_not.2 hk)
  have hsum : sum? ((occurrences l new.key).filterMap Ingredient.amount) = some old := hold
  rw [total, occurrences_concat_self, shares_concat_of_quantified hq hfilter, List.filterMap_append,
    List.filterMap_cons_some h, List.filterMap_nil, sum?_concat, hsum, Ingredient.plus,
    Ingredient.addOption_eq_merge]
  rfl

/-! ### The closed form as a list -/

theorem keys_closedForm :
    (closedForm serves l).map Ingredient.key = quantifiedKeys l ++ bareKeys l := by
  rw [closedForm, List.map_append, List.map_map, List.map_map]
  exact congrArg₂ _ (List.map_id _) (List.map_id _)

theorem mem_keys_closedForm :
    k ∈ (closedForm serves l).map Ingredient.key ↔ k ∈ l.map Ingredient.key := by
  rw [keys_closedForm, List.mem_append, mem_bareKeys]
  constructor
  · rintro (h | h)
    exacts [mem_keys_of_mem_quantifiedKeys h, h.1]
  · intro h
    by_cases hq : k ∈ quantifiedKeys l
    exacts [.inl hq, .inr ⟨h, hq⟩]

theorem nodup_keys_closedForm : ((closedForm serves l).map Ingredient.key).Nodup := by
  rw [keys_closedForm, List.nodup_append]
  refine ⟨nodup_quantifiedKeys, nodup_bareKeys, ?_⟩
  rintro k hq _ hb rfl
  exact (mem_bareKeys.1 hb).2 hq

theorem find?_closedForm_isSome_iff :
    ((closedForm serves l).find? (·.sameKey new)).isSome ↔ new.key ∈ l.map Ingredient.key := by
  simp only [List.find?_isSome, Ingredient.sameKey_iff, ← List.mem_map, mem_keys_closedForm]

theorem isQuantified_of_mem_map_total :
    ∀ e ∈ (quantifiedKeys l).map (total serves l), e.isQuantified := by
  intro e he
  obtain ⟨k, hk, rfl⟩ := List.mem_map.1 he
  obtain ⟨a, ha⟩ := exists_amount_total serves hk
  rw [Ingredient.isQuantified, ha, Option.isSome_some]

theorem not_isQuantified_of_mem_map_bare {ks : List Key} :
    ∀ e ∈ ks.map bare, e.isQuantified = false := by
  intro e he
  obtain ⟨k, -, rfl⟩ := List.mem_map.1 he
  rfl

theorem key_ne_of_mem_map {f : Key → Ingredient} (hf : ∀ k, (f k).key = k) {ks : List Key}
    (h : new.key ∉ ks) : ∀ e ∈ ks.map f, e.key ≠ new.key := by
  intro e he heq
  obtain ⟨k, hk, rfl⟩ := List.mem_map.1 he
  rw [hf] at heq
  exact h (heq ▸ hk)

theorem map_total_concat {ks : List Key} (h : new.key ∉ ks) :
    ks.map (total serves (l ++ [new])) = ks.map (total serves l) :=
  List.map_congr_left fun _ hk => total_concat_of_ne fun he => h (he ▸ hk)

theorem find?_closedForm_eq_none (hk : new.key ∉ l.map Ingredient.key) :
    (closedForm serves l).find? (·.sameKey new) = none :=
  Option.not_isSome_iff_eq_none.1 (mt find?_closedForm_isSome_iff.1 hk)

/-- What gets its first amount comes behind everything else that has one. -/
theorem closedForm_concat_of_not_mem_quantifiedKeys (h : new.isQuantified)
    (hk : new.key ∉ quantifiedKeys l) : closedForm serves (l ++ [new]) =
      (quantifiedKeys l).map (total serves l) ++ total serves (l ++ [new]) new.key ::
        ((bareKeys l).filter (· ≠ new.key)).map bare := by
  rw [closedForm, quantifiedKeys_concat_of_not_mem h hk, bareKeys_concat_of_quantified h,
    List.map_append, map_total_concat hk, List.map_singleton, List.append_assoc,
    List.singleton_append]

end Totals
end RecipeBook
