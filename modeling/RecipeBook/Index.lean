/-!
# Indexes

An index holds one value per key, sorted by key. `find?` is its view: `update` changes what is found
under one key and nothing else (`Sorted.find?_update`), and keeps the index sorted.
-/

namespace RecipeBook

/-- Keys and values, by increasing key. -/
abbrev Index (α : Type) := List (String × α)

namespace Index

variable {α : Type}

def find? (m : Index α) (key : String) : Option α := (m.lookup key)

def keys (m : Index α) : List String := m.map Prod.fst

def values (m : Index α) : List α := m.map Prod.snd

/-- Puts under `key` what `f` makes of the value that is there. -/
def update (key : String) (f : Option α → α) : Index α → Index α
  | [] => [(key, f none)]
  | (k, a) :: rest =>
    if key = k then (k, f (some a)) :: rest
    else if key < k then (key, f none) :: (k, a) :: rest
    else (k, a) :: update key f rest

def insert (m : Index α) (key : String) (a : α) : Index α := m.update key fun _ => a

/-- Every key is less than those behind it. -/
def Sorted (m : Index α) : Prop := m.keys.Pairwise (· < ·)

variable {m : Index α} {key k : String} {a : α} {f : Option α → α}

theorem sorted_nil : Sorted ([] : Index α) := .nil

theorem sorted_cons : Sorted ((k, a) :: m) ↔ (∀ k' ∈ m.keys, k < k') ∧ m.Sorted :=
  List.pairwise_cons

@[simp] theorem find?_nil (k : String) : find? ([] : Index α) k = none := rfl

theorem find?_cons_self (k : String) (a : α) (m : Index α) : find? ((k, a) :: m) k = some a :=
  List.lookup_cons_self

theorem find?_cons_of_ne (h : k ≠ key) (a : α) (m : Index α) :
    find? ((key, a) :: m) k = m.find? k := by
  rw [find?, List.lookup_cons, beq_false_of_ne h]
  rfl

theorem mem_keys_of_find? (h : m.find? k = some a) : k ∈ m.keys := by
  obtain ⟨m₁, m₂, rfl, -⟩ := List.lookup_eq_some_iff.1 h
  exact List.mem_map_of_mem (List.mem_append_right m₁ List.mem_cons_self)

theorem find?_eq_none_of_lt (h : ∀ k' ∈ m.keys, key < k') : m.find? key = none := by
  cases hfind : m.find? key with
  | none => rfl
  | some a => exact absurd (h key (mem_keys_of_find? hfind)) (String.lt_irrefl key)

theorem mem_keys_update : k ∈ (m.update key f).keys ↔ k = key ∨ k ∈ m.keys := by
  induction m with
  | nil => simp [update, keys]
  | cons p m ih =>
    obtain ⟨k', a⟩ := p
    rw [update]
    split
    · next h => simp [keys, h]
    · split
      · simp [keys]
      · simp only [keys, List.map_cons, List.mem_cons] at ih ⊢
        rw [ih, or_left_comm]

theorem Sorted.update (h : m.Sorted) : (m.update key f).Sorted := by
  induction m with
  | nil => exact List.pairwise_singleton _ _
  | cons p m ih =>
    obtain ⟨k', a⟩ := p
    obtain ⟨hlt, hm⟩ := sorted_cons.1 h
    rw [Index.update]
    split
    · exact sorted_cons.2 ⟨hlt, hm⟩
    · next hne =>
      split
      · next hkey =>
        refine sorted_cons.2 ⟨fun k hk => ?_, h⟩
        rcases List.mem_cons.1 hk with rfl | hk
        · exact hkey
        · exact String.lt_trans hkey (hlt k hk)
      · next hkey =>
        have hlt' : k' < key :=
          String.not_le.1 fun hle => hne (String.le_antisymm hle (String.not_lt.1 hkey))
        refine sorted_cons.2 ⟨fun k hk => ?_, ih hm⟩
        rcases mem_keys_update.1 hk with rfl | hk
        · exact hlt'
        · exact hlt k hk

/-- An update changes what is found under its key and nothing else. -/
theorem Sorted.find?_update (h : m.Sorted) (key : String) (f : Option α → α) (k : String) :
    (m.update key f).find? k = if k = key then some (f (m.find? key)) else m.find? k := by
  induction m with
  | nil =>
    split
    · next hk => rw [hk]; exact find?_cons_self key _ _
    · next hk => exact find?_cons_of_ne hk _ _
  | cons p m ih =>
    obtain ⟨k', a⟩ := p
    obtain ⟨hlt, hm⟩ := sorted_cons.1 h
    rw [Index.update]
    split
    · next hkey =>
      subst hkey
      split
      · next hk => rw [hk, find?_cons_self, find?_cons_self]
      · next hk => rw [find?_cons_of_ne hk, find?_cons_of_ne hk]
    · next hne =>
      split
      · next hkey =>
        have hnone : find? ((k', a) :: m) key = none := by
          rw [find?_cons_of_ne hne]
          exact find?_eq_none_of_lt fun k hk => String.lt_trans hkey (hlt k hk)
        split
        · next hk => rw [hk, find?_cons_self, hnone]
        · next hk => rw [find?_cons_of_ne hk]
      · by_cases hk' : k = k'
        · subst hk'
          rw [find?_cons_self, find?_cons_self, if_neg fun hk => hne hk.symm]
        · rw [find?_cons_of_ne hk', find?_cons_of_ne hk', find?_cons_of_ne hne, ih hm]

/-- An update that does not change the value leaves the index as it is. -/
theorem Sorted.update_eq_self (h : m.Sorted) (hfind : m.find? key = some a) (hf : f (some a) = a) :
    m.update key f = m := by
  induction m with
  | nil => cases hfind
  | cons p m ih =>
    obtain ⟨k', b⟩ := p
    obtain ⟨hlt, hm⟩ := sorted_cons.1 h
    rw [Index.update]
    by_cases hkey : key = k'
    · subst hkey
      obtain rfl : b = a := Option.some.inj ((find?_cons_self key b m).symm.trans hfind)
      rw [if_pos rfl, hf]
    · rw [find?_cons_of_ne hkey] at hfind
      have hnot : ¬ key < k' := fun hlt' =>
        String.lt_irrefl key (String.lt_trans hlt' (hlt key (mem_keys_of_find? hfind)))
      rw [if_neg hkey, if_neg hnot, ih hm hfind]

/-- Of two updates under one key the second sees what the first made. -/
theorem update_update (m : Index α) (key : String) (f g : Option α → α) :
    (m.update key g).update key f = m.update key fun a => f (some (g a)) := by
  induction m with
  | nil => simp [update]
  | cons p m ih =>
    obtain ⟨k, a⟩ := p
    simp only [update]
    split
    · next h => rw [h, update, if_pos rfl]
    · next hne =>
      split
      · rw [update, if_pos rfl]
      · next hlt => rw [update, if_neg hne, if_neg hlt, ih]

theorem Sorted.mem_iff (h : m.Sorted) : (k, a) ∈ m ↔ m.find? k = some a := by
  induction m with
  | nil => simp
  | cons p m ih =>
    obtain ⟨k', b⟩ := p
    obtain ⟨hlt, hm⟩ := sorted_cons.1 h
    by_cases hk : k = k'
    · subst hk
      have hnot : (k, a) ∉ m := fun hmem =>
        String.lt_irrefl k (hlt k (List.mem_map_of_mem hmem))
      simp [find?_cons_self, hnot, eq_comm]
    · rw [find?_cons_of_ne hk, ← ih hm, List.mem_cons]
      simp [hk]

theorem Sorted.mem_keys_iff (h : m.Sorted) : k ∈ m.keys ↔ (m.find? k).isSome := by
  simp only [keys, List.mem_map, Option.isSome_iff_exists, ← h.mem_iff]
  constructor
  · rintro ⟨⟨k, a⟩, hmem, rfl⟩
    exact ⟨a, hmem⟩
  · rintro ⟨a, hmem⟩
    exact ⟨(k, a), hmem, rfl⟩

theorem Sorted.nodup_keys (h : m.Sorted) : m.keys.Nodup :=
  List.Pairwise.imp (fun {a b} (hlt : a < b) (he : a = b) => String.lt_irrefl b (he ▸ hlt)) h

end Index
end RecipeBook
