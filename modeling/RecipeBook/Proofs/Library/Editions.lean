import RecipeBook.Proofs.Index.Lookup
import RecipeBook.Proofs.Library.Indexes

/-!
# The editions of a recipe

Which languages an identifier has is said of the recipes of a library (`HasEdition`), and so is which
edition is chosen where two languages are asked for (`IsChosen`). There always is one to choose: what is
kept under an identifier is never empty, because an identifier comes into the index with a recipe
(`exists_isChosen`).
-/

namespace RecipeBook.Library

/-- A library to which some recipes have been offered, whether it took them or not. -/
def IsFilled (l : Library) : Prop := ∃ offers, l = (filled offers).1

/-- The library has a recipe of the identifier in the language. -/
def HasEdition (l : Library) (id lang : String) : Prop := ∃ r ∈ l.recipes lang, r.id = id

/-- The edition of an identifier in the first language, or else in the second, or else in the smallest
language that has one. -/
structure IsChosen (l : Library) (id lang fallback : String) (r : Recipe) : Prop where
  mem : r ∈ l.recipes r.lang
  id_eq : r.id = id
  lang_eq : l.HasEdition id lang → r.lang = lang
  fallback_eq : ¬ l.HasEdition id lang → l.HasEdition id fallback → r.lang = fallback
  le : ¬ l.HasEdition id lang → ¬ l.HasEdition id fallback →
    ∀ other, l.HasEdition id other → r.lang ≤ other

variable {l : Library} {rs : List Recipe} {r : Recipe} {id lang fallback : String}

theorem IsFilled.exists_ofRecipes (h : l.IsFilled) :
    ∃ rs, l = ofRecipes rs ∧ (rs.map Recipe.edition).Nodup := by
  obtain ⟨offers, rfl⟩ := h
  exact ⟨firsts offers, by rw [filled_eq_firsts], nodup_firsts offers⟩

theorem mem_recipes_ofRecipes : r ∈ (ofRecipes rs).recipes lang ↔ r ∈ rs ∧ r.lang = lang := by
  rw [recipes_ofRecipes, List.mem_filter, decide_eq_true_eq]

theorem isEmpty_ofRecipes : (ofRecipes rs).isEmpty = false ↔ rs ≠ [] := by
  have hkeys : (ofRecipes rs).byId = [] ↔ rs = [] := by
    constructor
    · intro h
      refine List.eq_nil_iff_forall_not_mem.2 fun r hr => ?_
      have hfind : ((ofRecipes rs).byId.find? r.id).isSome := find?_byId_isSome.2 ⟨r, hr, rfl⟩
      rw [h, Index.find?_nil] at hfind
      cases hfind
    · rintro rfl
      rfl
  rw [isEmpty, List.isEmpty_eq_false_iff, Ne, hkeys]

theorem IsFilled.hasLanguage_iff (h : l.IsFilled) : l.hasLanguage lang ↔ l.recipes lang ≠ [] := by
  obtain ⟨rs, rfl, -⟩ := h.exists_ofRecipes
  exact hasLanguage_ofRecipes

theorem IsFilled.recipes_defaultLanguage (h : l.IsFilled) (hne : l.isEmpty = false) :
    l.recipes l.defaultLanguage ≠ [] := by
  obtain ⟨rs, rfl, -⟩ := h.exists_ofRecipes
  exact (defaultLanguage_ofRecipes (isEmpty_ofRecipes.1 hne)).1

/-! ### What is kept under an identifier -/

theorem hasEdition_ofRecipes :
    (ofRecipes rs).HasEdition id lang ↔ (id, lang) ∈ rs.map Recipe.edition := by
  simp only [HasEdition, mem_recipes_ofRecipes, List.mem_map, Recipe.edition, Prod.mk.injEq, and_assoc]
  exact exists_congr fun r => and_congr_right fun _ => and_comm

theorem exists_hasEdition_iff :
    (∃ lang, (ofRecipes rs).HasEdition id lang) ↔ ((ofRecipes rs).byId.find? id).isSome := by
  simp [hasEdition_ofRecipes, find?_byId_isSome, Recipe.edition]

variable {editions : Editions}

theorem find?_of_byId (h : (ofRecipes rs).byId.find? id = some editions) (lang : String) :
    editions.find? lang = (((ofRecipes rs).byId.find? id).getD []).find? lang := by
  rw [h, Option.getD_some]

theorem sorted_of_byId (h : (ofRecipes rs).byId.find? id = some editions) : editions.Sorted := by
  have hsorted := sorted_editions rs id
  rwa [h, Option.getD_some] at hsorted

theorem find?_isSome_of_byId (h : (ofRecipes rs).byId.find? id = some editions) :
    (editions.find? lang).isSome ↔ (ofRecipes rs).HasEdition id lang := by
  rw [hasEdition_ofRecipes, ← not_iff_not, Option.not_isSome_iff_eq_none, find?_of_byId h,
    find?_editions_eq_none]

theorem mem_of_byId (h : (ofRecipes rs).byId.find? id = some editions)
    (hr : editions.find? lang = some r) : r ∈ (ofRecipes rs).recipes lang ∧ r.id = id ∧ r.lang = lang := by
  rw [find?_of_byId h] at hr
  obtain ⟨hmem, he⟩ := mem_of_find?_editions hr
  obtain ⟨hid, hlang⟩ := Prod.mk.inj he
  exact ⟨mem_recipes_ofRecipes.2 ⟨hmem, hlang⟩, hid, hlang⟩

theorem mem_keys_of_byId (h : (ofRecipes rs).byId.find? id = some editions) :
    lang ∈ editions.keys ↔ (ofRecipes rs).HasEdition id lang := by
  rw [(sorted_of_byId h).mem_keys_iff, find?_isSome_of_byId h]

/-! ### The edition that is chosen -/

theorem isChosen_of_find? (h : (ofRecipes rs).byId.find? id = some editions) {other : String}
    (hr : editions.find? other = some r) (hlang : (ofRecipes rs).HasEdition id lang → other = lang)
    (hfallback : ¬ (ofRecipes rs).HasEdition id lang → (ofRecipes rs).HasEdition id fallback →
      other = fallback)
    (hle : ¬ (ofRecipes rs).HasEdition id lang → ¬ (ofRecipes rs).HasEdition id fallback →
      ∀ k, (ofRecipes rs).HasEdition id k → other ≤ k) :
    (ofRecipes rs).IsChosen id lang fallback r := by
  obtain ⟨hmem, hid, rfl⟩ := mem_of_byId h hr
  exact ⟨hmem, hid, hlang, hfallback, hle⟩

theorem exists_isChosen_of_byId (h : (ofRecipes rs).byId.find? id = some editions)
    (lang fallback : String) : ∃ r, editions.choose? lang fallback = some r ∧
      (ofRecipes rs).IsChosen id lang fallback r := by
  rw [Editions.choose?]
  cases hlang : editions.find? lang with
  | some r =>
    have hhas := (find?_isSome_of_byId h).1 (Option.isSome_of_eq_some hlang)
    exact ⟨r, Option.some_or, isChosen_of_find? h hlang (fun _ => rfl) (absurd hhas) (absurd hhas)⟩
  | none =>
    have hnot : ¬ (ofRecipes rs).HasEdition id lang := by
      rw [← find?_isSome_of_byId h, hlang]
      exact Bool.false_ne_true
    rw [Option.none_or]
    cases hfallback : editions.find? fallback with
    | some r =>
      have hhas := (find?_isSome_of_byId h).1 (Option.isSome_of_eq_some hfallback)
      exact ⟨r, Option.some_or, isChosen_of_find? h hfallback (fun hyes => absurd hyes hnot)
        (fun _ _ => rfl) fun _ => absurd hhas⟩
    | none =>
      have hnot' : ¬ (ofRecipes rs).HasEdition id fallback := by
        rw [← find?_isSome_of_byId h, hfallback]
        exact Bool.false_ne_true
      rw [Option.none_or]
      -- the editions are by language, so the first one is in the smallest
      obtain ⟨other, hother⟩ := exists_hasEdition_iff.2 (Option.isSome_of_eq_some h)
      cases editions with
      | nil =>
        rw [← find?_isSome_of_byId h] at hother
        cases hother
      | cons p rest =>
        obtain ⟨k, r⟩ := p
        refine ⟨r, rfl, isChosen_of_find? h (Index.find?_cons_self k r rest)
          (fun hyes => absurd hyes hnot) (fun _ hyes => absurd hyes hnot') fun _ _ other hother => ?_⟩
        exact Index.le_of_find?_isSome (sorted_of_byId h) ((find?_isSome_of_byId h).2 hother)

/-- An identifier that a recipe has leads to an edition, whatever the languages that are asked for. -/
theorem exists_isChosen (h : ∃ other, (ofRecipes rs).HasEdition id other) (lang fallback : String) :
    ∃ editions r, (ofRecipes rs).byId.find? id = some editions ∧
      editions.choose? lang fallback = some r ∧ (ofRecipes rs).IsChosen id lang fallback r := by
  obtain ⟨editions, hfind⟩ := Option.isSome_iff_exists.1 (exists_hasEdition_iff.1 h)
  obtain ⟨r, hr, hchosen⟩ := exists_isChosen_of_byId hfind lang fallback
  exact ⟨editions, r, hfind, hr, hchosen⟩

end RecipeBook.Library
