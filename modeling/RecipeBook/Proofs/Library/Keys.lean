import RecipeBook.Proofs.Library.Related
import RecipeBook.Proofs.Recipe.Tags
import RecipeBook.Proofs.Text.Pieces

/-!
# Names and lists that are settled

An identifier is made of a name once and for all: made again it stays as it is, so that a library finds
the same under a name, under its identifier, and under whatever is kept as an identifier (`Denotes`).
A list with commas is settled too: its entries are in the form in which they are looked up and hold no
comma, and written with commas between them they are read as the same entries
(`splitList_intercalate`).
-/

namespace RecipeBook

/-- An entry of a list with commas between its entries. -/
structure IsListEntry (entry : String) : Prop extends IsTag entry where
  comma_not_mem : ',' ∉ entry.toList

/-- Every library has under the name what it keeps under the key. -/
def Denotes (name key : String) : Prop := ∀ l : Library, l.get? name = l.byId.find? key

variable {s name key entry : String}

/-! ### Lists with commas -/

theorem isListEntry_of_mem_splitList (h : entry ∈ splitList s) : IsListEntry entry := by
  refine ⟨isTag_of_mem_splitList h, ?_⟩
  obtain ⟨text, htext, rfl⟩ := List.mem_map.1 (List.mem_filter.1 h).1
  intro hcomma
  have hmem := mem_of_mem_nameKey (by decide) hcomma
  rw [String.toList_ofList] at hmem
  exact Text.not_mem_of_mem_splitOn htext hmem

theorem IsListEntry.nameKey_eq (h : IsListEntry entry) : nameKey entry = entry := by
  rw [nameKey, h.trimmed_eq, h.lowered_eq]

/-- A list is read as the entries that it was written with. -/
theorem splitList_intercalate {entries : List String} (h : ∀ entry ∈ entries, IsListEntry entry) :
    splitList (",".intercalate entries) = entries := by
  by_cases hnil : entries = []
  · subst hnil
    rfl
  · have hpieces : Text.splitOn ',' (",".intercalate entries).toList = entries.map String.toList := by
      rw [String.toList_intercalate]
      refine Text.splitOn_intercalate (by simpa using hnil) fun piece hpiece => ?_
      obtain ⟨entry, hentry, rfl⟩ := List.mem_map.1 hpiece
      exact (h entry hentry).comma_not_mem
    have hkeys : (entries.map String.toList).map (fun entry => nameKey (.ofList entry)) = entries := by
      rw [List.map_map]
      refine (List.map_congr_left fun entry hentry => ?_).trans (List.map_id entries)
      rw [Function.comp_apply, String.ofList_toList, (h entry hentry).nameKey_eq, id_eq]
    rw [splitList, hpieces, hkeys, List.filter_eq_self]
    exact fun entry hentry => decide_eq_true (h entry hentry).ne_empty

/-! ### Identifiers -/

theorem denotes_of_normalizeId_eq (h : normalizeId name = key) : Denotes name key := fun l => by
  rw [Library.get?, h]

/-- What a loaded recipe keeps as an identifier, its own or that of a related recipe, is settled. -/
theorem Recipe.IsLoaded.normalizeId_eq {r : Recipe} (hr : r.IsLoaded)
    (h : key ∈ r.id :: r.metadata.related) : normalizeId key = key := by
  rcases List.mem_cons.1 h with rfl | h
  · exact hr.normalizeId_id
  · exact hr.sound.normalizeId_of_mem_related key h

/-- Identifiers and lists stay as they are when they are made again. Whatever was kept as an identifier,
by a header or by a recipe of either generation, is the key under which every library has what it has
under the name that it was made of, and under itself. -/
theorem keys_settled :
    (∀ s, normalizeId (normalizeId s) = normalizeId s) ∧
    (∀ s, (∀ entry ∈ splitList s, IsListEntry entry) ∧
      splitList (",".intercalate (splitList s)) = splitList s) ∧
    (∀ name lang fileName, Denotes name (Builder.start name lang fileName).id ∧
      Denotes (Builder.start name lang fileName).id (Builder.start name lang fileName).id) ∧
    ∀ r : Recipe, r.IsLoaded → ∀ key ∈ r.id :: r.metadata.related,
      normalizeId key = key ∧ ∀ name, normalizeId name = key → Denotes name key := by
  refine ⟨normalizeId_normalizeId, fun s => ⟨fun entry => isListEntry_of_mem_splitList, ?_⟩,
    fun name lang fileName => ?_, fun r hr key hkey => ?_⟩
  · exact splitList_intercalate fun entry => isListEntry_of_mem_splitList
  · exact ⟨denotes_of_normalizeId_eq rfl, denotes_of_normalizeId_eq (normalizeId_normalizeId name)⟩
  · exact ⟨hr.normalizeId_eq hkey, fun name => denotes_of_normalizeId_eq⟩

/-- A recipe whose name ends in a capital sigma, and which is related to others. -/
def saganaki : List Recipe :=
  [(⟨" ΚΕΦΑΛΟΤΥΡΙ Σ", "el", "saganaki.el.recipe"⟩,
    "name Saganaki\nserves 2\nrelated Corn Bread ,, PITA\u00a0BREADΣ,\n")].filterMap
    fun (source, text) => (Document.read source text).toOption

theorem keys_settled_saganaki : ∃ r ∈ saganaki, r.IsLoaded ∧
    r.id :: r.metadata.related = ["κεφαλοτυρι-σ", "corn-bread", "pita\u00a0breadς"] ∧
    ∀ key ∈ r.id :: r.metadata.related,
      normalizeId key = key ∧ ∀ name, normalizeId name = key → Denotes name key := by
  have hids : saganaki.map (fun r => r.id :: r.metadata.related) =
      [["κεφαλοτυρι-σ", "corn-bread", "pita\u00a0breadς"]] := by
    decide +kernel
  obtain ⟨r, rest, hr⟩ := List.exists_cons_of_ne_nil (l := saganaki) fun hnil => by
    rw [hnil] at hids
    cases hids
  have hmem : r ∈ saganaki := hr ▸ List.mem_cons_self
  have hloaded := Recipe.isLoaded_of_mem_filterMap hmem
  rw [hr, List.map_cons] at hids
  exact ⟨r, hmem, hloaded, (List.cons.inj hids).1, keys_settled.2.2.2 r hloaded⟩

end RecipeBook
