import RecipeBook.Metadata
import RecipeBook.Proofs.Text.Trimmed

/-!
# Names as they are compared

The key of a name is trimmed and in lower case, and an identifier is a key with hyphens for its spaces.
Neither changes when it is made again (`nameKey_of_isKey`, `normalizeId_normalizeId`): lowering leaves
text in lower case alone, and hyphens are neither blank nor capital.
-/

namespace RecipeBook

/-- The text has no blank ends and no character that lowering changes. -/
def IsKey (s : List Char) : Prop := Text.IsTrimmed s ∧ ∀ c ∈ s, Text.IsLow c

theorem trimmed_eq_self_iff {s : String} : trimmed s = s ↔ Text.IsTrimmed s.toList := by
  rw [← Text.trim_eq_self_iff, trimmed, ← String.toList_inj, String.toList_ofList]

theorem lowered_nameKey (s : String) : lowered (nameKey s) = nameKey s := lowered_lowered _

theorem isKey_nameKey (s : String) : IsKey (nameKey s).toList := by
  rw [nameKey, lowered, String.toList_ofList]
  refine ⟨?_, fun c hc => Text.isLow_of_mem_lowerAfter hc⟩
  rw [Text.isTrimmed_lower_iff, trimmed, String.toList_ofList]
  exact Text.isTrimmed_trim _

theorem trimmed_nameKey (s : String) : trimmed (nameKey s) = nameKey s :=
  trimmed_eq_self_iff.2 (isKey_nameKey s).1

theorem nameKey_of_isKey {s : String} (h : IsKey s.toList) : nameKey s = s := by
  rw [nameKey, trimmed_eq_self_iff.2 h.1, lowered, Text.lower, Text.lowerAfter_of_isLow h.2,
    String.ofList_toList]

theorem mem_of_mem_nameKey {s : String} {c : Char} (hc : Text.IsMark c)
    (h : c ∈ (nameKey s).toList) : c ∈ s.toList := by
  rw [nameKey, lowered, String.toList_ofList, Text.mem_lower_iff hc, trimmed, String.toList_ofList,
    Text.trim_eq_rdropWhile] at h
  exact (List.dropWhile_sublist _).subset ((List.rdropWhile_prefix _ _).subset h)

/-! ### Identifiers -/

/-- A hyphen for a space. -/
def hyphenated (c : Char) : Char := if c = ' ' then '-' else c

theorem normalizeId_eq (s : String) : normalizeId s = .ofList ((nameKey s).toList.map hyphenated) := rfl

theorem hyphenated_ne_space (c : Char) : hyphenated c ≠ ' ' := by
  rw [hyphenated]
  split
  · decide
  · assumption

theorem hyphenated_of_ne_space {c : Char} (h : c ≠ ' ') : hyphenated c = c := if_neg h

theorem isBlank_hyphenated {c : Char} (h : Text.isBlank c = false) :
    Text.isBlank (hyphenated c) = false := by
  rw [hyphenated]
  split
  · decide
  · exact h

theorem isLow_hyphenated {c : Char} (h : Text.IsLow c) : Text.IsLow (hyphenated c) := by
  rw [hyphenated]
  split
  · decide
  · exact h

theorem IsKey.map_hyphenated {s : List Char} (h : IsKey s) : IsKey (s.map hyphenated) := by
  obtain ⟨⟨hhead, hlast⟩, hlow⟩ := h
  refine ⟨⟨fun c hc => ?_, fun c hc => ?_⟩, fun c hc => ?_⟩
  · rw [List.head?_map] at hc
    obtain ⟨d, hd, rfl⟩ := Option.map_eq_some_iff.1 hc
    exact isBlank_hyphenated (hhead d hd)
  · rw [List.getLast?_map] at hc
    obtain ⟨d, hd, rfl⟩ := Option.map_eq_some_iff.1 hc
    exact isBlank_hyphenated (hlast d hd)
  · obtain ⟨d, hd, rfl⟩ := List.mem_map.1 hc
    exact isLow_hyphenated (hlow d hd)

/-- No mark but a hyphen stands in an identifier that does not stand in the name. -/
theorem mem_of_mem_normalizeId {s : String} {c : Char} (hc : Text.IsMark c) (hne : c ≠ '-')
    (h : c ∈ (normalizeId s).toList) : c ∈ s.toList := by
  rw [normalizeId_eq, String.toList_ofList] at h
  obtain ⟨d, hd, hdc⟩ := List.mem_map.1 h
  rw [hyphenated] at hdc
  split at hdc
  · exact absurd hdc.symm hne
  · exact mem_of_mem_nameKey hc (hdc ▸ hd)

theorem normalizeId_normalizeId (s : String) : normalizeId (normalizeId s) = normalizeId s := by
  have hkey : nameKey (normalizeId s) = normalizeId s := by
    refine nameKey_of_isKey ?_
    rw [normalizeId_eq, String.toList_ofList]
    exact (isKey_nameKey s).map_hyphenated
  have hspace : ∀ c ∈ (normalizeId s).toList, hyphenated c = c := fun c hc => by
    rw [normalizeId_eq, String.toList_ofList] at hc
    obtain ⟨d, -, rfl⟩ := List.mem_map.1 hc
    exact hyphenated_of_ne_space (hyphenated_ne_space d)
  rw [normalizeId_eq (normalizeId s), hkey, List.map_congr_left hspace, List.map_id',
    String.ofList_toList]

end RecipeBook
