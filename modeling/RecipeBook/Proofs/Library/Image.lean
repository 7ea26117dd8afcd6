import RecipeBook.Library.Image
import RecipeBook.Proofs.FileName
import RecipeBook.Proofs.Library.Loading
import RecipeBook.Proofs.Recipe.Source
import RecipeBook.Proofs.Text.Names

/-!
# Where the images of recipes are

The image of a loaded recipe is a file of the folder `images` itself, not of a folder in it: names of
files hold no slash, and neither do the identifiers that are made of them
(`exists_stem_of_imagePath_ne`).
-/

namespace RecipeBook

/-- The file has a name that a file can have. -/
def WalkEntry.IsNamed : WalkEntry → Prop
  | .file path _ => '/' ∉ path.fileName.toList
  | _ => True

namespace Library

variable {location lang : String} {entries : List WalkEntry} {r : Recipe} {folder : Folder}

/-- Neither the file's name nor the identifier has a slash. -/
structure IsFlat (r : Recipe) : Prop where
  fileName : '/' ∉ r.metadata.fileName.toList
  id : '/' ∉ r.id.toList

theorem isFlat_of_mem_recipesIn (hnamed : ∀ e ∈ entries, e.IsNamed) (hr : r ∈ recipesIn entries) :
    IsFlat r := by
  obtain ⟨path, bytes, format, name, hmem, hsplit, hread⟩ := exists_document_of_mem_recipesIn hr
  have hfrom := Recipe.comesFrom_of_readDocument hread
  have hflat : '/' ∉ path.fileName.toList := hnamed _ hmem
  have hraw : '/' ∉ name.rawId.toList := fun h =>
    hflat ((FileName.split?_eq_ok_iff.1 hsplit).mem_of_mem_rawId h)
  exact ⟨hfrom.fileName_eq ▸ hflat,
    hfrom.id_eq ▸ fun h => hraw (mem_of_mem_normalizeId (by decide) (by decide) h)⟩

theorem isFlat_of_mem_recipes (hnamed : ∀ e ∈ entries, e.IsNamed)
    (hr : r ∈ (loadEntries location entries).library.recipes lang) : IsFlat r := by
  rw [loadEntries_eq, loaded, recipes_ofRecipes] at hr
  exact isFlat_of_mem_recipesIn hnamed ((firsts_sublist _).subset (List.mem_filter.1 hr).1)

theorem slash_not_mem_stem {stem : String} (h : IsFlat r) (hstem : stem ∈ imageStems r) :
    '/' ∉ stem.toList := by
  rw [imageStems] at hstem
  split at hstem
  · next name hsplit =>
    rcases List.mem_pair.1 hstem with rfl | rfl
    · exact fun hmem => h.fileName ((FileName.split?_eq_ok_iff.1 hsplit).mem_of_mem_rawId hmem)
    · exact h.id
  · rcases List.mem_pair.1 hstem with rfl | rfl <;> exact h.id

/-- The image of a recipe, if there is one, is a file with one of its names. -/
theorem exists_stem_of_imagePath_ne (h : IsFlat r) (himage : imagePath folder r ≠ noImage) :
    ∃ stem extension, '/' ∉ stem.toList ∧ extension ∈ ["png", "jpg"] ∧
      imagePath folder r = "images/" ++ stem ++ "." ++ extension ∧
      ∃ bytes, folder.read (imagePath folder r) = .ok bytes := by
  cases hfind : (imageCandidates r).find? (isFileAt folder) with
  | none => exact absurd (by rw [imagePath, hfind]; rfl) himage
  | some path =>
    obtain rfl : imagePath folder r = path := by rw [imagePath, hfind]; rfl
    obtain ⟨stem, hstem, hpath⟩ := List.mem_flatMap.1 (List.mem_of_find?_eq_some hfind)
    obtain ⟨extension, hextension, hpath⟩ := List.mem_map.1 hpath
    have hfile := List.find?_some hfind
    rw [isFileAt] at hfile
    refine ⟨stem, extension, slash_not_mem_stem h hstem, hextension, hpath.symm, ?_⟩
    cases hread : folder.read (imagePath folder r) with
    | ok bytes => exact ⟨bytes, rfl⟩
    | error e =>
      rw [hread] at hfile
      cases hfile

end Library
end RecipeBook
