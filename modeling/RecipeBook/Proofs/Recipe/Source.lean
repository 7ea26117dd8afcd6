import RecipeBook.Proofs.Recipe.Converted
import RecipeBook.Proofs.Recipe.Loaded

/-!
# What a recipe has of its source

A recipe of either generation goes by the name of the file that it was read from, and by an identifier
that is made of what stands before the language in it (`comesFrom_of_readDocument`).
-/

namespace RecipeBook

/-- The recipe has the name of the file, and the identifier that is made of the name in it. -/
structure Recipe.ComesFrom (r : Recipe) (source : Document.Source) : Prop where
  id_eq : r.id = normalizeId source.id
  fileName_eq : r.metadata.fileName = source.fileName

variable {r : Recipe} {source : Document.Source}

theorem Builder.keeps_fileName (P : Entry → Prop) (fileName : String) :
    Keeps P fun b => b.fileName = fileName := by
  intro b e b' hb h _
  obtain rfl := add_eq_ok h
  exact hb

namespace Recipe

theorem comesFrom_of_assemble {b : Builder} {m : Metadata} {drafts : List SectionDraft}
    (hid : b.id = normalizeId source.id) (hfile : b.fileName = source.fileName)
    (hbuild : b.build = .ok m) (h : assemble m drafts = .ok r) : r.ComesFrom source := by
  have hmakes := Builder.makes_of_build hbuild
  obtain ⟨-, rfl⟩ := assemble_eq_ok_iff.1 h
  exact ⟨hmakes.id_eq.trans hid, hmakes.fileName_eq.trans hfile⟩

theorem comesFrom_of_read {text : String} (h : Document.read source text = .ok r) :
    r.ComesFrom source := by
  obtain ⟨b, rest, m, drafts, hheader, hbuild, hassemble⟩ := Document.exists_header_of_read h
  have hid : b.id = (Builder.start source.id source.lang source.fileName).id :=
    Document.kept_of_readHeader (Builder.keeps_id _ _) rfl hheader
  have hfile : b.fileName = (Builder.start source.id source.lang source.fileName).fileName :=
    Document.kept_of_readHeader (Builder.keeps_fileName _ _) rfl hheader
  exact comesFrom_of_assemble hid hfile hbuild hassemble

theorem comesFrom_of_toRecipe {record : LegacyRecipe} (h : record.toRecipe source = .ok r) :
    r.ComesFrom source := by
  rw [LegacyRecipe.toRecipe] at h
  split at h
  · cases h
  · obtain ⟨m, hmetadata, hassemble⟩ := bind_eq_ok.1 h
    rw [LegacyRecipe.metadata, LegacyRecipe.addAll_entries] at hmetadata
    exact comesFrom_of_assemble (b := (Builder.start _ _ _).append record.entries) rfl rfl hmetadata
      hassemble

theorem comesFrom_of_readDocument {format : DocumentFormat} {bytes : ByteArray}
    (h : Library.readDocument format source bytes = .ok r) : r.ComesFrom source := by
  cases format with
  | recipe =>
    rw [Library.readDocument, Document.readBytes] at h
    split at h
    · exact comesFrom_of_read h
    · cases h
  | legacy =>
    rw [Library.readDocument, LegacyRecipe.readBytes] at h
    split at h
    · exact comesFrom_of_toRecipe h
    · cases h

end Recipe
end RecipeBook
