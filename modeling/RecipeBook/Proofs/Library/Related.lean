import RecipeBook.Proofs.Library.Editions
import RecipeBook.Proofs.Library.TagUses

/-!
# Warnings about related recipes

A related recipe is looked up by its identifier as it stands. What a library warns of can therefore be
said of its recipes (`mem_relatedWarnings`): a related recipe is unknown if no recipe has its identifier,
and it is missing in a language if recipes of other languages alone have it. Looking it up under its
identifier made again finds the same, as both loaders keep identifiers that do not change
(`get?_of_mem_related`).
-/

namespace RecipeBook

/-- The warning says that the library does not know a related recipe of a recipe. -/
def Warning.isUnknown (recipe related : String) : Warning → Bool
  | unknownRelated a b _ => a = recipe && b = related
  | _ => false

theorem Warning.isUnknown_iff {recipe related : String} {w : Warning} :
    w.isUnknown recipe related ↔ ∃ candidates, w = unknownRelated recipe related candidates := by
  cases w with
  | unknownRelated a b candidates =>
    simp only [isUnknown, Bool.and_eq_true, decide_eq_true_eq, unknownRelated.injEq]
    exact ⟨fun ⟨ha, hb⟩ => ⟨candidates, ha, hb, rfl⟩, fun ⟨_, ha, hb, _⟩ => ⟨ha, hb⟩⟩
  | _ => simp [isUnknown]

namespace Library

variable {rs : List Recipe} {r : Recipe} {lang related : String} {w : Warning}

theorem mem_byLanguage {held : List Recipe} : (lang, held) ∈ (ofRecipes rs).byLanguage ↔
    held ≠ [] ∧ held = (ofRecipes rs).recipes lang := by
  rw [(sorted_byLanguage rs).mem_iff, find?_byLanguage, recipes_ofRecipes]
  split
  · next h =>
    rw [h]
    exact iff_of_false nofun fun ⟨hne, hheld⟩ => hne hheld
  · next h =>
    rw [Option.some.injEq]
    exact ⟨fun heq => ⟨heq ▸ h, heq.symm⟩, fun ⟨_, heq⟩ => heq.symm⟩

/-- Every recipe is looked at once, in its language. -/
theorem mem_relatedWarnings : w ∈ (ofRecipes rs).relatedWarnings ↔
    ∃ r ∈ rs, ∃ related ∈ r.metadata.related,
      (ofRecipes rs).relatedWarning? r.lang r related = some w := by
  simp only [relatedWarnings, List.mem_flatMap, List.mem_filterMap]
  constructor
  · rintro ⟨⟨lang, held⟩, hheld, r, hr, hw⟩
    obtain ⟨-, rfl⟩ := mem_byLanguage.1 hheld
    obtain ⟨hmem, rfl⟩ := mem_recipes_ofRecipes.1 hr
    exact ⟨r, hmem, hw⟩
  · rintro ⟨r, hr, hw⟩
    have hmem : r ∈ (ofRecipes rs).recipes r.lang := mem_recipes_ofRecipes.2 ⟨hr, rfl⟩
    exact ⟨(r.lang, _), mem_byLanguage.2 ⟨List.ne_nil_of_mem hmem, rfl⟩, r, hmem, hw⟩

/-! ### One related recipe -/

theorem relatedWarning?_eq_unknown {recipe other : String} {candidates : List String} :
    (ofRecipes rs).relatedWarning? lang r related = some (.unknownRelated recipe other candidates) ↔
      (¬ ∃ other, (ofRecipes rs).HasEdition related other) ∧ r.id = recipe ∧ related = other ∧
        Similarity.closeMatches related (ofRecipes rs).byId.keys = candidates := by
  rw [exists_hasEdition_iff, relatedWarning?]
  cases hfind : (ofRecipes rs).byId.find? related with
  | none => simp
  | some editions =>
    simp only [Option.isSome_some, not_true_eq_false, false_and, iff_false]
    split <;> simp

theorem relatedWarning?_eq_missing {recipe other lang' : String} :
    (ofRecipes rs).relatedWarning? lang r related = some (.missingEdition recipe other lang') ↔
      (∃ other, (ofRecipes rs).HasEdition related other) ∧
        ¬ (ofRecipes rs).HasEdition related lang ∧ r.id = recipe ∧ related = other ∧ lang = lang' := by
  rw [exists_hasEdition_iff, relatedWarning?]
  cases hfind : (ofRecipes rs).byId.find? related with
  | none => simp
  | some editions =>
    simp only [Option.isSome_some, true_and, ← find?_isSome_of_byId hfind]
    split <;> simp_all

/-! ### The warnings about a recipe -/

theorem any_isUnknown_iff (hr : r ∈ rs) (hrelated : related ∈ r.metadata.related) :
    (ofRecipes rs).relatedWarnings.any (Warning.isUnknown r.id related) ↔
      ¬ ∃ lang, (ofRecipes rs).HasEdition related lang := by
  rw [List.any_eq_true]
  constructor
  · rintro ⟨w, hw, hunknown⟩
    obtain ⟨candidates, rfl⟩ := Warning.isUnknown_iff.1 hunknown
    obtain ⟨r', -, related', -, hwarning⟩ := mem_relatedWarnings.1 hw
    obtain ⟨hnone, -, rfl, -⟩ := relatedWarning?_eq_unknown.1 hwarning
    exact hnone
  · intro hnone
    exact ⟨_, mem_relatedWarnings.2
      ⟨r, hr, related, hrelated, relatedWarning?_eq_unknown.2 ⟨hnone, rfl, rfl, rfl⟩⟩,
      Warning.isUnknown_iff.2 ⟨_, rfl⟩⟩

/-- As one recipe alone has the identifier in the language, the warning is about that one. -/
theorem missingEdition_mem_iff (hrs : (rs.map Recipe.edition).Nodup) (hr : r ∈ rs) :
    .missingEdition r.id related r.lang ∈ (ofRecipes rs).relatedWarnings ↔
      related ∈ r.metadata.related ∧ (∃ lang, (ofRecipes rs).HasEdition related lang) ∧
        ¬ (ofRecipes rs).HasEdition related r.lang := by
  rw [mem_relatedWarnings]
  constructor
  · rintro ⟨r', hr', related', hrelated, hwarning⟩
    obtain ⟨hknown, hmissing, hid, rfl, hlang⟩ := relatedWarning?_eq_missing.1 hwarning
    obtain rfl : r' = r := List.inj_on_of_nodup_map hrs hr' hr (Prod.ext hid hlang)
    exact ⟨hrelated, hknown, hmissing⟩
  · rintro ⟨hrelated, hknown, hmissing⟩
    exact ⟨r, hr, related, hrelated, relatedWarning?_eq_missing.2 ⟨hknown, hmissing, rfl, rfl, rfl⟩⟩

/-- The identifiers of related recipes are those that recipes are kept under. -/
theorem get?_of_mem_related (l : Library) (hr : r.IsLoaded) (hrelated : related ∈ r.metadata.related) :
    l.get? related = l.byId.find? related := by
  rw [get?, hr.sound.normalizeId_of_mem_related related hrelated]

end Library
end RecipeBook
