import RecipeBook.Proofs.Recipe.Loaded
import RecipeBook.Proofs.Text.Words
import RecipeBook.Proofs.Totals.Merge
import RecipeBook.Query

/-!
# What a query asks of a recipe

`Query.Holds` says what a query asks for in terms of the recipe's tags, steps and texts. Matching goes
by the names in the totals and the words cut out of the texts; for a loaded recipe it comes to the
same (`Query.isMatch_iff_holds`), as totals lose no name and invent none.
-/

namespace RecipeBook

namespace Totals

/-- The names in the totals are those of the occurrences. -/
theorem exists_name_ofList {serves : Nat} {l : List Ingredient} {p : String → Prop} :
    (∃ i ∈ ofList serves l, p i.name) ↔ ∃ i ∈ l, p i.name := by
  have hname : ∀ is : List Ingredient, (∃ i ∈ is, p i.name) ↔ ∃ k ∈ is.map Ingredient.key, p k.1 := by
    intro is
    simp only [List.mem_map, exists_exists_and_eq_and, Ingredient.key]
  rw [hname, hname, ofList, foldl_merge_eq_closedForm]
  simp only [mem_keys_closedForm]

end Totals

namespace Recipe

/-- Some step lists an ingredient of the name, letter case apart. -/
def Lists (r : Recipe) (name : String) : Prop :=
  ∃ step ∈ r.steps, ∃ i ∈ step.ingredients, lowered i.name = lowered name

/-- Name, description or note have the word, letter case apart. -/
def Mentions (r : Recipe) (word : String) : Prop :=
  ∃ text w, (text = r.name ∨ r.metadata.description = some text ∨ r.metadata.note = some text) ∧
    Text.IsWord text.toList w ∧ lowered (.ofList w) = lowered word

variable {r : Recipe}

theorem hasTag_iff {tag : String} : r.hasTag tag ↔ lowered tag ∈ r.metadata.tags :=
  List.contains_iff_mem

theorem hasIngredient_iff_lists {name : String} (h : r.IsLoaded) :
    r.hasIngredient name ↔ r.Lists name := by
  rw [hasIngredient, List.contains_iff_mem, ingredientNames, List.mem_map, h.totals_eq,
    Totals.exists_name_ofList (p := fun n => lowered n = lowered name)]
  simp only [List.mem_flatMap, Lists]
  constructor
  · rintro ⟨i, ⟨step, hstep, hi⟩, hname⟩
    exact ⟨step, hstep, i, hi, hname⟩
  · rintro ⟨step, hstep, i, hi, hname⟩
    exact ⟨i, ⟨step, hstep, hi⟩, hname⟩

theorem mem_texts {text : String} : text ∈ r.texts ↔
    text = r.name ∨ r.metadata.description = some text ∨ r.metadata.note = some text := by
  simp [texts]

theorem hasWord_iff_mentions {word : String} : r.hasWord word ↔ r.Mentions word := by
  rw [hasWord, List.contains_iff_mem, words]
  simp only [List.mem_map, List.mem_flatMap, Text.mem_words_iff, mem_texts, Mentions]
  constructor
  · rintro ⟨w, ⟨text, htext, hw⟩, hword⟩
    exact ⟨text, w, htext, hw, hword⟩
  · rintro ⟨text, w, htext, hw, hword⟩
    exact ⟨w, ⟨text, htext, hw⟩, hword⟩

end Recipe

namespace Query

/-- What a query asks of a recipe. -/
def Holds (r : Recipe) : Query → Prop
  | tag t => lowered t ∈ r.metadata.tags
  | ingredient name => r.Lists name
  | generic term => lowered term ∈ r.metadata.tags ∨ r.Lists term ∨ r.Mentions term
  | all clauses => ∀ q, ∀ _ : q ∈ clauses, Holds r q

variable {r : Recipe} {clauses : List Query}

theorem isMatch_all : (all clauses).isMatch r ↔ ∀ q ∈ clauses, q.isMatch r := by
  rw [isMatch]
  simp

theorem holds_all : (all clauses).Holds r ↔ ∀ q ∈ clauses, q.Holds r := by
  rw [Holds]

/-- A loaded recipe matches a query exactly if what the query asks for holds of it. -/
theorem isMatch_iff_holds (h : r.IsLoaded) : ∀ q : Query, q.isMatch r ↔ q.Holds r
  | tag t => by rw [isMatch, Holds, Recipe.hasTag_iff]
  | ingredient name => by rw [isMatch, Holds, Recipe.hasIngredient_iff_lists h]
  | generic term => by
    rw [isMatch, Holds, Bool.or_eq_true, Bool.or_eq_true, Recipe.hasTag_iff,
      Recipe.hasIngredient_iff_lists h, Recipe.hasWord_iff_mentions, or_assoc]
  | all clauses => by
    rw [isMatch_all, holds_all]
    exact forall₂_congr fun q _ => isMatch_iff_holds h q

end Query
end RecipeBook
