import RecipeBook.Proofs.Library.Indexes
import RecipeBook.Proofs.Library.Outcome

/-!
# What becomes of the files in a folder

A loaded library is that of the recipes that were taken, and the errors are those of the entries that
failed (`loadEntries_eq`). Outcomes depend on earlier entries only by the first recipe with each
identifier and language (`outcomes_congr`), and an entry that fails is not the first with any. It
therefore leaves no trace but its error (`loadEntries_of_failed`).
-/

namespace RecipeBook.Library

/-- What becomes of every entry, where `before` comes before them all. -/
def outcomes (folder : String) (before : List WalkEntry) : List WalkEntry → List Outcome
  | [] => []
  | e :: rest => outcome folder before e :: outcomes folder (before ++ [e]) rest

variable {folder : String} {before before' : List WalkEntry} {e : WalkEntry} {r : Recipe}

/-! ### The whole walk -/

theorem outcomes_append (folder : String) (before es es' : List WalkEntry) :
    outcomes folder before (es ++ es') =
      outcomes folder before es ++ outcomes folder (before ++ es) es' := by
  induction es generalizing before with
  | nil => rw [List.nil_append, List.append_nil]; rfl
  | cons e es ih =>
    rw [List.cons_append, outcomes, outcomes, ih, List.cons_append, List.append_assoc,
      List.singleton_append]

theorem length_outcomes (folder : String) (before es : List WalkEntry) :
    (outcomes folder before es).length = es.length := by
  induction es generalizing before with
  | nil => rfl
  | cons e es ih => rw [outcomes, List.length_cons, ih, List.length_cons]

/-- What has been loaded of some entries: the recipes that were taken, and the errors of those that
failed. -/
def loaded (folder : String) (entries : List WalkEntry) : Loading where
  library := ofRecipes (firsts (recipesIn entries))
  vocabulary := (firsts (recipesIn entries)).foldl Vocabulary.observe []
  errors := (outcomes folder [] entries).filterMap Outcome.error?

theorem loaded_concat (folder : String) (before : List WalkEntry) (e : WalkEntry) :
    loaded folder (before ++ [e]) =
      match outcome folder before e with
      | .skipped => loaded folder before
      | .taken _ r =>
        { loaded folder before with
          library := ofRecipes (firsts (recipesIn before) ++ [r])
          vocabulary := (loaded folder before).vocabulary.observe r }
      | .failed err =>
        { loaded folder before with errors := (loaded folder before).errors ++ [err] } := by
  rw [loaded, firsts_recipesIn_concat folder, outcomes_append]
  simp only [outcomes, List.nil_append]
  cases outcome folder before e <;> simp [loaded, Outcome.recipe?, Outcome.error?]

theorem addEntry_loaded (folder : String) (before : List WalkEntry) (e : WalkEntry) :
    (loaded folder before).addEntry folder e = loaded folder (before ++ [e]) := by
  rw [addEntry_eq, loaded_concat, outcome]
  cases ownOutcome folder e with
  | skipped => rfl
  | failed err => rfl
  | taken fileName r =>
    simp only [Loading.addRecipe, loaded, offer_firsts, first?]
    cases (recipesIn before).find? (·.edition = r.edition) <;> rfl

theorem loadEntries_eq (folder : String) (entries : List WalkEntry) :
    loadEntries folder entries = loaded folder entries := by
  induction entries using List.reverseRecOn with
  | nil => rfl
  | append_singleton entries e ih =>
    rw [loadEntries, List.foldl_append, List.foldl_cons, List.foldl_nil, ← loadEntries, ih,
      addEntry_loaded]

theorem firsts_recipesIn (folder : String) (entries : List WalkEntry) :
    firsts (recipesIn entries) = (outcomes folder [] entries).filterMap Outcome.recipe? := by
  induction entries using List.reverseRecOn with
  | nil => rfl
  | append_singleton entries e ih =>
    rw [firsts_recipesIn_concat folder, outcomes_append, List.filterMap_append, ih, List.nil_append]
    cases h : (outcome folder entries e).recipe? <;> simp [outcomes, h]

/-- A library that was loaded from a folder is one to which loaded recipes were offered. -/
theorem exists_filled_eq_loadEntries (folder : String) (entries : List WalkEntry) :
    ∃ offers, (∀ r ∈ offers, Recipe.IsLoaded r) ∧
      (loadEntries folder entries).library = (filled offers).1 := by
  refine ⟨recipesIn entries, fun _ => isLoaded_of_mem_recipesIn, ?_⟩
  rw [loadEntries_eq, filled_eq_firsts, loaded]

/-! ### Entries that fail -/

theorem first?_append (before after : List WalkEntry) (edition : String × String) :
    first? (before ++ after) edition = (first? before edition).or (first? after edition) := by
  rw [first?, recipesIn, List.filterMap_append, List.find?_append]
  rfl

/-- An outcome depends on earlier entries by the first recipe with an identifier and a language. -/
theorem outcome_congr (h : ∀ edition, first? before edition = first? before' edition) (folder : String)
    (e : WalkEntry) : outcome folder before e = outcome folder before' e := by
  simp only [outcome, h]

theorem outcomes_congr (h : ∀ edition, first? before edition = first? before' edition)
    (folder : String) (es : List WalkEntry) :
    outcomes folder before es = outcomes folder before' es := by
  induction es generalizing before before' with
  | nil => rfl
  | cons e es ih =>
    have hnext : ∀ edition, first? (before ++ [e]) edition = first? (before' ++ [e]) edition :=
      fun edition => by rw [first?_append, first?_append, h]
    rw [outcomes, outcomes, outcome_congr h, ih hnext]

theorem first?_concat_of_failed {err : LoadError} (h : outcome folder before e = .failed err)
    (edition : String × String) : first? (before ++ [e]) edition = first? before edition := by
  rw [first?_append]
  cases hrecipe : e.recipe? with
  | none => simp [first?, recipesIn, hrecipe]
  | some r =>
    have hone : first? [e] edition = if r.edition = edition then some r else none := by
      by_cases he : r.edition = edition <;> simp [first?, recipesIn, hrecipe, he]
    rw [hone]
    split
    · next he =>
      -- a recipe that is not taken has been refused, and so is not the first with its identifier
      have hsome : first? before edition ≠ none := fun hnone => by
        have htaken : (outcome folder before e).recipe? = some r :=
          recipe?_outcome_eq_some.2 ⟨hrecipe, he ▸ hnone⟩
        rw [h] at htaken
        cases htaken
      rw [Option.or_of_isSome (Option.isSome_iff_ne_none.2 hsome)]
    · rw [Option.or_none]

theorem outcomes_of_failed {err : LoadError} (h : outcome folder before e = .failed err)
    (after : List WalkEntry) : outcomes folder [] (before ++ e :: after) =
      outcomes folder [] before ++ .failed err :: outcomes folder before after := by
  rw [outcomes_append, List.nil_append, outcomes, h, outcomes_congr (first?_concat_of_failed h)]

/-! ### The account of a load -/

/-- What the outcome of an entry says of it, in view of those before it. -/
structure Describes (folder : String) (before : List WalkEntry) (e : WalkEntry) (o : Outcome) :
    Prop where
  /-- Of several recipes with the same identifier and language, the first is taken. -/
  recipe?_eq_some_iff : ∀ r, o.recipe? = some r ↔
    e.recipe? = some r ∧ r.edition ∉ (recipesIn before).map Recipe.edition
  of_document : ∀ fileName, e.documentName? = some fileName →
    (∃ r, o = .taken fileName r) ∨
      ∃ err, o = .failed err ∧ err.diagnosis.notes.getLast? = some ("in recipe '" ++ fileName ++ "'")
  of_no_document : e.documentName? = none →
    o = .skipped ∨ ∃ cause, e = .fault cause ∧ o = .failed (.of (.walkFailed folder cause))

/-- How a load accounts for the entries of a walk. -/
structure Accounts (folder : String) (entries : List WalkEntry) (s : Loading) : Prop where
  /-- The recipes in the files are offered to the library in the order of the walk. -/
  library_eq : s.library = (filled (recipesIn entries)).1
  taken_eq : (filled (recipesIn entries)).2 = (outcomes folder [] entries).filterMap Outcome.recipe?
  /-- Every recipe that was taken stands once in the library, and nothing else does. -/
  recipes_eq : ∀ lang, s.library.recipes lang =
    ((outcomes folder [] entries).filterMap Outcome.recipe?).filter (·.lang = lang)
  errors_eq : s.report.errors = (outcomes folder [] entries).filterMap Outcome.error?
  /-- Every entry has one outcome. -/
  length_outcomes : (outcomes folder [] entries).length = entries.length
  describes : ∀ before e after, entries = before ++ e :: after →
    (outcomes folder [] entries)[before.length]? = some (outcome folder before e) ∧
      Describes folder before e (outcome folder before e)

theorem describes_outcome (folder : String) (before : List WalkEntry) (e : WalkEntry) :
    Describes folder before e (outcome folder before e) where
  recipe?_eq_some_iff r := recipe?_outcome_eq_some.trans (and_congr_right fun _ => first?_eq_none)
  of_document fileName h := by
    rw [outcome]
    rcases ownOutcome_of_documentName? folder h with ⟨r, hr⟩ | ⟨err, herr⟩
    · rw [hr]
      cases hfirst : first? before r.edition with
      | none => exact .inl ⟨r, by simp only [hfirst]⟩
      | some first => exact .inr ⟨duplicate fileName r first, by simp only [hfirst], rfl⟩
    · rw [herr]
      refine .inr ⟨_, rfl, ?_⟩
      simp [LoadError.diagnosis, LoadError.withNote, Note.describe]
  of_no_document h := by
    rw [outcome]
    rcases ownOutcome_of_documentName?_eq_none folder h with hskip | ⟨cause, he, hfail⟩
    · rw [hskip]
      exact .inl rfl
    · rw [hfail]
      exact .inr ⟨cause, he, rfl⟩

theorem accounts_loadEntries (folder : String) (entries : List WalkEntry) :
    Accounts folder entries (loadEntries folder entries) where
  library_eq := by rw [loadEntries_eq, filled_eq_firsts, loaded]
  taken_eq := by rw [filled_eq_firsts, firsts_recipesIn folder]
  recipes_eq lang := by rw [loadEntries_eq, loaded, recipes_ofRecipes, firsts_recipesIn folder]
  errors_eq := by rw [loadEntries_eq]; rfl
  length_outcomes := length_outcomes folder [] entries
  describes := by
    rintro before e after rfl
    refine ⟨?_, describes_outcome folder before e⟩
    rw [outcomes_append, ← length_outcomes folder [] before, List.nil_append, outcomes,
      List.getElem?_append_right (Nat.le_refl _), Nat.sub_self, List.getElem?_cons_zero]

/-- An entry that fails leaves nothing but its error, at its place among the others. -/
theorem loadEntries_of_failed {err : LoadError} (h : outcome folder before e = .failed err)
    (after : List WalkEntry) :
    loadEntries folder (before ++ e :: after) =
      { loadEntries folder (before ++ after) with
        errors := (outcomes folder [] before).filterMap Outcome.error? ++
          err :: (outcomes folder before after).filterMap Outcome.error? } := by
  have hfirsts : firsts (recipesIn (before ++ e :: after)) = firsts (recipesIn (before ++ after)) := by
    rw [firsts_recipesIn folder, firsts_recipesIn folder, outcomes_of_failed h, outcomes_append]
    simp [List.filterMap_cons, Outcome.recipe?]
  rw [loadEntries_eq, loadEntries_eq, loaded, loaded, hfirsts, outcomes_of_failed h]
  simp [Outcome.error?]

/-- A load accounts for every entry of the walk. If an entry fails, then all but its own error is as
it were without the entry, and so with every other entry in its place that fails. -/
theorem load_accounts_and_isolates (folder : String) :
    (∀ tree : FileTree, load folder (some tree) = .ok ((loadEntries folder tree.walk).library,
      (loadEntries folder tree.walk).report)) ∧
    (∀ entries, Accounts folder entries (loadEntries folder entries)) ∧
    ∀ before after, ∃ errors errors',
      (loadEntries folder (before ++ after)).report.errors = errors ++ errors' ∧
      ∀ e err, outcome folder before e = .failed err →
        (loadEntries folder (before ++ e :: after)).library =
          (loadEntries folder (before ++ after)).library ∧
        (loadEntries folder (before ++ e :: after)).report.warnings =
          (loadEntries folder (before ++ after)).report.warnings ∧
        (loadEntries folder (before ++ e :: after)).report.errors = errors ++ err :: errors' := by
  refine ⟨fun tree => rfl, accounts_loadEntries folder, fun before after => ?_⟩
  refine ⟨(outcomes folder [] before).filterMap Outcome.error?,
    (outcomes folder before after).filterMap Outcome.error?, ?_, fun e err h => ?_⟩
  · rw [loadEntries_eq, ← List.filterMap_append, Loading.report, loaded, outcomes_append,
      List.nil_append]
  · rw [loadEntries_of_failed h]
    exact ⟨rfl, rfl, rfl⟩

/-- A soup, another one under its name, a file that is no document, and two that are not valid. -/
def soupFolder : List WalkEntry :=
  [.other,
    .file ["Soup.en.recipe"] (.bytes "name Onion soup\nserves 2\n\n- onions\nFry them.\n".toUTF8),
    .file ["soup.en.recipe"] (.bytes "name Quick soup\nserves 4\n\n- stock\nHeat it.\n".toUTF8),
    .file ["notes.txt"] (.bytes "Buy onions.".toUTF8),
    .file ["bread.recipe"] (.bytes "name Bread\nserves 4\n".toUTF8),
    .file ["salad.en.recipe"] (.bytes "name Salad\n".toUTF8)]

/-- The second soup leaves no trace but its error. -/
theorem soupFolder_accounts :
    (outcomes "recipes" [] soupFolder).map
        (fun o => (o.recipe?.map Recipe.name, o.error?.map (·.problem))) =
      [(none, none), (some "Onion soup", none),
        (none, some (.duplicateRecipe "soup" "en" "Soup.en.recipe")), (none, none),
        (none, some (.noLanguageTag "bread.recipe" "recipe")),
        (none, some (.servesMissing "salad" "en"))] ∧
      Accounts "recipes" soupFolder (loadEntries "recipes" soupFolder) ∧
      (loadEntries "recipes" soupFolder).library =
        (loadEntries "recipes" (soupFolder.eraseIdx 2)).library := by
  obtain ⟨-, haccounts, hisolates⟩ := load_accounts_and_isolates "recipes"
  refine ⟨by decide +kernel, haccounts soupFolder, ?_⟩
  obtain ⟨errors, errors', -, hfailed⟩ := hisolates (soupFolder.take 2) (soupFolder.drop 3)
  have herror : (outcome "recipes" (soupFolder.take 2) soupFolder[2]).error? =
      some ⟨.duplicateRecipe "soup" "en" "Soup.en.recipe", [.recipe "soup.en.recipe"]⟩ := by
    decide +kernel
  exact (hfailed _ _ (Outcome.error?_eq_some.1 herror)).1

end RecipeBook.Library
