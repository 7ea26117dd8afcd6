import RecipeBook.Library.Load
import RecipeBook.Proofs.FileName
import RecipeBook.Proofs.Library.Offered
import RecipeBook.Proofs.Recipe.Loaded

/-!
# What becomes of a file in a folder

`ownOutcome` is what an entry of a walk amounts to by itself: it is no document, or it has a recipe, or
it fails. In view of the entries before it (`outcome`) a recipe whose identifier and language have come
before fails too. The library takes exactly the recipes that are left (`firsts_recipesIn_concat`).
-/

namespace RecipeBook

namespace WalkEntry

/-- The name of a regular file whose extension is that of a recipe document. -/
def documentName? : WalkEntry → Option String
  | .file path _ =>
    if FileName.extension? path.fileName ∈ [some "recipe", some "yml", some "yaml"] then
      some path.fileName
    else none
  | _ => none

/-- The recipe in a file with a well-formed name and valid content. -/
def recipe? : WalkEntry → Option Recipe
  | .file path (.bytes bytes) => do
    let format ← FileName.format? path.fileName
    let name ← (← FileName.split? path.fileName).toOption
    (Library.readDocument format ⟨name.rawId, name.lang, path.fileName⟩ bytes).toOption
  | _ => none

end WalkEntry

/-- What becomes of an entry of a walk. -/
inductive Outcome
  | skipped
  | taken (fileName : String) (r : Recipe)
  | failed (e : LoadError)

namespace Outcome

def recipe? : Outcome → Option Recipe
  | taken _ r => some r
  | _ => none

def error? : Outcome → Option LoadError
  | failed e => some e
  | _ => none

theorem error?_eq_some {o : Outcome} {e : LoadError} : o.error? = some e ↔ o = failed e := by
  cases o <;> simp [error?]

end Outcome

namespace Library

/-- What becomes of an entry by itself. -/
def ownOutcome (folder : String) : WalkEntry → Outcome
  | .fault cause => .failed (.of (.walkFailed folder cause))
  | .other => .skipped
  | .file path reading =>
    match FileName.format? path.fileName with
    | none => .skipped
    | some format =>
      match readFile format (path.locate folder) path.fileName reading with
      | .error e => .failed (e.withNote (.recipe path.fileName))
      | .ok r => .taken path.fileName r

/-- The recipes in the files that a walk comes upon. -/
def recipesIn (entries : List WalkEntry) : List Recipe := entries.filterMap WalkEntry.recipe?

/-- The first of the recipes in some files with the given identifier and language. -/
def first? (entries : List WalkEntry) (edition : String × String) : Option Recipe :=
  (recipesIn entries).find? (·.edition = edition)

/-- The error about a recipe whose identifier and language another one has. -/
def duplicate (fileName : String) (r first : Recipe) : LoadError :=
  (LoadError.of (.duplicateRecipe r.id r.lang first.metadata.fileName)).withNote (.recipe fileName)

/-- What becomes of an entry, in view of those before it. -/
def outcome (folder : String) (before : List WalkEntry) (e : WalkEntry) : Outcome :=
  match ownOutcome folder e with
  | .taken fileName r =>
    match first? before r.edition with
    | none => .taken fileName r
    | some first => .failed (duplicate fileName r first)
  | o => o

variable {folder : String} {before : List WalkEntry} {e : WalkEntry} {r : Recipe}

/-! ### Entries by themselves -/

theorem addEntry_eq (folder : String) (s : Loading) (e : WalkEntry) : s.addEntry folder e =
    match ownOutcome folder e with
    | .skipped => s
    | .taken fileName r => s.addRecipe fileName (.ok r)
    | .failed err => { s with errors := s.errors ++ [err] } := by
  cases e with
  | fault cause => rfl
  | other => rfl
  | file path reading =>
    rw [Loading.addEntry, ownOutcome]
    cases FileName.format? path.fileName with
    | none => rfl
    | some format =>
      simp only
      cases readFile format (path.locate folder) path.fileName reading <;> rfl

theorem toOption_readFile {format : DocumentFormat} {path : Path} (location : String)
    (reading : Reading) (hformat : FileName.format? path.fileName = some format) :
    (readFile format location path.fileName reading).toOption =
      (WalkEntry.file path reading).recipe? := by
  cases reading with
  | bytes bytes =>
    simp only [readFile, WalkEntry.recipe?, hformat]
    cases FileName.split? path.fileName with
    | none => rfl
    | some result => cases result <;> rfl
  | unopened fault | broken fault =>
    rw [readFile]
    cases FileName.split? path.fileName with
    | none => rfl
    | some result => cases result <;> rfl

theorem recipe?_ownOutcome (folder : String) (e : WalkEntry) :
    (ownOutcome folder e).recipe? = e.recipe? := by
  cases e with
  | fault cause => rfl
  | other => rfl
  | file path reading =>
    rw [ownOutcome]
    cases hformat : FileName.format? path.fileName with
    | none => cases reading <;> simp [WalkEntry.recipe?, hformat, Outcome.recipe?]
    | some format =>
      rw [← toOption_readFile (path.locate folder) reading hformat]
      simp only
      cases readFile format (path.locate folder) path.fileName reading <;> rfl

/-- A document has a recipe or fails with a note that names it. -/
theorem ownOutcome_of_documentName? {fileName : String} (folder : String)
    (h : e.documentName? = some fileName) :
    (∃ r, ownOutcome folder e = .taken fileName r) ∨
      ∃ err : LoadError, ownOutcome folder e = .failed (err.withNote (.recipe fileName)) := by
  cases e with
  | fault cause => cases h
  | other => cases h
  | file path reading =>
    rw [WalkEntry.documentName?] at h
    split at h
    · next hext =>
      obtain rfl := Option.some.inj h
      obtain ⟨format, hformat⟩ := Option.isSome_iff_exists.1 (FileName.format?_isSome.2 hext)
      simp only [ownOutcome, hformat]
      cases readFile format (path.locate folder) path.fileName reading with
      | error err => exact .inr ⟨err, rfl⟩
      | ok r => exact .inl ⟨r, rfl⟩
    · cases h

/-- What is no document is skipped, or it is a place that cannot be looked into. -/
theorem ownOutcome_of_documentName?_eq_none (folder : String) (h : e.documentName? = none) :
    ownOutcome folder e = .skipped ∨
      ∃ cause, e = .fault cause ∧ ownOutcome folder e = .failed (.of (.walkFailed folder cause)) := by
  cases e with
  | fault cause => exact .inr ⟨cause, rfl, rfl⟩
  | other => exact .inl rfl
  | file path reading =>
    rw [WalkEntry.documentName?] at h
    split at h
    · cases h
    · next hext =>
      have hformat : FileName.format? path.fileName = none :=
        Option.not_isSome_iff_eq_none.1 (mt FileName.format?_isSome.1 hext)
      simp only [ownOutcome, hformat, true_or]

/-- A recipe among the files is what a document in one of them was read as. -/
theorem exists_document_of_mem_recipesIn {entries : List WalkEntry} (h : r ∈ recipesIn entries) :
    ∃ path bytes format name, .file path (.bytes bytes) ∈ entries ∧
      FileName.split? path.fileName = some (.ok name) ∧
      readDocument format ⟨name.rawId, name.lang, path.fileName⟩ bytes = .ok r := by
  obtain ⟨e, he, hrecipe⟩ := List.mem_filterMap.1 h
  cases e with
  | file path reading =>
    cases reading with
    | bytes bytes =>
      obtain ⟨format, -, hname⟩ := Option.bind_eq_some_iff.1 hrecipe
      obtain ⟨split, hsplit, hname⟩ := Option.bind_eq_some_iff.1 hname
      obtain ⟨name, hok, hread⟩ := Option.bind_eq_some_iff.1 hname
      obtain rfl := toOption_eq_some.1 hok
      exact ⟨path, bytes, format, name, he, hsplit, toOption_eq_some.1 hread⟩
    | _ => cases hrecipe
  | _ => cases hrecipe

theorem isLoaded_of_mem_recipesIn (h : r ∈ recipesIn before) : r.IsLoaded := by
  obtain ⟨path, bytes, format, name, -, -, hread⟩ := exists_document_of_mem_recipesIn h
  exact Recipe.isLoaded_of_readDocument hread

/-! ### Entries after others -/

theorem recipesIn_concat (before : List WalkEntry) (e : WalkEntry) :
    recipesIn (before ++ [e]) = recipesIn before ++ e.recipe?.toList := by
  rw [recipesIn, List.filterMap_append]
  cases h : e.recipe? <;> simp [recipesIn, h]

theorem first?_eq_none : first? before r.edition = none ↔
    r.edition ∉ (recipesIn before).map Recipe.edition := find?_edition_eq_none

/-- A recipe is taken unless its identifier and language have come before. -/
theorem recipe?_outcome_eq_some : (outcome folder before e).recipe? = some r ↔
    e.recipe? = some r ∧ first? before r.edition = none := by
  rw [← recipe?_ownOutcome folder, outcome]
  cases ownOutcome folder e with
  | skipped => simp [Outcome.recipe?]
  | failed err => simp [Outcome.recipe?]
  | taken fileName r' =>
    cases hfirst : first? before r'.edition with
    | none =>
      simp only [hfirst, Outcome.recipe?, Option.some.injEq]
      exact ⟨fun hr => ⟨hr, hr ▸ hfirst⟩, And.left⟩
    | some first =>
      simp only [hfirst, Outcome.recipe?, Option.some.injEq, reduceCtorEq, false_iff]
      rintro ⟨rfl, hnone⟩
      exact Option.some_ne_none first (hfirst.symm.trans hnone)

/-- The recipe that comes to the library is the one that is taken from the entry. -/
theorem firsts_recipesIn_concat (folder : String) (before : List WalkEntry) (e : WalkEntry) :
    firsts (recipesIn (before ++ [e])) =
      firsts (recipesIn before) ++ (outcome folder before e).recipe?.toList := by
  rw [recipesIn_concat, ← recipe?_ownOutcome folder, outcome]
  cases ownOutcome folder e with
  | skipped => simp [Outcome.recipe?]
  | failed err => simp [Outcome.recipe?]
  | taken fileName r =>
    simp only [Outcome.recipe?, Option.toList_some, firsts_concat, mem_map_edition_firsts]
    cases hfirst : first? before r.edition with
    | none => rw [if_neg (first?_eq_none.1 hfirst), Option.toList_some]
    | some first =>
      have hmem := mt first?_eq_none.2 (Option.ne_none_iff_exists'.2 ⟨first, hfirst⟩)
      rw [if_pos (not_not.1 hmem), Option.toList_none, List.append_nil]

end Library
end RecipeBook
