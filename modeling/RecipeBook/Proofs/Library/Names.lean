import RecipeBook.Proofs.Document.Notes
import RecipeBook.Proofs.FileName
import RecipeBook.Proofs.Library.Loading
import RecipeBook.Proofs.Recipe.Converted

/-!
# What the names of files have to do with errors

Reading a document fails for what the document says, never for the file that it is in
(`failsWith_readDocument`). An error about a name therefore comes from taking the name apart, and as a
file with a format has an extension, no error of a load says that there is none
(`problem_ne_of_mem_errors`).
-/

namespace RecipeBook

/-- The error is about what a document says, not about the file that it is in. -/
def LoadError.OfText (e : LoadError) : Prop := ¬ e.problem.OfFile

variable {source : Document.Source} {folder : String}

/-! ### What documents fail with -/

theorem StepGraph.not_ofFile_of_faults {steps : List PlacedStep} {step : PlacedStep}
    {problem : Problem} (h : Faults steps step problem) : ¬ problem.OfFile := by
  cases h with
  | refused hsteps hus hstep hrefuses =>
    cases hrefuses with
    | references hbad => cases hbad <;> nofun
    | yields hreferences hbad => cases hbad; nofun
  | unused => nofun

theorem StepGraph.ofText_of_fault {steps : List PlacedStep} {e : LoadError}
    (h : (build steps).fault = some e) : e.OfText := by
  obtain ⟨step, -, hfaults, -⟩ := exists_faults_iff.1 h
  exact not_ofFile_of_faults hfaults

theorem Recipe.failsWith_assemble (metadata : Metadata) (drafts : List SectionDraft) :
    FailsWith LoadError.OfText (assemble metadata drafts) := fun _ h =>
  StepGraph.ofText_of_fault (assemble_eq_error_iff.1 h)

namespace Document

theorem failsWith_applyLine (b : Builder) (l : Line) (continuations : List Line) :
    FailsWith LoadError.OfText (applyLine b l continuations) := by
  refine FailsWith.noted (fun _ => id) ?_
  split
  · exact failsWith_applyCommand (fun _ => id) _ _ _ _
  · exact failsWith_fail nofun

theorem failsWith_readHeader (b : Builder) (ls : List Line) :
    FailsWith LoadError.OfText (readHeader b ls) := by
  fun_induction readHeader b ls with
  | case1 b => exact failsWith_ok _
  | case2 b l rest hblank => exact failsWith_ok _
  | case3 b l rest hblank continuations e happly =>
    intro e' he
    obtain rfl := Except.error.inj he
    exact failsWith_applyLine _ _ _ _ happly
  | case4 b l rest hblank continuations b' happly ih => exact ih

theorem failsWith_addStepLines (s : Step) (ls : List Line) :
    FailsWith LoadError.OfText (addStepLines s ls) := by
  induction ls generalizing s with
  | nil => exact failsWith_ok _
  | cons l ls ih =>
    rw [addStepLines]
    exact (FailsWith.noted (fun _ => id) (failsWith_addStepLine (fun _ => id) _ _)).bind ih

theorem failsWith_readBodyFrom (serves : Nat) (done : List SectionDraft) (current : SectionDraft)
    (ls : List Line) : FailsWith LoadError.OfText (readBodyFrom serves done current ls) := by
  fun_induction readBodyFrom serves done current ls with
  | case1 done current => exact failsWith_ok _
  | case2 done current l rest hblank ih => exact ih
  | case3 done current l rest hblank text htext ih => exact ih
  | case4 done current l rest hblank htext place e hstep =>
    intro e' he
    obtain rfl := Except.error.inj he
    exact FailsWith.noted (fun _ => id) (failsWith_addStepLines _ _) _ hstep
  | case5 done current l rest hblank htext place step hstep ih => exact ih

theorem failsWith_readBytes (source : Source) (bytes : ByteArray) :
    FailsWith LoadError.OfText (readBytes source bytes) := by
  have hparts : ∀ text, FailsWith LoadError.OfText (parts source text) := fun text =>
    (failsWith_readHeader _ _).bind fun p =>
      (Builder.failsWith_build (fun _ => id) p.1).bind fun metadata =>
        (failsWith_readBodyFrom metadata.serves [] .empty p.2).bind fun _ => failsWith_ok _
  rw [readBytes]
  cases String.fromUTF8? bytes with
  | none => exact failsWith_fail fun h => by cases h
  | some text => exact (hparts text).bind fun p => Recipe.failsWith_assemble p.1 p.2

end Document

theorem LegacyRecipe.failsWith_readBytes (source : Document.Source) (bytes : ByteArray) :
    FailsWith LoadError.OfText (readBytes source bytes) := by
  rw [readBytes]
  cases ofBytes bytes with
  | error fault => exact failsWith_fail fun h => by cases h
  | ok r =>
    intro e he
    rcases toRecipe_eq_error_iff.1 he with ⟨-, rfl⟩ | ⟨-, hfault⟩
    · exact fun h => by cases h
    · exact StepGraph.ofText_of_fault hfault

namespace Library

theorem failsWith_readDocument (format : DocumentFormat) (source : Document.Source)
    (bytes : ByteArray) : FailsWith LoadError.OfText (readDocument format source bytes) := by
  cases format with
  | recipe => exact Document.failsWith_readBytes source bytes
  | legacy => exact LegacyRecipe.failsWith_readBytes source bytes

/-! ### What files fail with -/

/-- A file with a format is not one without an extension. -/
theorem failsWith_readFile {format : DocumentFormat} {fileName : String}
    (hformat : FileName.format? fileName = some format) (location : String) (reading : Reading) :
    FailsWith (fun e => e.problem ≠ .noExtension) (readFile format location fileName reading) := by
  obtain ⟨extension, -, -, ⟨rawId, lang, hsplit⟩ | hsplit⟩ :=
    FileName.exists_extension_of_format? hformat
  · simp only [readFile, hsplit]
    cases reading with
    | unopened fault => exact failsWith_fail Problem.noConfusion
    | broken fault => cases format <;> exact failsWith_fail Problem.noConfusion
    | bytes bytes =>
      exact fun e he hproblem =>
        failsWith_readDocument format _ bytes e he (hproblem ▸ .noExtension)
  · rw [readFile, hsplit]
    exact failsWith_fail Problem.noConfusion

theorem problem_ne_of_ownOutcome {e : WalkEntry} {err : LoadError}
    (h : ownOutcome folder e = .failed err) : err.problem ≠ .noExtension := by
  cases e with
  | fault cause =>
    cases h
    exact Problem.noConfusion
  | other => cases h
  | file path reading =>
    cases hformat : FileName.format? path.fileName with
    | none =>
      simp only [ownOutcome, hformat] at h
      cases h
    | some format =>
      simp only [ownOutcome, hformat] at h
      split at h
      · next e hread =>
        cases h
        exact failsWith_readFile hformat _ _ e hread
      · cases h

/-- What comes before a file changes what its error is at most to that of a second edition. -/
theorem problem_ne_of_outcome {before : List WalkEntry} {e : WalkEntry} {err : LoadError}
    (h : outcome folder before e = .failed err) : err.problem ≠ .noExtension := by
  rw [outcome] at h
  split at h
  · next fileName r htaken =>
    split at h
    · cases h
    · cases h
      exact Problem.noConfusion
  · exact problem_ne_of_ownOutcome h

theorem problem_ne_of_mem_outcomes {before es : List WalkEntry} {err : LoadError}
    (h : .failed err ∈ outcomes folder before es) : err.problem ≠ .noExtension := by
  induction es generalizing before with
  | nil => cases h
  | cons e es ih =>
    rw [outcomes] at h
    rcases List.mem_cons.1 h with h | h
    · exact problem_ne_of_outcome h.symm
    · exact ih h

/-- No error of a load is that a file has no extension. -/
theorem problem_ne_of_mem_errors {entries : List WalkEntry} {e : LoadError}
    (h : e ∈ (loadEntries folder entries).report.errors) : e.problem ≠ .noExtension := by
  rw [loadEntries_eq] at h
  obtain ⟨o, ho, herror⟩ := List.mem_filterMap.1 h
  obtain rfl := Outcome.error?_eq_some.1 herror
  exact problem_ne_of_mem_outcomes ho

/-- A name is taken apart into the parts that it is written of, and the extension among them is the
one that the format of the file is told from, also if the name is octets that are no text. So no error
of a load is that a file has no extension. -/
theorem takes_names_apart :
    (∀ s, FileName.TakenApart s) ∧
    (∀ before extension, before ≠ [] → '.' ∉ extension.toList →
      let s := FileName.shown (before ++ 0x2e :: extension.toUTF8.toList)
      FileName.extension? s = some extension ∧
        FileName.format? s = DocumentFormat.ofExtension? extension) ∧
    ∀ folder entries, ∀ e ∈ (loadEntries folder entries).report.errors, e.problem ≠ .noExtension := by
  refine ⟨FileName.takenApart, fun before extension hbefore hpoint => ?_, fun _ _ _ =>
    problem_ne_of_mem_errors⟩
  have hextension := FileName.extension?_shown hbefore hpoint
  exact ⟨hextension, by rw [FileName.format?, hextension, Option.bind_some]⟩

/-- Names with points in all places, and some without a format. -/
def pointedNames : List WalkEntry :=
  ["Chili.v2.en.recipe", "README", ".recipe", "Chili..recipe", ".en.recipe", "..yml", "tea.en."].map
    fun name => .file [name] (.bytes "name Chili\nserves 2\n".toUTF8)

/-- The name in octets begins with one that starts no character. -/
theorem takes_names_apart_pointedNames :
    FileName.split? "Chili.v2.en.recipe" = some (.ok ⟨"Chili.v2", "en", "recipe"⟩) ∧
    FileName.format? (FileName.shown (0xff :: 0x2e :: "recipe".toUTF8.toList)) = some .recipe ∧
    (loadEntries "recipes" pointedNames).report.errors =
      [⟨.noLanguageTag "Chili..recipe" "recipe", [.recipe "Chili..recipe"]⟩,
        ⟨.noLanguageTag ".en.recipe" "recipe", [.recipe ".en.recipe"]⟩,
        ⟨.noLanguageTag "..yml" "yml", [.recipe "..yml"]⟩] ∧
    Problem.noLanguageTag "..yml" "yml" ≠ .noExtension := by
  obtain ⟨hapart, hshown, hload⟩ := takes_names_apart
  have herrors : (loadEntries "recipes" pointedNames).report.errors =
      [⟨.noLanguageTag "Chili..recipe" "recipe", [.recipe "Chili..recipe"]⟩,
        ⟨.noLanguageTag ".en.recipe" "recipe", [.recipe ".en.recipe"]⟩,
        ⟨.noLanguageTag "..yml" "yml", [.recipe "..yml"]⟩] := by
    decide +kernel
  refine ⟨?_, ?_, herrors, ?_⟩
  · exact ((hapart "Chili.v2.en.recipe").ok_iff _).2 ⟨rfl, by decide, by decide, by decide, by decide⟩
  · exact (hshown [0xff] "recipe" (by decide) (by decide)).2
  · exact hload "recipes" pointedNames ⟨.noLanguageTag "..yml" "yml", [.recipe "..yml"]⟩
      (by rw [herrors]; simp)

end Library
end RecipeBook
