import RecipeBook.Document

/-!
# Where the notes of an error come from

What reads a piece of a line fails without notes (`Bare`), and never for the file that the text is in
(`Problem.OfFile`). Both are cases of one fact: such an error is a problem of the text alone, and has
every property that these have (`FailsWith`). Notes are added from the inside out: the line by
`applyLine` and `addStepLines`, and the step by `readBodyFrom`.
-/

namespace RecipeBook

section
variable {α β : Type} {result : Except LoadError α} {e : LoadError}

theorem bind_eq_error {f : α → Except LoadError β} :
    result >>= f = .error e ↔ result = .error e ∨ ∃ a, result = .ok a ∧ f a = .error e := by
  cases result <;> simp [bind, Except.bind]

theorem map_eq_ok {f : α → β} {b : β} :
    result.map f = .ok b ↔ ∃ a, result = .ok a ∧ f a = b := by
  cases result <;> simp [Except.map]

theorem noted_eq_error {note : Note} :
    noted note result = .error e ↔ ∃ e', result = .error e' ∧ e'.withNote note = e := by
  cases result with
  | error e' =>
    show Except.error (e'.withNote note) = .error e ↔ _
    simp
  | ok a =>
    show Except.ok a = .error e ↔ _
    simp

end

/-- Problems of the file that a document is in: its name, the way to it, its place in the library. -/
inductive Problem.OfFile : Problem → Prop
  | noExtension : OfFile .noExtension
  | noLanguageTag (fileName extension : String) : OfFile (.noLanguageTag fileName extension)
  | duplicateRecipe (id lang fileName : String) : OfFile (.duplicateRecipe id lang fileName)
  | unopened (location : String) (fault : IoFault) : OfFile (.unopened location fault)
  | walkFailed (folder cause : String) : OfFile (.walkFailed folder cause)

/-- If this fails, then with an error that has the property. -/
def FailsWith {α : Type} (P : LoadError → Prop) (result : Except LoadError α) : Prop :=
  ∀ e, result = .error e → P e

/-- If this fails, then without notes. -/
def Bare {α : Type} (result : Except LoadError α) : Prop := ∀ e, result = .error e → e.notes = []

section
variable {α β : Type} {P : LoadError → Prop} {result : Except LoadError α}

theorem failsWith_ok (a : α) : FailsWith P (.ok a : Except LoadError α) := fun _ h => by cases h

theorem failsWith_fail {problem : Problem} (h : P (.of problem)) :
    FailsWith P (fail problem : Except LoadError α) :=
  fun _ he => by cases he; exact h

theorem bare_fail (problem : Problem) : Bare (fail problem : Except LoadError α) := failsWith_fail rfl

theorem FailsWith.bind {f : α → Except LoadError β} (h : FailsWith P result)
    (hf : ∀ a, FailsWith P (f a)) : FailsWith P (result >>= f) := by
  intro e he
  rcases bind_eq_error.1 he with he | ⟨a, -, he⟩
  · exact h e he
  · exact hf a e he

theorem FailsWith.map {f : α → β} (h : FailsWith P result) : FailsWith P (result.map f) := by
  intro e he
  cases result with
  | error e' =>
    obtain rfl : e' = e := Except.error.inj he
    exact h e' rfl
  | ok a => cases he

theorem FailsWith.noted {note : Note} (hnote : ∀ e, P e → P (e.withNote note)) (h : FailsWith P result) :
    FailsWith P (noted note result) := by
  intro e he
  obtain ⟨e', he', rfl⟩ := noted_eq_error.1 he
  exact hnote e' (h e' he')

theorem failsWith_mapM {γ : Type} {f : γ → Except LoadError β} (h : ∀ c, FailsWith P (f c))
    (cs : List γ) : FailsWith P (cs.mapM f) := by
  induction cs with
  | nil => exact failsWith_ok []
  | cons c cs ih =>
    rw [List.mapM_cons]
    exact (h c).bind fun _ => ih.bind fun _ => failsWith_ok _

/-- The note that is added is the only one. -/
theorem Bare.notes_of_noted {note : Note} {e : LoadError} (h : Bare result)
    (he : noted note result = .error e) : e.notes = [note] := by
  obtain ⟨e', he', rfl⟩ := noted_eq_error.1 he
  rw [LoadError.withNote, h e' he', List.nil_append]

end

section
variable {P : LoadError → Prop} (hP : ∀ problem : Problem, ¬ problem.OfFile → P (.of problem))
include hP

theorem failsWith_ofLine (line : String) : FailsWith P (Words.ofLine line) := by
  rw [Words.ofLine]
  split
  · exact failsWith_ok _
  · exact failsWith_fail (hP _ nofun)
  · exact failsWith_fail (hP _ nofun)

namespace Ingredient

theorem failsWith_readAmount (amount line : String) (parts : List String) :
    FailsWith P (readAmount amount line parts) := by
  rw [readAmount]
  split
  · exact failsWith_ok _
  · exact failsWith_fail (hP _ nofun)

theorem failsWith_read (serves : Nat) (line : String) : FailsWith P (read serves line) := by
  refine (failsWith_ofLine hP line).bind fun parts => ?_
  rw [ofWords.eq_def]
  split
  · exact failsWith_fail (hP _ nofun)
  · exact failsWith_ok _
  · exact (failsWith_readAmount hP _ _ _).map
  · exact (failsWith_readAmount hP _ _ _).map

end Ingredient

theorem InstructionPart.failsWith_ofToken (serves : Nat) (token : List Char) :
    FailsWith P (ofToken serves token) := by
  rw [ofToken]
  split
  · exact failsWith_ok _
  · split
    · exact failsWith_ok _
    · exact failsWith_fail (hP _ nofun)

namespace Builder

variable {b : Builder}

theorem failsWith_add (e : Entry) : FailsWith P (b.add e) := by
  rw [add]
  split
  · exact failsWith_fail (hP _ nofun)
  · exact failsWith_ok _

theorem fault_of_addAll {es : List Entry} {fault : LoadError}
    (h : (b.addAll es).2 = some fault) : P fault := by
  induction es generalizing b with
  | nil => cases h
  | cons e es ih =>
    rw [addAll] at h
    split at h
    · exact ih h
    · next f hadd =>
      obtain rfl := Option.some.inj h
      exact failsWith_add hP e _ hadd

theorem failsWith_readIncrement (s : String) : FailsWith P (ServesLine.readIncrement s) := by
  rw [ServesLine.readIncrement]
  split
  · split
    · exact failsWith_ok _
    · exact failsWith_fail (hP _ nofun)
  · split
    · exact failsWith_ok _
    · exact failsWith_fail (hP _ nofun)

theorem fault_of_read {value : String} {fault : LoadError}
    (h : (ServesLine.read value).fault = some fault) : P fault := by
  rw [ServesLine.read] at h
  split at h
  · next parts hparts =>
    rw [ServesLine.ofWords.eq_def] at h
    split at h
    · cases h; exact hP _ nofun
    · split at h
      · cases h; exact hP _ nofun
      · cases h; exact hP _ nofun
      · split at h
        · cases h
        · cases h
        · split at h
          · next hincrement =>
            obtain rfl := Option.some.inj h
            exact failsWith_readIncrement hP _ _ hincrement
          · simp only at h
            split at h
            · cases h
            · cases h; exact hP _ nofun
  · next f hwords =>
    obtain rfl := Option.some.inj h
    exact failsWith_ofLine hP _ _ hwords

theorem fault_of_addServesLine {value : String} {fault : LoadError}
    (h : (b.addServesLine value).2 = some fault) : P fault := by
  rw [addServesLine] at h
  split at h
  · exact fault_of_read hP h
  · next hadd => exact fault_of_addAll hP (by rw [hadd]; exact h)

theorem failsWith_build (b : Builder) : FailsWith P b.build := by
  rw [Builder.build]
  split
  · exact failsWith_fail (hP _ nofun)
  · exact failsWith_fail (hP _ nofun)
  · simp only
    split
    · exact failsWith_fail (hP _ nofun)
    · exact failsWith_ok _

end Builder

namespace Document

theorem failsWith_nameOn (kind : NameLine) (rest : List Char) : FailsWith P (nameOn kind rest) := by
  rw [nameOn]
  split
  · exact failsWith_fail (hP _ nofun)
  · exact failsWith_ok _

theorem failsWith_addStepLine (s : Step) (line : List Char) : FailsWith P (addStepLine s line) := by
  rw [addStepLine]
  split
  · exact (Ingredient.failsWith_read hP _ _).bind fun _ => failsWith_ok _
  split
  · exact (failsWith_nameOn hP _ _).bind fun _ => failsWith_ok _
  split
  · exact failsWith_ok _
  split
  · exact (failsWith_nameOn hP _ _).bind fun _ => failsWith_ok _
  split
  · exact (failsWith_nameOn hP _ _).bind fun _ => failsWith_ok _
  · exact (failsWith_mapM (InstructionPart.failsWith_ofToken hP _) _).bind fun _ => failsWith_ok _

theorem failsWith_requiredValue (c : Command) (value : String) :
    FailsWith P (requiredValue c value) := by
  rw [requiredValue]
  split
  · exact failsWith_fail (hP _ nofun)
  · exact failsWith_ok _

theorem failsWith_readVersion (value : String) : FailsWith P (readVersion value) := by
  rw [readVersion]
  split
  · exact failsWith_ok _
  · exact failsWith_fail (hP _ nofun)

theorem failsWith_applyCommand (b : Builder) (c : Command) (value : String)
    (continuations : List Line) : FailsWith P (applyCommand b c value continuations) := by
  cases c with
  | name => exact (failsWith_requiredValue hP _ _).bind fun _ => Builder.failsWith_add hP _
  | serves =>
    rw [applyCommand]
    split
    · exact failsWith_ok _
    · next fault hadd =>
      intro e he
      obtain rfl := Except.error.inj he
      exact Builder.fault_of_addServesLine hP (by rw [hadd])
  | desc => exact Builder.failsWith_add hP _
  | note => exact Builder.failsWith_add hP _
  | tags => exact Builder.failsWith_add hP _
  | related => exact Builder.failsWith_add hP _
  | attrib => exact (failsWith_requiredValue hP _ _).bind fun _ => Builder.failsWith_add hP _
  | hide => exact Builder.failsWith_add hP _
  | version => exact (failsWith_readVersion hP _).bind fun _ => Builder.failsWith_add hP _

end Document
end

namespace Document

/-! ### Notes -/

theorem bare_addStepLine (s : Step) (line : List Char) : Bare (addStepLine s line) :=
  failsWith_addStepLine (fun _ _ => rfl) s line

theorem bare_applyCommand (b : Builder) (c : Command) (value : String) (continuations : List Line) :
    Bare (applyCommand b c value continuations) :=
  failsWith_applyCommand (fun _ _ => rfl) b c value continuations

theorem bare_build (b : Builder) : Bare b.build := Builder.failsWith_build (fun _ _ => rfl) b

theorem notes_of_applyLine {b : Builder} {l : Line} {continuations : List Line} {e : LoadError}
    (h : applyLine b l continuations = .error e) : e.notes = [.line l.index] := by
  refine Bare.notes_of_noted ?_ h
  split
  · exact bare_applyCommand _ _ _ _
  · exact bare_fail _

end Document
end RecipeBook
