import RecipeBook.Proofs.Boundary
import RecipeBook.Proofs.Document.Outline
import RecipeBook.Proofs.Document.StepLine
import RecipeBook.Proofs.Paired

/-!
# Reading a body by its outline

`readBlocks` reads the blocks of an outline one after the other, each run as a step, and
`readBody_eq_readBlocks` says that a body is read so. Hence a body is accepted exactly if its drafts
can be made of the outline (`readBody_eq_ok_iff`), which fails only for a line that is not valid
(`exists_readBody_eq_error_iff`), and the place that an error notes is the place of its run in the
outline (`exists_of_readBody_eq_error`).
-/

namespace RecipeBook.Document

/-- Reads runs of lines as steps of one section, the first of which is at `place`. -/
def readRuns (serves : Nat) (place : Place) : List (List Line) → Except LoadError (List Step)
  | [] => .ok []
  | run :: more => do
    let step ← noted (.step place) (addStepLines (.empty serves) run)
    let steps ← readRuns serves ⟨place.ordinal + 1, place.sectionIndex⟩ more
    return step :: steps

/-- Reads blocks as sections, the first of which has `index` sections before it. -/
def readBlocks (serves index : Nat) : List Block → Except LoadError (List SectionDraft)
  | [] => .ok []
  | block :: blocks => do
    let steps ← readRuns serves ⟨0, index⟩ block.runs
    let drafts ← readBlocks serves (index + 1) blocks
    return ⟨block.heading, steps⟩ :: drafts

/-- Reads blocks as sections behind those that are done. -/
def readBehind (serves : Nat) (done : List SectionDraft) (blocks : List Block) :
    Except LoadError (List SectionDraft) :=
  (readBlocks serves done.length blocks).map (done ++ ·)

/-- The section has the heading of the block, and each run is one of its steps. -/
def Block.Describes (serves : Nat) (block : Block) (draft : SectionDraft) : Prop :=
  draft.heading = block.heading ∧ List.Forall₂ (Document.Describes serves) block.runs draft.steps

/-- The run at a place of some blocks. -/
def runAt? (blocks : List Block) (place : Place) : Option (List Line) :=
  blocks[place.sectionIndex]?.bind fun block => block.runs[place.ordinal]?

variable {serves index : Nat} {place : Place} {done drafts : List SectionDraft}
  {steps : List Step} {rs : List (List Line)} {block : Block} {blocks : List Block} {l : Line}
  {ls : List Line} {e : LoadError}

/-! ### Runs and blocks -/

theorem readRuns_cons (place : Place) (run : List Line) (rs : List (List Line)) :
    readRuns serves place (run :: rs) =
      (noted (.step place) (addStepLines (.empty serves) run) >>= fun step =>
        readRuns serves ⟨place.ordinal + 1, place.sectionIndex⟩ rs >>= fun steps =>
          .ok (step :: steps)) := rfl

theorem readBlocks_cons (index : Nat) (block : Block) (blocks : List Block) :
    readBlocks serves index (block :: blocks) =
      (readRuns serves ⟨0, index⟩ block.runs >>= fun steps =>
        readBlocks serves (index + 1) blocks >>= fun drafts =>
          .ok (⟨block.heading, steps⟩ :: drafts)) := rfl

theorem readRuns_eq_ok_iff :
    readRuns serves place rs = .ok steps ↔ List.Forall₂ (Describes serves) rs steps := by
  induction rs generalizing place steps with
  | nil => simp [readRuns, eq_comm]
  | cons run rs ih =>
    rw [readRuns_cons]
    simp only [bind_eq_ok, noted_eq_ok, addStepLines_empty_eq_ok_iff, ih, Except.ok.injEq,
      List.forall₂_cons_left_iff]
    constructor
    · rintro ⟨step, hstep, steps, hsteps, rfl⟩
      exact ⟨step, steps, hstep, hsteps, rfl⟩
    · rintro ⟨step, steps, hstep, hsteps, rfl⟩
      exact ⟨step, hstep, steps, hsteps, rfl⟩

theorem readBlocks_eq_ok_iff :
    readBlocks serves index blocks = .ok drafts ↔
      List.Forall₂ (Block.Describes serves) blocks drafts := by
  induction blocks generalizing index drafts with
  | nil => simp [readBlocks, eq_comm]
  | cons block blocks ih =>
    rw [readBlocks_cons]
    simp only [bind_eq_ok, readRuns_eq_ok_iff, ih, Except.ok.injEq, List.forall₂_cons_left_iff]
    constructor
    · rintro ⟨steps, hsteps, drafts, hdrafts, rfl⟩
      exact ⟨_, drafts, ⟨rfl, hsteps⟩, hdrafts, rfl⟩
    · rintro ⟨⟨heading, steps⟩, drafts, ⟨rfl, hsteps⟩, hdrafts, rfl⟩
      exact ⟨steps, hsteps, drafts, hdrafts, rfl⟩

/-! ### The body is read block by block -/

theorem close_of_ne_nil (done : List SectionDraft) (heading : Option String) (h : steps ≠ []) :
    close done ⟨heading, steps⟩ = done ++ [⟨heading, steps⟩] := by
  have hblank : SectionDraft.isBlank ⟨heading, steps⟩ = false := by
    simp [SectionDraft.isBlank, h]
  rw [close, hblank]
  rfl

theorem readBehind_cons (done : List SectionDraft) (block : Block) (blocks : List Block) :
    readBehind serves done (block :: blocks) =
      (readRuns serves ⟨0, done.length⟩ block.runs >>= fun steps =>
        readBehind serves (done ++ [⟨block.heading, steps⟩]) blocks) := by
  rw [readBehind, readBlocks_cons]
  cases readRuns serves ⟨0, done.length⟩ block.runs with
  | error e => rfl
  | ok steps =>
    show Except.map _ (readBlocks serves (done.length + 1) blocks >>= _) = readBehind serves _ blocks
    rw [readBehind, List.length_append, List.length_singleton]
    cases readBlocks serves (done.length + 1) blocks with
    | error e => rfl
    | ok drafts =>
      show Except.ok (done ++ ⟨block.heading, steps⟩ :: drafts) = .ok (done ++ [_] ++ drafts)
      rw [List.append_assoc, List.singleton_append]

theorem readBodyFrom_of_isBlank (h : l.isBlank) (done : List SectionDraft) (current : SectionDraft)
    (rest : List Line) :
    readBodyFrom serves done current (l :: rest) = readBodyFrom serves done current rest := by
  rw [readBodyFrom, if_pos h]

theorem readBodyFrom_of_heading? {text : List Char} (h : l.heading? = some text)
    (done : List SectionDraft) (current : SectionDraft) (rest : List Line) :
    readBodyFrom serves done current (l :: rest) =
      readBodyFrom serves (close done current) ⟨some (.ofList (Text.trim text)), []⟩ rest := by
  rw [readBodyFrom, if_neg (by simp [Line.isBlank_of_heading? h]), h]

theorem readBodyFrom_of_inStep (h : l.inStep) (done : List SectionDraft) (current : SectionDraft)
    (rest : List Line) :
    readBodyFrom serves done current (l :: rest) =
      (noted (.step ⟨current.steps.length, done.length⟩)
          (addStepLines (.empty serves) (l :: rest.takeWhile Line.inStep)) >>= fun step =>
        readBodyFrom serves done { current with steps := current.steps ++ [step] }
          (rest.dropWhile Line.inStep)) := by
  obtain ⟨hblank, hheading⟩ := Line.inStep_iff.1 h
  rw [readBodyFrom, if_neg (by simp [hblank]), hheading]
  simp only
  cases noted (.step ⟨current.steps.length, done.length⟩)
    (addStepLines (.empty serves) (l :: rest.takeWhile Line.inStep)) <;> rfl

/-- A run at the beginning of some lines is the first of their runs. -/
theorem cut_run (hl : l.inStep) (rest : List Line) :
    front (l :: rest) = (l :: rest.takeWhile Line.inStep) :: front (rest.dropWhile Line.inStep) ∧
      headed (l :: rest) = headed (rest.dropWhile Line.inStep) := by
  have hcut : l :: rest = (l :: rest.takeWhile Line.inStep) ++ rest.dropWhile Line.inStep := by
    rw [List.cons_append, List.takeWhile_append_dropWhile]
  have hrun : ∀ x ∈ l :: rest.takeWhile Line.inStep, x.inStep := by
    intro x hx
    rcases List.mem_cons.1 hx with rfl | hx
    · exact hl
    · exact List.mem_takeWhile_imp hx
  have hrest := any_head?_eq_false (head?_dropWhile_eq_false Line.inStep rest)
  have hfront := front_append (List.cons_ne_nil _ _) hrun hrest
  have hheaded := headed_append hrun (rest.dropWhile Line.inStep)
  rw [← hcut] at hfront hheaded
  exact ⟨hfront, hheaded⟩

/-- The runs up to the next heading belong to the section that is being read; behind them, sections
are read under their headings. -/
theorem readBodyFrom_eq (serves : Nat) (done : List SectionDraft) (current : SectionDraft)
    (ls : List Line) :
    readBodyFrom serves done current ls =
      (readRuns serves ⟨current.steps.length, done.length⟩ (front ls) >>= fun steps =>
        readBehind serves (close done ⟨current.heading, current.steps ++ steps⟩) (headed ls)) := by
  fun_induction readBodyFrom serves done current ls with
  | case1 done current =>
    rw [front_nil, headed_nil]
    show Except.ok _ = Except.ok (close done ⟨current.heading, current.steps ++ []⟩ ++ [])
    rw [List.append_nil, List.append_nil]
  | case2 done current l rest hblank ih =>
    rw [front_cons_of_isBlank hblank,
      headed_cons_of_heading?_eq_none (Line.heading?_of_isBlank hblank), ih]
  | case3 done current l rest _ text htext ih =>
    rw [front_cons_of_heading? htext, headed_cons_of_heading? htext, ih]
    show _ = readBehind serves (close done ⟨current.heading, current.steps ++ []⟩) _
    rw [List.append_nil, readBehind_cons]
    rfl
  | case4 done current l rest hblank hl place e he =>
    have hstep : l.inStep := Line.inStep_iff.2 ⟨by simpa using hblank, hl⟩
    rw [(cut_run hstep rest).1, readRuns_cons, he]
    rfl
  | case5 done current l rest hblank hl place step hrun ih =>
    have hstep : l.inStep := Line.inStep_iff.2 ⟨by simpa using hblank, hl⟩
    rw [(cut_run hstep rest).1, (cut_run hstep rest).2, readRuns_cons, hrun, ih, List.length_append,
      List.length_singleton]
    show _ = (readRuns serves ⟨current.steps.length + 1, done.length⟩ _ >>= _) >>= _
    cases readRuns serves ⟨current.steps.length + 1, done.length⟩
        (front (rest.dropWhile Line.inStep)) with
    | error e => rfl
    | ok steps =>
      show readBehind serves (close done ⟨_, current.steps ++ [step] ++ steps⟩) _ =
        readBehind serves (close done ⟨_, current.steps ++ step :: steps⟩) _
      rw [List.append_assoc, List.singleton_append]

theorem readBody_eq_readBlocks (serves : Nat) (ls : List Line) :
    readBody serves ls = readBlocks serves 0 (outline ls) := by
  have hbehind : readBehind serves [] (outline ls) = readBlocks serves 0 (outline ls) := by
    rw [readBehind]
    cases readBlocks serves 0 (outline ls) <;> rfl
  rw [readBody, readBodyFrom_eq, ← hbehind, outline]
  by_cases h : front ls = []
  · rw [if_pos h, h]
    rfl
  · rw [if_neg h, List.singleton_append, readBehind_cons]
    show (readRuns serves ⟨0, 0⟩ (front ls) >>= _) = readRuns serves ⟨0, 0⟩ (front ls) >>= _
    cases hsteps : readRuns serves ⟨0, 0⟩ (front ls) with
    | error e => rfl
    | ok steps =>
      have hne : steps ≠ [] := by
        rintro rfl
        exact h (List.forall₂_nil_right_iff.1 (readRuns_eq_ok_iff.1 hsteps))
      show readBehind serves (close [] ⟨none, steps⟩) _ = readBehind serves ([] ++ [_]) _
      rw [close_of_ne_nil [] none hne]

/-- A body is accepted exactly if its outline describes sections, and then as these. -/
theorem readBody_eq_ok_iff : readBody serves ls = .ok drafts ↔
    List.Forall₂ (Block.Describes serves) (outline ls) drafts := by
  rw [readBody_eq_readBlocks, readBlocks_eq_ok_iff]

/-! ### Errors -/

theorem exists_of_readRuns_eq_error (h : readRuns serves place rs = .error e) :
    ∃ k run e', rs[k]? = some run ∧ addStepLines (.empty serves) run = .error e' ∧
      e = e'.withNote (.step ⟨place.ordinal + k, place.sectionIndex⟩) := by
  induction rs generalizing place with
  | nil => cases h
  | cons run rs ih =>
    rw [readRuns_cons] at h
    rcases bind_eq_error.1 h with h | ⟨step, -, h⟩
    · obtain ⟨e', hrun, rfl⟩ := noted_eq_error.1 h
      exact ⟨0, run, e', rfl, hrun, rfl⟩
    rcases bind_eq_error.1 h with h | ⟨steps, -, h⟩
    · obtain ⟨k, run', e', hk, hrun', rfl⟩ := ih h
      refine ⟨k + 1, run', e', hk, hrun', ?_⟩
      rw [Nat.add_assoc, Nat.add_comm 1 k]
    · cases h

theorem exists_of_readBlocks_eq_error (h : readBlocks serves index blocks = .error e) :
    ∃ k m run e', runAt? blocks ⟨k, m⟩ = some run ∧ addStepLines (.empty serves) run = .error e' ∧
      e = e'.withNote (.step ⟨k, index + m⟩) := by
  induction blocks generalizing index with
  | nil => cases h
  | cons block blocks ih =>
    rw [readBlocks_cons] at h
    rcases bind_eq_error.1 h with h | ⟨steps, -, h⟩
    · obtain ⟨k, run, e', hk, hrun, rfl⟩ := exists_of_readRuns_eq_error h
      exact ⟨k, 0, run, e', hk, hrun, by rw [Nat.zero_add, Nat.add_zero]⟩
    rcases bind_eq_error.1 h with h | ⟨drafts, -, h⟩
    · obtain ⟨k, m, run, e', hk, hrun, rfl⟩ := ih h
      refine ⟨k, m + 1, run, e', hk, hrun, ?_⟩
      rw [Nat.add_assoc, Nat.add_comm 1 m]
    · cases h

/-- The error of a body notes a line that is not valid, and the place of its run in the outline. -/
theorem exists_of_readBody_eq_error (h : readBody serves ls = .error e) :
    ∃ place run, runAt? (outline ls) place = some run ∧
      ∃ l ∈ run, ¬ l.IsValid serves ∧ e.notes = [.line l.index, .step place] := by
  rw [readBody_eq_readBlocks] at h
  obtain ⟨k, m, run, e', hrun, he', rfl⟩ := exists_of_readBlocks_eq_error h
  obtain ⟨us, l, ws, s, rfl, hus, hl⟩ := exists_of_addStepLines_eq_error he'
  have hvalid := not_isValid_of_error hl
  rw [serves_of_addStepLines hus] at hvalid
  refine ⟨⟨k, m⟩, _, hrun, l, by simp, hvalid, ?_⟩
  rw [LoadError.withNote, (bare_addStepLine _ _).notes_of_noted hl, Nat.zero_add]
  rfl

/-- The line that is noted is in the run at the place that is noted. -/
theorem exists_run_of_notes {n : Nat} (h : readBody serves ls = .error e)
    (hnotes : e.notes = [.line n, .step place]) :
    ∃ run, runAt? (outline ls) place = some run ∧ ∃ l ∈ run, l.index = n := by
  obtain ⟨place', run, hrun, l, hl, -, hnotes'⟩ := exists_of_readBody_eq_error h
  have hsame := hnotes'.symm.trans hnotes
  simp only [List.cons.injEq, Note.line.injEq, Note.step.injEq, and_true] at hsame
  obtain ⟨hindex, rfl⟩ := hsame
  exact ⟨run, hrun, l, hl, hindex⟩

theorem runAt?_map (f : Line → Line) (blocks : List Block) (place : Place) :
    runAt? (blocks.map (Block.map f)) place = (runAt? blocks place).map (List.map f) := by
  rw [runAt?, runAt?, List.getElem?_map]
  cases blocks[place.sectionIndex]? with
  | none => rfl
  | some block => exact List.getElem?_map

/-- Another step line in the place of one is in the run at the same place. -/
theorem exists_run_of_replace {l' : Line} {xs zs run : List Line} (hl : l.inStep) (hl' : l'.inStep)
    (hne : ∀ x ∈ xs ++ zs, x.index ≠ l.index) (hrun : runAt? (outline (xs ++ l :: zs)) place = some run)
    (hmem : ∃ x ∈ run, x.index = l.index) :
    ∃ run', runAt? (outline (xs ++ l' :: zs)) place = some run' ∧ l' ∈ run' := by
  let f (x : Line) : Line := if x.index = l.index then l' else x
  have hfl : ∀ x, x.index = l.index → f x = l' := fun x hx => if_pos hx
  have hf : ∀ x ∈ xs ++ zs, f x = x := fun x hx => if_neg (hne x hx)
  have hxs : ∀ x ∈ xs, f x = x := fun x hx => hf x (List.mem_append_left _ hx)
  have hzs : ∀ x ∈ zs, f x = x := fun x hx => hf x (List.mem_append_right _ hx)
  have hmap : (xs ++ l :: zs).map f = xs ++ l' :: zs := by
    rw [List.map_append, List.map_cons, hfl l rfl, List.map_congr_left hxs, List.map_id',
      List.map_congr_left hzs, List.map_id']
  have halike : ∀ x ∈ xs ++ l :: zs, x.Alike (f x) := by
    intro x hx
    rcases List.mem_append.1 hx with hx | hx
    · rw [hxs x hx]
      exact ⟨rfl, rfl⟩
    rcases List.mem_cons.1 hx with rfl | hx
    · rw [hfl x rfl]
      exact .of_inStep hl hl'
    · rw [hzs x hx]
      exact ⟨rfl, rfl⟩
  obtain ⟨x, hx, hindex⟩ := hmem
  refine ⟨run.map f, ?_, List.mem_map.2 ⟨x, hx, hfl x hindex⟩⟩
  rw [← hmap, outline_map halike, runAt?_map, hrun, Option.map_some]

end RecipeBook.Document
