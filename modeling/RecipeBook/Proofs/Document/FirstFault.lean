import RecipeBook.Proofs.Document.Structure
import RecipeBook.Proofs.Recipe.Places

/-!
# The first line that is wrong

An error that notes a line is about the first line that is wrong: the lines before it can be read,
and the error stays the same whatever comes behind it.
-/

namespace RecipeBook.Document

variable {serves : Nat} {done drafts : List SectionDraft} {current : SectionDraft} {l : Line}
  {ls run rest xs ys : List Line} {e : LoadError}

/-! ### Bodies -/

theorem readBodyFrom_append (serves : Nat) (done : List SectionDraft) (current : SectionDraft)
    (hne : run ≠ []) (hrun : ∀ l ∈ run, l.inStep) (hrest : ∀ l ∈ rest.head?, l.inStep = false) :
    readBodyFrom serves done current (run ++ rest) =
      (noted (.step ⟨current.steps.length, done.length⟩) (addStepLines (.empty serves) run) >>=
        fun step => readBodyFrom serves done { current with steps := current.steps ++ [step] } rest) := by
  obtain ⟨l, run, rfl⟩ := List.exists_cons_of_ne_nil hne
  obtain ⟨htake, hdrop⟩ :=
    takeWhile_eq_of_append (fun x hx => hrun x (List.mem_cons_of_mem l hx)) hrest
  rw [List.cons_append, readBodyFrom_of_inStep (hrun l List.mem_cons_self), htake, hdrop]

/-- A run that is no step fails at one of its lines, whatever is behind that line. -/
theorem exists_of_run_eq_error {place : Place} (hplace : place = ⟨current.steps.length, done.length⟩)
    (hrun : ∀ l ∈ run, l.inStep)
    (h : noted (.step place) (addStepLines (.empty serves) run) = .error e) :
    ∃ us l ws, run = us ++ l :: ws ∧ e.notes = [.line l.index, .step place] ∧
      (∃ drafts, readBodyFrom serves done current us = .ok drafts) ∧
      ∀ zs, readBodyFrom serves done current (us ++ l :: zs) = .error e := by
  obtain ⟨e', he', rfl⟩ := noted_eq_error.1 h
  obtain ⟨us, l, ws, s, rfl, hus, hl⟩ := exists_of_addStepLines_eq_error he'
  have hsteps : ∀ x ∈ us, x.inStep := fun x hx => hrun x (List.mem_append_left _ hx)
  refine ⟨us, l, ws, rfl, ?_, ?_, fun zs => ?_⟩
  · rw [LoadError.withNote, (bare_addStepLine _ _).notes_of_noted hl]
    rfl
  · -- the lines before it are a step of their own
    by_cases hne : us = []
    · exact ⟨close done current, by rw [hne, readBodyFrom]⟩
    · have hend : ∀ x ∈ ([] : List Line).head?, x.inStep = false := by simp
      have hread := readBodyFrom_append serves done current hne hsteps hend
      rw [hus, List.append_nil] at hread
      refine ⟨close done { current with steps := current.steps ++ [s] }, hread.trans ?_⟩
      show readBodyFrom serves done _ [] = _
      rw [readBodyFrom]
  · -- the step that the lines behind it belong to fails in the same way
    have hfails := addStepLines_append_of_error hus hl (zs.takeWhile Line.inStep)
    have hmore : ∀ x ∈ us ++ l :: zs.takeWhile Line.inStep, x.inStep := by
      intro x hx
      rcases List.mem_append.1 hx with hx | hx
      · exact hsteps x hx
      rcases List.mem_cons.1 hx with rfl | hx
      · exact hrun x (by simp)
      · exact List.mem_takeWhile_imp hx
    have hread := readBodyFrom_append serves done current (by simp) hmore
      (head?_dropWhile_eq_false Line.inStep zs)
    rw [hfails, ← hplace, List.append_assoc, List.cons_append,
      List.takeWhile_append_dropWhile] at hread
    exact hread

theorem head?_append_cons (xs : List Line) (l : Line) (ys zs : List Line) :
    (xs ++ l :: ys).head? = (xs ++ l :: zs).head? := by
  cases xs <;> rfl

/-- A body fails at a step line up to which it can be read, whatever is behind that line. -/
theorem exists_of_readBodyFrom_eq_error (h : readBodyFrom serves done current ls = .error e) :
    ∃ xs l ys place, ls = xs ++ l :: ys ∧ l.inStep ∧ e.notes = [.line l.index, .step place] ∧
      (∃ drafts, readBodyFrom serves done current xs = .ok drafts) ∧
      ∀ zs, readBodyFrom serves done current (xs ++ l :: zs) = .error e := by
  have hrun : ∀ (l : Line) (rest : List Line), ¬ l.isBlank → l.heading? = none →
      ∀ x ∈ l :: rest.takeWhile Line.inStep, x.inStep := by
    intro l rest hblank hheading x hx
    rcases List.mem_cons.1 hx with rfl | hx
    · exact Line.inStep_iff.2 ⟨by simpa using hblank, hheading⟩
    · exact List.mem_takeWhile_imp hx
  fun_induction readBodyFrom serves done current ls with
  | case1 => cases h
  | case2 done current l rest hblank ih =>
    obtain ⟨xs, l', ys, place, rfl, hl', hnotes, hxs, hzs⟩ := ih h
    refine ⟨l :: xs, l', ys, place, rfl, hl', hnotes, ?_, fun zs => ?_⟩
    · rwa [readBodyFrom_of_isBlank hblank]
    · rw [List.cons_append, readBodyFrom_of_isBlank hblank, hzs]
  | case3 done current l rest hblank text htext ih =>
    obtain ⟨xs, l', ys, place, rfl, hl', hnotes, hxs, hzs⟩ := ih h
    refine ⟨l :: xs, l', ys, place, rfl, hl', hnotes, ?_, fun zs => ?_⟩
    · rwa [readBodyFrom_of_heading? htext]
    · rw [List.cons_append, readBodyFrom_of_heading? htext, hzs]
  | case4 done current l rest hblank hheading place e' hfails =>
    obtain rfl : e' = e := Except.error.inj h
    have hsteps := hrun l rest hblank hheading
    obtain ⟨us, l', ws, hcut, hnotes, hus, hzs⟩ := exists_of_run_eq_error rfl hsteps hfails
    refine ⟨us, l', ws ++ rest.dropWhile Line.inStep, place, ?_, hsteps l' ?_, hnotes, hus, hzs⟩
    · rw [← List.cons_append, ← List.append_assoc, ← hcut, List.cons_append,
        List.takeWhile_append_dropWhile]
    · rw [hcut]
      simp
  | case5 done current l rest hblank hheading place step hstep ih =>
    have hsteps := hrun l rest hblank hheading
    obtain ⟨xs, l', ys, place', hcut, hl', hnotes, ⟨drafts, hxs⟩, hzs⟩ := ih h
    -- the run of `l` ends where it did, as what is behind it begins as before
    have hhead := head?_dropWhile_eq_false Line.inStep rest
    rw [hcut] at hhead
    have hread : ∀ more, (∀ x ∈ more.head?, x.inStep = false) →
        readBodyFrom serves done current ((l :: rest.takeWhile Line.inStep) ++ more) =
          readBodyFrom serves done { current with steps := current.steps ++ [step] } more := by
      intro more hmore
      rw [readBodyFrom_append serves done current (List.cons_ne_nil _ _) hsteps hmore, hstep]
      rfl
    refine ⟨(l :: rest.takeWhile Line.inStep) ++ xs, l', ys, place', ?_, hl', hnotes,
      ⟨drafts, ?_⟩, fun zs => ?_⟩
    · rw [List.append_assoc, ← hcut, List.cons_append, List.takeWhile_append_dropWhile]
    · rw [hread xs fun x hx => hhead x ?_, hxs]
      cases xs with
      | nil => cases hx
      | cons y xs => exact hx
    · rw [List.append_assoc, hread _ fun x hx => hhead x ?_, hzs]
      rwa [head?_append_cons xs l' ys zs]

/-! ### Documents -/

variable {source : Source} {metadata : Metadata}

theorem readLines_eq_error (hheader : readMetadata source (headerOf ls) = .error e) :
    readLines source ls = .error e := by
  rw [readLines, hheader]
  rfl

theorem readLines_eq_error' (hheader : readMetadata source (headerOf ls) = .ok metadata)
    (hbody : readBody metadata.serves (bodyOf ls) = .error e) : readLines source ls = .error e := by
  rw [readLines, hheader]
  show (readBody metadata.serves (bodyOf ls) >>= _) = _
  rw [hbody]
  rfl

/-- An error that is neither of a header line nor of a body line notes no line. -/
theorem line_not_mem_notes (h : readLines source ls = .error e)
    (hheader : ∀ e', readMetadata source (headerOf ls) = .error e' → e'.notes = [])
    (hbody : ∀ m, readMetadata source (headerOf ls) = .ok m →
      ∃ drafts, readBody m.serves (bodyOf ls) = .ok drafts) (n : Nat) : .line n ∉ e.notes := by
  rcases bind_eq_error.1 h with h | ⟨metadata, hmetadata, h⟩
  · rw [hheader e h]
    exact List.not_mem_nil
  obtain ⟨drafts, hdrafts⟩ := hbody metadata hmetadata
  rcases bind_eq_error.1 h with h | ⟨drafts', -, h⟩
  · rw [hdrafts] at h
    cases h
  · obtain ⟨step, -, hnotes⟩ := StepGraph.exists_notes_of_fault (Recipe.assemble_eq_error_iff.1 h)
    simp [hnotes]

theorem headerOf_append_of_forall (hxs : ∀ l ∈ xs, l.isBlank = false) (ls : List Line) :
    headerOf (xs ++ ls) = xs ++ headerOf ls ∧ bodyOf (xs ++ ls) = bodyOf ls := by
  have hp : ∀ l ∈ xs, (!l.isBlank) = true := fun l hl => by rw [hxs l hl]; rfl
  exact ⟨List.takeWhile_append_of_pos hp, List.dropWhile_append_of_pos hp⟩

theorem continuationsOf_headerOf (command : String) (ls : List Line) :
    continuationsOf command (headerOf ls) = continuationsOf command ls := by
  have hbody : ∀ x ∈ (bodyOf ls).head?, x.isContinuation = false := fun x hx =>
    Line.not_isContinuation_of_isBlank (isBlank_of_head?_bodyOf _ x hx)
  rw [← continuationsOf_append hbody, headerOf_append_bodyOf]

/-- A header that fails at a line does so with whatever behind that line and those that continue it. -/
theorem exists_of_readMetadata_eq_error (h : readMetadata source (headerOf ls) = .error e)
    (hnotes : e.notes ≠ []) : ∃ xs l ys, ls = xs ++ l :: ys ∧ (∀ x ∈ xs ++ [l], x.isBlank = false) ∧
      e.notes = [.line l.index] ∧
      (∀ e', readLines source xs = .error e' → ∀ n, .line n ∉ e'.notes) ∧
      ∀ zs, continuationsOf (commandOf l.text).1 zs = continuationsOf (commandOf l.text).1 ys →
        readLines source (xs ++ l :: zs) = .error e := by
  rcases bind_eq_error.1 h with h | ⟨p, -, h⟩
  · obtain ⟨xs, l, ys, b, hcut, hxs, happly, ⟨b', hb'⟩, hzs⟩ := exists_of_readHeader_eq_error h
    have hls : ls = xs ++ l :: (ys ++ bodyOf ls) := by
      rw [← List.cons_append, ← List.append_assoc, ← hcut, headerOf_append_bodyOf]
    refine ⟨xs, l, ys ++ bodyOf ls, hls, hxs, notes_of_applyLine happly, fun e' he' n => ?_,
      fun zs hcontinued => ?_⟩
    · obtain ⟨hheader, hbody⟩ := headerOf_append_of_forall
        (fun x hx => hxs x (List.mem_append_left _ hx)) []
      rw [List.append_nil] at hheader hbody
      refine line_not_mem_notes he' (fun e'' he'' => ?_) (fun m _ => ⟨[], ?_⟩) n
      · rw [hheader, headerOf, List.takeWhile_nil, List.append_nil, readMetadata, hb'] at he''
        exact bare_build b' e'' he''
      · rw [hbody, bodyOf, List.dropWhile_nil, readBody, readBodyFrom]
        rfl
    · have hl : l.isBlank = false := hxs l (by simp)
      have hheader := (headerOf_append_of_forall hxs zs).1
      rw [List.append_assoc, List.singleton_append, List.append_assoc, List.singleton_append] at hheader
      have hsame : continuationsOf (commandOf l.text).1 (headerOf zs) =
          continuationsOf (commandOf l.text).1 ys := by
        rw [continuationsOf_headerOf, hcontinued, continuationsOf_append]
        exact fun x hx => Line.not_isContinuation_of_isBlank (isBlank_of_head?_bodyOf _ x hx)
      refine readLines_eq_error ?_
      rw [hheader, readMetadata, hzs, readHeader_cons hl, hsame, happly]
      rfl
  · exact absurd (bare_build _ _ h) hnotes

/-- A body that fails does so at a step line, with whatever behind that line. The lines of the body
before it are enough to say where the body begins. -/
theorem exists_of_body_eq_error (hm : readMetadata source (headerOf ls) = .ok metadata)
    (h : readBody metadata.serves (bodyOf ls) = .error e) : ∃ xs l ys place,
      bodyOf ls = xs ++ l :: ys ∧ l.inStep ∧ e.notes = [.line l.index, .step place] ∧
      (∀ more, headerOf (headerOf ls ++ (xs ++ more)) = headerOf ls ∧
        bodyOf (headerOf ls ++ (xs ++ more)) = xs ++ more) ∧
      (∀ e', readLines source (headerOf ls ++ xs) = .error e' → ∀ n, .line n ∉ e'.notes) ∧
      ∀ zs, readBody metadata.serves (xs ++ l :: zs) = .error e := by
  obtain ⟨xs, l, ys, place, hbody, hl, hnotes, hxs, hzs⟩ := exists_of_readBodyFrom_eq_error h
  have hhead := isBlank_of_head?_bodyOf ls
  rw [hbody] at hhead
  have hcut : ∀ more, headerOf (headerOf ls ++ (xs ++ more)) = headerOf ls ∧
      bodyOf (headerOf ls ++ (xs ++ more)) = xs ++ more := by
    intro more
    refine cut_append (fun x hx => isBlank_of_mem_headerOf hx) ?_
    cases xs with
    | nil =>
      -- the body begins with a blank line, which is in no step
      rw [Line.not_inStep_of_isBlank (hhead l rfl)] at hl
      cases hl
    | cons x xs => exact hhead
  refine ⟨xs, l, ys, place, hbody, hl, hnotes, hcut, fun e' he' n => ?_, hzs⟩
  obtain ⟨hheader', hbody'⟩ := hcut []
  rw [List.append_nil] at hheader' hbody'
  refine line_not_mem_notes he' (fun e'' he'' => ?_) (fun m hm' => ?_) n
  · rw [hheader', hm] at he''
    cases he''
  · rw [hheader', hm] at hm'
    obtain rfl := Except.ok.inj hm'
    rw [hbody']
    exact hxs

/-! ### Texts -/

/-- The lines that continue line `n`, if it has a command that can be continued. -/
def continuationsAt (text : String) (n : Nat) : List Line :=
  match (numbered text.toList).drop n with
  | l :: rest => continuationsOf (commandOf l.text).1 rest
  | [] => []

variable {text text' : String} {n : Nat}

theorem exists_eq_append_of_take (htake : ls.take xs.length = xs) (h : ls[xs.length]? = some l) :
    ∃ zs, ls = xs ++ l :: zs := by
  obtain ⟨hlt, hget⟩ := List.getElem?_eq_some_iff.1 h
  refine ⟨ls.drop (xs.length + 1), ?_⟩
  have hdrop : ls.drop xs.length = l :: ls.drop (xs.length + 1) := by
    rw [List.drop_eq_getElem_cons hlt, hget]
  rw [← hdrop, ← List.take_append_drop xs.length ls, htake, List.drop_left]

theorem continuationsAt_eq (h : numbered text.toList = xs ++ l :: ys) :
    continuationsAt text xs.length = continuationsOf (commandOf l.text).1 ys := by
  rw [continuationsAt, h, List.drop_left]

theorem index_eq (h : numbered text.toList = xs ++ l :: ys) : l.index = xs.length := by
  rw [index_eq_of_numberedFrom 0 h, Nat.zero_add]

theorem take_numbered
    (h : (Text.lines text'.toList).take n = (Text.lines text.toList).take n) :
    (numbered text'.toList).take n = (numbered text.toList).take n := by
  rw [numbered_eq, numbered_eq, take_numberedFrom, take_numberedFrom, h]

theorem numbered_of_take {n : Nat}
    (h : Text.lines text'.toList = (Text.lines text.toList).take n) :
    numbered text'.toList = (numbered text.toList).take n := by
  rw [numbered_eq, numbered_eq, take_numberedFrom, h]

/-- Texts that begin with the same lines, the last of which is `l`. -/
theorem exists_numbered_of_take (hl : numbered text.toList = xs ++ l :: ys)
    (h : (Text.lines text'.toList).take (xs.length + 1) =
      (Text.lines text.toList).take (xs.length + 1)) :
    ∃ zs, numbered text'.toList = xs ++ l :: zs := by
  have hcut : xs ++ l :: ys = (xs ++ [l]) ++ ys := by rw [List.append_assoc, List.singleton_append]
  have htake := take_numbered h
  rw [hl, hcut, List.take_left' (by simp)] at htake
  refine ⟨(numbered text'.toList).drop (xs.length + 1), ?_⟩
  rw [← List.singleton_append, ← List.append_assoc, ← htake, List.take_append_drop]

/-- In a document that begins with the same `n` lines and has sections, the step of line `n` is at
the place. -/
def IsPlaceOfLine (source : Source) (text : String) (n : Nat) (place : Place) : Prop :=
  ∀ text' metadata drafts l, (Text.lines text'.toList).take n = (Text.lines text.toList).take n →
    (numbered text'.toList)[n]? = some l → l.inStep →
    parts source text' = .ok (metadata, drafts) →
    ∃ run, runAt? (outline (bodyLines text')) place = some run ∧ l ∈ run ∧
      ∃ step ∈ Recipe.stepsFrom 0 drafts, step.place = place ∧
        Describes metadata.serves run step.toStep

/-- The error that reading the text ends with is about line `n`, the first that is wrong. -/
structure ReportsFirst (source : Source) (text : String) (e : LoadError) (n : Nat) : Prop where
  /-- Nothing behind the line changes the error, lines that continue it apart. -/
  stable : ∀ text',
    (Text.lines text'.toList).take (n + 1) = (Text.lines text.toList).take (n + 1) →
    (n < (headerLines text).length → continuationsAt text' n = continuationsAt text n) →
    read source text' = .error e
  /-- No line before it is wrong. -/
  before : ∀ text', Text.lines text'.toList = (Text.lines text.toList).take n →
    ∀ e', read source text' = .error e' → ∀ m, .line m ∉ e'.notes
  header : n < (headerLines text).length → e.notes = [.line n]
  /-- A line of the body is in the step at the place that is noted, which words count from one. -/
  body : (headerLines text).length ≤ n → ∃ place, e.notes = [.line n, .step place] ∧
    e.diagnosis.notes = ["in line " ++ toString (n + 1),
      "in step #" ++ toString (place.ordinal + 1) ++
        " of section #" ++ toString (place.sectionIndex + 1)] ∧
    (∃ run, runAt? (outline (bodyLines text)) place = some run ∧ ∃ l ∈ run, l.index = n) ∧
    IsPlaceOfLine source text n place

/-- Steps that the outline describes are at the places of their runs. -/
theorem exists_step_of_runAt? {place : Place}
    (h : List.Forall₂ (Block.Describes serves) (outline ls) drafts)
    (hrun : runAt? (outline ls) place = some run) :
    ∃ step ∈ Recipe.stepsFrom 0 drafts, step.place = place ∧ Describes serves run step.toStep := by
  obtain ⟨block, hblock, hrun⟩ := Option.bind_eq_some_iff.1 hrun
  obtain ⟨draft, hdraft, hdescribes⟩ := exists_getElem?_of_forall₂ h.flip hblock
  obtain ⟨step, hstep, hs⟩ := exists_getElem?_of_forall₂ hdescribes.2.flip hrun
  refine ⟨{ step with place }, ?_, rfl, hs⟩
  exact Recipe.mem_stepsFrom.2 ⟨place.sectionIndex, draft, hdraft, hstep, (Nat.zero_add _).symm⟩

theorem isPlaceOfLine {place : Place} (hm : readMetadata source (headerLines text) = .ok metadata)
    (hlines : numbered text.toList = headerLines text ++ (xs ++ l :: ys)) (hl : l.inStep)
    (hnotes : e.notes = [.line l.index, .step place])
    (hcut : ∀ more, headerOf (headerLines text ++ (xs ++ more)) = headerLines text ∧
      bodyOf (headerLines text ++ (xs ++ more)) = xs ++ more)
    (hzs : ∀ zs, readBody metadata.serves (xs ++ l :: zs) = .error e) :
    IsPlaceOfLine source text l.index place := by
  intro text' metadata' drafts l' hsame hline hl' hparts
  rw [← List.append_assoc] at hlines
  have hindex := index_eq hlines
  rw [hindex] at hsame hline
  have htake := take_numbered hsame
  rw [hlines, List.take_left] at htake
  obtain ⟨zs, hlines'⟩ := exists_eq_append_of_take htake hline
  have hindex' := (index_eq hlines').trans hindex.symm
  have hne := index_ne_of_numberedFrom 0 hlines'
  rw [List.append_assoc] at hlines'
  obtain ⟨hheader, hbody⟩ := hcut (l' :: zs)
  rw [← hlines'] at hheader hbody
  have hm' : readMetadata source (headerLines text') = .ok metadata := by rw [headerLines, hheader, hm]
  obtain ⟨rfl, hdrafts⟩ := (parts_eq_ok_iff hm').1 hparts
  rw [bodyLines, hbody] at hdrafts ⊢
  -- the error is the same in a document that differs from this one in the line only
  obtain ⟨run, hrun, hmem⟩ := exists_run_of_notes (hzs zs) hnotes
  have hothers : ∀ x ∈ xs ++ zs, x.index ≠ l.index := by
    intro x hx
    rw [← hindex']
    exact hne x (by simpa using List.mem_append_right _ hx)
  obtain ⟨run', hrun', hl'run⟩ := exists_run_of_replace hl hl' hothers hrun hmem
  obtain ⟨step, hstep, hplace, hdescribes⟩ :=
    exists_step_of_runAt? (readBody_eq_ok_iff.1 hdrafts) hrun'
  exact ⟨run', hrun', hl'run, step, hstep, hplace, hdescribes⟩

theorem reportsFirst_of_header (hheader : readMetadata source (headerLines text) = .error e)
    (hn : .line n ∈ e.notes) : ReportsFirst source text e n := by
  obtain ⟨xs, l, ys, hlines, hxs, hnotes, hbefore, hzs⟩ :=
    exists_of_readMetadata_eq_error hheader (List.ne_nil_of_mem hn)
  obtain rfl : n = xs.length := by
    rw [hnotes, List.mem_singleton, Note.line.injEq] at hn
    exact hn.trans (index_eq hlines)
  have hlt : xs.length < (headerLines text).length := by
    have hheader := (headerOf_append_of_forall hxs ys).1
    rw [List.append_assoc, List.singleton_append, ← hlines] at hheader
    rw [headerLines, hheader]
    simp
  refine ⟨fun text' htake hcontinued => ?_, fun text' htake e' he' => ?_, fun _ => ?_,
    fun hle => absurd hlt (Nat.not_lt.2 hle)⟩
  · obtain ⟨zs, hlines'⟩ := exists_numbered_of_take hlines htake
    have hsame := hcontinued hlt
    rw [continuationsAt_eq hlines, continuationsAt_eq hlines'] at hsame
    rw [read_eq_readLines, hlines']
    exact hzs zs hsame
  · rw [read_eq_readLines, numbered_of_take htake, hlines, List.take_left] at he'
    exact hbefore e' he'
  · rw [hnotes, index_eq hlines]

theorem reportsFirst_of_body (hm : readMetadata source (headerLines text) = .ok metadata)
    (hbody : readBody metadata.serves (bodyLines text) = .error e) (hn : .line n ∈ e.notes) :
    ReportsFirst source text e n := by
  obtain ⟨xs, l, ys, place, hcut, hl, hnotes, hsplit, hbefore, hzs⟩ :=
    exists_of_body_eq_error hm hbody
  have hlines : numbered text.toList = headerLines text ++ (xs ++ l :: ys) := by
    rw [← hcut, headerLines, headerOf_append_bodyOf]
  have hlines' : numbered text.toList = (headerLines text ++ xs) ++ l :: ys := by
    rw [hlines, List.append_assoc]
  obtain rfl : n = l.index := by simpa [hnotes] using hn
  have hindex := index_eq hlines'
  have hle : (headerLines text).length ≤ l.index := by
    rw [hindex, List.length_append]
    omega
  refine ⟨fun text' htake _ => ?_, fun text' htake e' he' => ?_,
    fun hlt => absurd hlt (Nat.not_lt.2 hle), fun _ => ⟨place, hnotes, ?_, ?_, ?_⟩⟩
  · rw [hindex] at htake
    obtain ⟨zs, hlines''⟩ := exists_numbered_of_take hlines' htake
    rw [List.append_assoc] at hlines''
    obtain ⟨hheader', hbody'⟩ := hsplit (l :: zs)
    rw [read_eq_readLines, hlines'']
    exact readLines_eq_error' (hheader'.symm ▸ hm) (hbody'.symm ▸ hzs zs)
  · rw [read_eq_readLines, numbered_of_take htake, hlines', hindex, List.take_left] at he'
    exact hbefore e' he'
  · rw [LoadError.diagnosis, hnotes]
    rfl
  · exact exists_run_of_notes hbody hnotes
  · exact isPlaceOfLine hm hlines hl hnotes hsplit hzs

/-- An error about a line is about the first that is wrong, and one about the steps that have been
read is at the place of one of them. -/
theorem read_reports_first (source : Source) :
    (∀ text e n, read source text = .error e → .line n ∈ e.notes → ReportsFirst source text e n) ∧
      ∀ text metadata drafts e, parts source text = .ok (metadata, drafts) →
        read source text = .error e →
        ∃ step ∈ Recipe.stepsFrom 0 drafts, e.notes = [.step step.place] := by
  have hassemble : ∀ metadata drafts e, Recipe.assemble metadata drafts = .error e →
      ∃ step ∈ Recipe.stepsFrom 0 drafts, e.notes = [.step step.place] := fun _ _ _ h =>
    StepGraph.exists_notes_of_fault (Recipe.assemble_eq_error_iff.1 h)
  refine ⟨fun text e n h hn => ?_, fun text metadata drafts e hparts h => ?_⟩
  · rw [read_eq_readLines] at h
    rcases bind_eq_error.1 h with hheader | ⟨metadata, hm, h⟩
    · exact reportsFirst_of_header hheader hn
    rcases bind_eq_error.1 h with hbody | ⟨drafts, -, h⟩
    · exact reportsFirst_of_body hm hbody hn
    · obtain ⟨step, -, hnotes⟩ := hassemble _ _ _ h
      simp [hnotes] at hn
  · rw [read, hparts] at h
    exact hassemble _ _ _ h

/-- The stock is not used. -/
def stockText : String := "name Stock\nserves 2\n\n- bones\n\nBoil them.\n-> stock\n"

/-- The amount in the first step of the second section is not a number, and the second step of the
only section yields what is not used. -/
theorem read_reports_soup_and_stock :
    (∃ e, read soupSource soupText = .error e ∧ e.notes = [.line 6, .step ⟨0, 1⟩] ∧
      ReportsFirst soupSource soupText e 6) ∧
    ∃ metadata drafts e, parts soupSource stockText = .ok (metadata, drafts) ∧
      read soupSource stockText = .error e ∧ e.notes = [.step ⟨1, 0⟩] ∧
      ∃ step ∈ Recipe.stepsFrom 0 drafts, e.notes = [.step step.place] := by
  obtain ⟨hlines, hsteps⟩ := read_reports_first soupSource
  constructor
  · have hnotes : (match read soupSource soupText with | .ok _ => none | .error e => some e.notes) =
        some [.line 6, .step ⟨0, 1⟩] := by decide +kernel
    cases h : read soupSource soupText with
    | ok r => simp [h] at hnotes
    | error e =>
      rw [h] at hnotes
      have hnotes := Option.some.inj hnotes
      exact ⟨e, rfl, hnotes, hlines _ e 6 h (by simp [hnotes])⟩
  · have hparts : (parts soupSource stockText).toOption.isSome := by decide +kernel
    have hnotes : (match read soupSource stockText with | .ok _ => none | .error e => some e.notes) =
        some [.step ⟨1, 0⟩] := by decide +kernel
    obtain ⟨⟨metadata, drafts⟩, hparts⟩ := Option.isSome_iff_exists.1 hparts
    have hparts := toOption_eq_some.1 hparts
    cases h : read soupSource stockText with
    | ok r => simp [h] at hnotes
    | error e =>
      rw [h] at hnotes
      exact ⟨metadata, drafts, e, hparts, rfl, Option.some.inj hnotes, hsteps _ _ _ e hparts h⟩

end RecipeBook.Document
