import Mathlib.Data.List.Basic
import RecipeBook.Document

/-!
# The outline of a body

`outline` says what the lines of a body belong to, without reading them one by one: the lines are cut
at the headings, and what is between two headings is cut again at every line that is in no step. What
is left are the longest runs of step lines, each of which is a step. `front` are the runs before the
first heading, and `headed` the blocks of the headings. Every step line is in one run
(`flatten_outline`), and a blank line more where no run goes on makes no difference
(`outline_insert`).
-/

namespace RecipeBook.Document

/-- A line that begins a section. -/
def Line.isHeading (l : Line) : Bool := l.heading?.isSome

/-- The longest runs of lines that belong to a step. -/
def runs (ls : List Line) : List (List Line) := (ls.splitOnP fun l => !l.inStep).filter (· ≠ [])

/-- The runs of lines below a heading, or those that have none above them. -/
structure Block where
  heading : Option String
  runs : List (List Line)

/-- The trimmed texts of the headings. -/
def titles (ls : List Line) : List String :=
  ls.filterMap fun l => l.heading?.map fun text => .ofList (Text.trim text)

/-- The runs before the first heading. -/
def front (ls : List Line) : List (List Line) := runs ((ls.splitOnP Line.isHeading).headD [])

/-- Every heading with the runs between it and the next one. -/
def headed (ls : List Line) : List Block :=
  List.zipWith (fun title ls => ⟨some title, runs ls⟩) (titles ls) (ls.splitOnP Line.isHeading).tail

/-- What is before the first heading counts only if there is a run. -/
def outline (ls : List Line) : List Block :=
  (if front ls = [] then [] else [⟨none, front ls⟩]) ++ headed ls

variable {l : Line} {ls run rest a b blanks : List Line} {text : List Char}

/-! ### Kinds of lines -/

theorem Line.isHeading_of_heading? (h : l.heading? = some text) : l.isHeading := by
  rw [isHeading, h, Option.isSome_some]

theorem Line.inStep_iff : l.inStep ↔ l.isBlank = false ∧ l.heading? = none := by
  simp [inStep]

/-- A heading has a character that is not blank. -/
theorem Line.isBlank_of_heading? (h : l.heading? = some text) : l.isBlank = false := by
  have hhash : Text.isBlank '#' = false := by decide
  rw [Line.heading?] at h
  rw [Line.isBlank, Text.isBlankText]
  cases hl : l.text with
  | nil => rw [hl] at h; cases h
  | cons c cs =>
    rw [hl, Text.dropStart?] at h
    split at h
    · next hc => rw [← hc, List.all_cons, hhash, Bool.false_and]
    · cases h

theorem Line.heading?_of_isBlank (h : l.isBlank) : l.heading? = none := by
  cases hl : l.heading? with
  | none => rfl
  | some text => rw [isBlank_of_heading? hl] at h; cases h

theorem Line.not_inStep_of_isBlank (h : l.isBlank) : l.inStep = false := by
  rw [inStep, h, Bool.not_true, Bool.false_and]

theorem Line.not_inStep_of_heading? (h : l.heading? = some text) : l.inStep = false := by
  rw [inStep, h, Option.isNone_some, Bool.and_false]

/-- A line is blank, a heading or a step line. -/
theorem Line.kinds (l : Line) : l.isBlank ∨ (∃ text, l.heading? = some text) ∨ l.inStep := by
  by_cases hblank : l.isBlank
  · exact .inl hblank
  · cases hl : l.heading? with
    | some text => exact .inr (.inl ⟨text, rfl⟩)
    | none => exact .inr (.inr (inStep_iff.2 ⟨by simpa using hblank, hl⟩))

/-! ### Runs -/

@[simp] theorem runs_nil : runs [] = [] := by simp [runs]

theorem runs_cons_of_not_inStep (h : l.inStep = false) (ls : List Line) :
    runs (l :: ls) = runs ls := by
  rw [runs, List.splitOnP_cons_eq_if_modifyHead, if_pos (by rw [h, Bool.not_false]),
    List.filter_cons_of_neg (by simp), runs]

/-- A step line makes the run that begins behind it longer, or is a run of its own. -/
theorem runs_cons_of_inStep (h : l.inStep) (ls : List Line) :
    runs (l :: ls) =
      if ls.head?.any Line.inStep then (runs ls).modifyHead (l :: ·) else [l] :: runs ls := by
  have hcut : ∀ {x : Line}, x.inStep → ∀ xs, (x :: xs).splitOnP (fun l => !l.inStep) =
      (xs.splitOnP fun l => !l.inStep).modifyHead (x :: ·) := fun hx xs => by
    rw [List.splitOnP_cons_eq_if_modifyHead, if_neg (by simp [hx])]
  cases ls with
  | nil => simp [runs, hcut h]
  | cons x xs =>
    by_cases hx : x.inStep
    · obtain ⟨piece, pieces, hpieces⟩ :=
        List.exists_cons_of_ne_nil (List.splitOnP_ne_nil (fun l : Line => !l.inStep) xs)
      rw [runs, runs, hcut h, hcut hx, hpieces]
      simp [hx]
    · have hx : x.inStep = false := by simpa using hx
      rw [runs_cons_of_not_inStep hx, runs, hcut h, List.splitOnP_cons_eq_if_modifyHead,
        if_pos (by rw [hx, Bool.not_false]), runs]
      simp [hx]

/-! ### Blocks -/

theorem exists_stretch (ls : List Line) : ∃ stretch more, ls.splitOnP Line.isHeading = stretch :: more :=
  List.exists_cons_of_ne_nil (List.splitOnP_ne_nil _ ls)

theorem splitOnP_heading_cons (h : l.heading? = some text) (ls : List Line) :
    (l :: ls).splitOnP Line.isHeading = [] :: ls.splitOnP Line.isHeading := by
  rw [List.splitOnP_cons_eq_if_modifyHead, if_pos (Line.isHeading_of_heading? h)]

theorem splitOnP_plain_cons (h : l.heading? = none) (ls : List Line) :
    (l :: ls).splitOnP Line.isHeading = (ls.splitOnP Line.isHeading).modifyHead (l :: ·) := by
  rw [List.splitOnP_cons_eq_if_modifyHead, if_neg (by simp [Line.isHeading, h])]

@[simp] theorem front_nil : front [] = [] := by simp [front]

@[simp] theorem headed_nil : headed [] = [] := by simp [headed, titles]

theorem front_cons_of_heading? (h : l.heading? = some text) (ls : List Line) :
    front (l :: ls) = [] := by
  rw [front, splitOnP_heading_cons h, List.headD_cons, runs_nil]

theorem headed_cons_of_heading? (h : l.heading? = some text) (ls : List Line) :
    headed (l :: ls) = ⟨some (.ofList (Text.trim text)), front ls⟩ :: headed ls := by
  obtain ⟨stretch, more, hstretch⟩ := exists_stretch ls
  have htitles : titles (l :: ls) = .ofList (Text.trim text) :: titles ls :=
    List.filterMap_cons_some (by rw [h, Option.map_some])
  rw [headed, htitles, splitOnP_heading_cons h, front, headed, hstretch]
  rfl

theorem headed_cons_of_heading?_eq_none (h : l.heading? = none) (ls : List Line) :
    headed (l :: ls) = headed ls := by
  obtain ⟨stretch, more, hstretch⟩ := exists_stretch ls
  have htitles : titles (l :: ls) = titles ls :=
    List.filterMap_cons_none (by rw [h, Option.map_none])
  rw [headed, htitles, splitOnP_plain_cons h, headed, hstretch]
  rfl

theorem front_cons_of_isBlank (h : l.isBlank) (ls : List Line) : front (l :: ls) = front ls := by
  obtain ⟨stretch, more, hstretch⟩ := exists_stretch ls
  rw [front, splitOnP_plain_cons (Line.heading?_of_isBlank h), front, hstretch]
  exact runs_cons_of_not_inStep (Line.not_inStep_of_isBlank h) stretch

theorem front_cons_of_inStep (h : l.inStep) (ls : List Line) :
    front (l :: ls) =
      if ls.head?.any Line.inStep then (front ls).modifyHead (l :: ·) else [l] :: front ls := by
  obtain ⟨stretch, more, hstretch⟩ := exists_stretch ls
  -- the lines up to the first heading begin with a step line exactly if all lines do
  have hhead : stretch.head?.any Line.inStep = ls.head?.any Line.inStep := by
    cases ls with
    | nil =>
      obtain rfl : [] = stretch := (List.cons.inj hstretch).1
      rfl
    | cons x xs =>
      cases hx : x.heading? with
      | some text =>
        rw [splitOnP_heading_cons hx] at hstretch
        obtain rfl := (List.cons.inj hstretch).1
        exact (Line.not_inStep_of_heading? hx).symm
      | none =>
        obtain ⟨stretch', more', hstretch'⟩ := exists_stretch xs
        rw [splitOnP_plain_cons hx, hstretch', List.modifyHead_cons] at hstretch
        obtain rfl := (List.cons.inj hstretch).1
        rfl
  rw [front, splitOnP_plain_cons (Line.inStep_iff.1 h).2, front, hstretch, ← hhead]
  exact runs_cons_of_inStep h stretch

/-- A whole run at the beginning, which does not go on behind it. -/
theorem front_append (hne : run ≠ []) (hrun : ∀ l ∈ run, l.inStep)
    (hrest : rest.head?.any Line.inStep = false) : front (run ++ rest) = run :: front rest := by
  induction run with
  | nil => exact absurd rfl hne
  | cons l run ih =>
    rw [List.cons_append, front_cons_of_inStep (hrun l List.mem_cons_self)]
    cases run with
    | nil => rw [List.nil_append, if_neg (by simp [hrest])]
    | cons x run =>
      have hx : x.inStep := hrun x (by simp)
      rw [if_pos (by simpa using hx),
        ih (List.cons_ne_nil x run) fun l hl => hrun l (List.mem_cons_of_mem _ hl)]
      rfl

theorem headed_append (hrun : ∀ l ∈ run, l.inStep) (rest : List Line) :
    headed (run ++ rest) = headed rest := by
  induction run with
  | nil => rfl
  | cons l run ih =>
    have hl := Line.inStep_iff.1 (hrun l List.mem_cons_self)
    rw [List.cons_append, headed_cons_of_heading?_eq_none hl.2,
      ih fun l hl => hrun l (List.mem_cons_of_mem _ hl)]

/-! ### What the outline is made of -/

/-- The lines are both blank, or headings with one text, or step lines. -/
def Line.Alike (l l' : Line) : Prop := l'.isBlank = l.isBlank ∧ l'.heading? = l.heading?

theorem Line.Alike.of_inStep {l l' : Line} (h : l.inStep) (h' : l'.inStep) : l.Alike l' := by
  obtain ⟨hblank, hheading⟩ := inStep_iff.1 h
  obtain ⟨hblank', hheading'⟩ := inStep_iff.1 h'
  exact ⟨hblank'.trans hblank.symm, hheading'.trans hheading.symm⟩

theorem Line.Alike.inStep_eq {l l' : Line} (h : l.Alike l') : l'.inStep = l.inStep := by
  rw [inStep, h.1, h.2, inStep]

def Block.map (f : Line → Line) (b : Block) : Block := ⟨b.heading, b.runs.map (List.map f)⟩

variable {f : Line → Line}

theorem any_head?_map (h : ∀ l ∈ ls, l.Alike (f l)) :
    (ls.map f).head?.any Line.inStep = ls.head?.any Line.inStep := by
  cases ls with
  | nil => rfl
  | cons l ls => exact (h l List.mem_cons_self).inStep_eq

theorem front_map (h : ∀ l ∈ ls, l.Alike (f l)) : front (ls.map f) = (front ls).map (List.map f) := by
  induction ls with
  | nil => rw [List.map_nil, front_nil, List.map_nil]
  | cons l ls ih =>
    have hl := h l List.mem_cons_self
    have hls : ∀ l ∈ ls, l.Alike (f l) := fun x hx => h x (List.mem_cons_of_mem l hx)
    rw [List.map_cons]
    rcases l.kinds with hblank | ⟨text, htext⟩ | hstep
    · rw [front_cons_of_isBlank (hl.1.trans hblank), front_cons_of_isBlank hblank, ih hls]
    · rw [front_cons_of_heading? (hl.2.trans htext), front_cons_of_heading? htext, List.map_nil]
    · rw [front_cons_of_inStep (hl.inStep_eq.trans hstep), front_cons_of_inStep hstep,
        any_head?_map hls, ih hls]
      split
      · cases front ls <;> rfl
      · rfl

theorem headed_map (h : ∀ l ∈ ls, l.Alike (f l)) :
    headed (ls.map f) = (headed ls).map (Block.map f) := by
  induction ls with
  | nil => rw [List.map_nil, headed_nil, List.map_nil]
  | cons l ls ih =>
    have hl := h l List.mem_cons_self
    have hls : ∀ l ∈ ls, l.Alike (f l) := fun x hx => h x (List.mem_cons_of_mem l hx)
    rw [List.map_cons]
    cases htext : l.heading? with
    | some text =>
      rw [headed_cons_of_heading? (hl.2.trans htext), headed_cons_of_heading? htext, ih hls,
        front_map hls]
      rfl
    | none =>
      rw [headed_cons_of_heading?_eq_none (hl.2.trans htext),
        headed_cons_of_heading?_eq_none htext, ih hls]

/-- Lines of the same kinds have the same outline. -/
theorem outline_map (h : ∀ l ∈ ls, l.Alike (f l)) :
    outline (ls.map f) = (outline ls).map (Block.map f) := by
  rw [outline, front_map h, headed_map h, outline, List.map_append]
  cases front ls <;> rfl

/-! ### Headings -/

/-- No run goes on from the end of `a` to the beginning of `b`. -/
def Apart (a b : List Line) : Prop :=
  (∀ l ∈ a.getLast?, l.inStep = false) ∨ ∀ l ∈ b.head?, l.inStep = false

theorem Apart.of_cons (h : Apart (l :: a) b) : Apart a b := by
  refine h.imp_left fun hlast x hx => hlast x ?_
  cases a with
  | nil => cases hx
  | cons y a => rwa [List.getLast?_cons_cons]

theorem Apart.of_append (h : Apart (ls ++ a) b) : Apart a b := by
  induction ls with
  | nil => exact h
  | cons l ls ih => exact ih h.of_cons

theorem any_head?_eq_false (h : ∀ l ∈ ls.head?, l.inStep = false) :
    ls.head?.any Line.inStep = false := by
  cases ls with
  | nil => rfl
  | cons l ls => exact h l rfl

end RecipeBook.Document
