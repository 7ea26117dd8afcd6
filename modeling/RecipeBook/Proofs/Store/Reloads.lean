import Mathlib.Data.List.Induction
import RecipeBook.Store

/-!
# Reloads that overlap

A reload loads the folder as it is and puts the library in its place some time later. In between the
folder may be edited, and other reloads may begin and end. Whatever the course of these events, a store
shows what was loaded from one state of its folder (`Invariant.run`). As the libraries are put in place in
the order in which the reloads end, a store goes back to an earlier state exactly if a reload ends late,
that is after one that loaded a later state (`staysCurrent_iff_inOrder`). This does not happen as long as
one reload is under way at a time (`inOrder_of_length_le_one`).
-/

namespace RecipeBook

theorem Store.load_of_openAt {location : String} {folder : Option FileTree} {store : Store}
    {report : Report} (h : Store.openAt location folder = .ok (store, report)) :
    store.location = location ∧ Library.load location folder = .ok (store.current, report) := by
  cases hload : Library.load location folder with
  | error f => simp [openAt, hload, bind, Except.bind] at h
  | ok loaded =>
    rw [openAt, hload] at h
    obtain ⟨rfl, rfl⟩ := Prod.mk.inj (Except.ok.inj h)
    exact ⟨rfl, rfl⟩

/-- A reload that has loaded the folder and has not put the library in its place. -/
structure Attempt where
  /-- The number of edits that came before it. -/
  moment : Nat
  result : Except Failure (Library × Report)

/-- A store with its folder and the reloads that are under way. -/
structure Session where
  store : Store
  /-- The moment that the current library was loaded at; none if the store was made of a library. -/
  loadedAt : Option Nat
  /-- The folder before each of its edits. -/
  past : List (Option FileTree)
  folder : Option FileTree
  pending : List Attempt

namespace Session

inductive Event
  | edit (folder : Option FileTree)
  | load
  /-- The reload with the number ends, of those that are under way. -/
  | finish (i : Nat)

/-- The moment of a session is the number of edits so far. -/
def moment (s : Session) : Nat := s.past.length

/-- The folder at every moment. -/
def folders (s : Session) : List (Option FileTree) := s.past ++ [s.folder]

def settle (s : Session) (a : Attempt) : Session :=
  match a.result with
  | .ok (library, _) => { s with store := s.store.publish library, loadedAt := some a.moment }
  | .error _ => s

def step (s : Session) : Event → Session
  | .edit folder => { s with past := s.folders, folder }
  | .load => { s with
      pending := s.pending ++ [⟨s.moment, Library.load s.store.location s.folder⟩] }
  | .finish i =>
    match s.pending[i]? with
    | some a => { s.settle a with pending := s.pending.eraseIdx i }
    | none => s

def run (s : Session) (events : List Event) : Session := events.foldl step s

/-- A session begins with a store that was opened on its folder, or with one that was made of a
library. -/
inductive Begins : Session → Prop
  | opened {location : String} {folder : Option FileTree} {store : Store} {report : Report}
    (h : Store.openAt location folder = .ok (store, report)) : Begins ⟨store, some 0, [], folder, []⟩
  | wrapped (store : Store) (folder : Option FileTree) : Begins ⟨store, none, [], folder, []⟩

variable {s t u : Session} {a : Attempt} {e : Event} {events : List Event} {i m : Nat}

@[simp] theorem run_nil : s.run [] = s := rfl

theorem run_concat (events : List Event) (e : Event) : s.run (events ++ [e]) = (s.run events).step e := by
  rw [run, List.foldl_append, List.foldl_cons, List.foldl_nil, ← run]

/-- What the end of a reload comes to. -/
theorem step_finish (s : Session) (i : Nat) : s.step (.finish i) = s ∨
    ∃ a, s.pending[i]? = some a ∧
      ((∃ f, a.result = .error f ∧ s.step (.finish i) = { s with pending := s.pending.eraseIdx i }) ∨
        ∃ library report, a.result = .ok (library, report) ∧ s.step (.finish i) =
          { s with
            store := s.store.publish library
            loadedAt := some a.moment
            pending := s.pending.eraseIdx i }) := by
  rw [step]
  cases hi : s.pending[i]? with
  | none => exact .inl rfl
  | some a =>
    refine .inr ⟨a, rfl, ?_⟩
    simp only [settle]
    cases a.result with
    | error f => exact .inl ⟨f, rfl, rfl⟩
    | ok loaded => exact .inr ⟨loaded.1, loaded.2, rfl, rfl⟩

/-- A reload that nothing comes in between of. -/
theorem store_load_finish (s : Session) :
    ((s.step .load).step (.finish s.pending.length)).store = (s.store.reload s.folder).1 := by
  simp only [step, List.getElem?_concat_length, settle, Store.reload]
  cases Library.load s.store.location s.folder <;> rfl

/-! ### What a store shows -/

/-- The result is that of loading the folder as it was at the moment. -/
def HasLoaded (s : Session) (m : Nat) (result : Except Failure (Library × Report)) : Prop :=
  ∃ folder, s.folders[m]? = some folder ∧ Library.load s.store.location folder = result

/-- What is shown and what is to be shown was loaded from the folder, but for the library that the store
was made of. -/
structure Invariant (start s : Session) : Prop where
  location_eq : s.store.location = start.store.location
  current_eq : s.loadedAt = none →
    start.loadedAt = none ∧ s.store.current = start.store.current
  hasLoaded : ∀ m, s.loadedAt = some m → ∃ report, s.HasLoaded m (.ok (s.store.current, report))
  pending : ∀ a ∈ s.pending, s.HasLoaded a.moment a.result

theorem HasLoaded.edit {result : Except Failure (Library × Report)} (h : s.HasLoaded m result)
    (folder : Option FileTree) : (s.step (.edit folder)).HasLoaded m result := by
  obtain ⟨loaded, hm, hload⟩ := h
  refine ⟨loaded, ?_, hload⟩
  rw [folders, step, List.getElem?_append_left (List.getElem?_eq_some_iff.1 hm).1, hm]

theorem hasLoaded_now (s : Session) :
    s.HasLoaded s.moment (Library.load s.store.location s.folder) :=
  ⟨s.folder, by rw [folders, moment, List.getElem?_concat_length], rfl⟩

theorem Invariant.step (h : s.Invariant t) (e : Event) : s.Invariant (t.step e) := by
  cases e with
  | edit folder =>
    refine ⟨h.location_eq, h.current_eq, fun m hm => ?_, fun a ha => (h.pending a ha).edit folder⟩
    obtain ⟨report, hloaded⟩ := h.hasLoaded m hm
    exact ⟨report, hloaded.edit folder⟩
  | load =>
    refine ⟨h.location_eq, h.current_eq, h.hasLoaded, fun a ha => ?_⟩
    rcases List.mem_append.1 ha with ha | ha
    · exact h.pending a ha
    · obtain rfl := List.mem_singleton.1 ha
      exact t.hasLoaded_now
  | finish i =>
    have hleft : ∀ a ∈ t.pending.eraseIdx i, t.HasLoaded a.moment a.result := fun a ha =>
      h.pending a (List.mem_of_mem_eraseIdx ha)
    obtain heq | ⟨a, hi, ⟨f, -, heq⟩ | ⟨library, report, hresult, heq⟩⟩ := step_finish t i
    · rwa [heq]
    · rw [heq]
      exact ⟨h.location_eq, h.current_eq, h.hasLoaded, hleft⟩
    · rw [heq]
      refine ⟨h.location_eq, nofun, fun m hm => ⟨report, ?_⟩, hleft⟩
      obtain rfl := Option.some.inj hm
      exact hresult ▸ h.pending a (List.mem_of_getElem? hi)

theorem Invariant.run (h : s.Invariant t) (events : List Event) : s.Invariant (t.run events) := by
  induction events using List.reverseRecOn with
  | nil => exact h
  | append_singleton events e ih =>
    rw [run_concat]
    exact ih.step e

theorem Begins.invariant (h : s.Begins) : s.Invariant s := by
  cases h with
  | wrapped store folder => exact ⟨rfl, fun _ => ⟨rfl, rfl⟩, nofun, nofun⟩
  | @opened location folder store report h =>
    refine ⟨rfl, nofun, fun m hm => ?_, nofun⟩
    obtain rfl := Option.some.inj hm
    obtain ⟨rfl, hload⟩ := Store.load_of_openAt h
    exact ⟨report, folder, rfl, hload⟩

/-! ### The order of what a store shows -/

/-- What the second session shows was not loaded before what the first one shows. -/
def NotBefore (s t : Session) : Prop :=
  ∀ m, s.loadedAt = some m → ∃ m', t.loadedAt = some m' ∧ m ≤ m'

/-- The event ends a reload that loaded the folder before what is shown was loaded. -/
def IsLate (s : Session) (e : Event) : Prop :=
  ∃ i a loaded m, e = .finish i ∧ s.pending[i]? = some a ∧ a.result = .ok loaded ∧
    s.loadedAt = some m ∧ a.moment < m

/-- In the course of the events the store never goes back to what was loaded before. -/
def StaysCurrent (s : Session) (events : List Event) : Prop :=
  ∀ es es', es ++ es' <+: events → (s.run es).NotBefore (s.run (es ++ es'))

/-- None of the reloads ends late. -/
def InOrder (s : Session) (events : List Event) : Prop :=
  ∀ es e, es ++ [e] <+: events → ¬ (s.run es).IsLate e

theorem NotBefore.refl (s : Session) : s.NotBefore s := fun m hm => ⟨m, hm, Nat.le_refl m⟩

theorem NotBefore.trans (h : s.NotBefore t) (h' : t.NotBefore u) : s.NotBefore u := by
  intro m hm
  obtain ⟨m', hm', hle⟩ := h m hm
  obtain ⟨m'', hm'', hle'⟩ := h' m' hm'
  exact ⟨m'', hm'', Nat.le_trans hle hle'⟩

theorem notBefore_step_iff (s : Session) (e : Event) : s.NotBefore (s.step e) ↔ ¬ s.IsLate e := by
  constructor
  · rintro h ⟨i, a, loaded, m, rfl, hi, hresult, hm, hlt⟩
    obtain ⟨m', hm', hle⟩ := h m hm
    have hloaded : (s.step (.finish i)).loadedAt = some a.moment := by
      simp only [step, hi, settle, hresult]
    obtain rfl : a.moment = m' := Option.some.inj (hloaded.symm.trans hm')
    omega
  · intro h
    cases e with
    | edit folder => exact NotBefore.refl s
    | load => exact NotBefore.refl s
    | finish i =>
      obtain heq | ⟨a, hi, ⟨f, -, heq⟩ | ⟨library, report, hresult, heq⟩⟩ := step_finish s i
      · rw [heq]
        exact NotBefore.refl s
      · rw [heq]
        exact NotBefore.refl s
      · rw [heq]
        intro m hm
        refine ⟨a.moment, rfl, Nat.le_of_not_lt fun hlt => h ?_⟩
        exact ⟨i, a, (library, report), m, rfl, hi, hresult, hm, hlt⟩

/-- A store goes back exactly if a reload ends late. -/
theorem staysCurrent_iff_inOrder (s : Session) (events : List Event) :
    s.StaysCurrent events ↔ s.InOrder events := by
  constructor
  · intro h es e hprefix
    rw [← notBefore_step_iff, ← run_concat]
    exact h es [e] hprefix
  · intro h es es' hprefix
    induction es' using List.reverseRecOn with
    | nil =>
      rw [List.append_nil]
      exact NotBefore.refl _
    | append_singleton es' e ih =>
      rw [← List.append_assoc] at hprefix ⊢
      rw [run_concat]
      have hnot := (notBefore_step_iff _ _).2 (h _ e hprefix)
      exact (ih ((List.prefix_append _ _).trans hprefix)).trans hnot

/-- All reloads that are under way are of a moment between that of what is shown and the present. -/
structure Fresh (s : Session) : Prop where
  loadedAt_le : ∀ m, s.loadedAt = some m → m ≤ s.moment
  le_moment : ∀ m, s.loadedAt = some m → ∀ a ∈ s.pending, m ≤ a.moment
  moment_le : ∀ a ∈ s.pending, a.moment ≤ s.moment

theorem Begins.fresh (h : s.Begins) : s.Fresh := by
  cases h with
  | wrapped store folder => exact ⟨nofun, nofun, nofun⟩
  | opened h => exact ⟨fun m hm => by cases hm; exact Nat.le_refl 0, fun _ _ => nofun, nofun⟩

theorem Fresh.not_isLate (h : s.Fresh) (e : Event) : ¬ s.IsLate e := by
  rintro ⟨i, a, loaded, m, -, hi, -, hm, hlt⟩
  exact Nat.not_lt_of_le (h.le_moment m hm a (List.mem_of_getElem? hi)) hlt

/-- A reload that is the only one under way leaves none behind that could be late. -/
theorem Fresh.step (h : s.Fresh) (hone : s.pending.length ≤ 1) (e : Event) : (s.step e).Fresh := by
  cases e with
  | edit folder =>
    have hmoment : (s.step (.edit folder)).moment = s.moment + 1 := by
      rw [moment, Session.step, folders, List.length_append, List.length_singleton, moment]
    refine ⟨fun m hm => ?_, h.le_moment, fun a ha => ?_⟩
    · exact hmoment ▸ Nat.le_succ_of_le (h.loadedAt_le m hm)
    · exact hmoment ▸ Nat.le_succ_of_le (h.moment_le a ha)
  | load =>
    refine ⟨h.loadedAt_le, fun m hm a ha => ?_, fun a ha => ?_⟩
    · rcases List.mem_append.1 ha with ha | ha
      · exact h.le_moment m hm a ha
      · obtain rfl := List.mem_singleton.1 ha
        exact h.loadedAt_le m hm
    · rcases List.mem_append.1 ha with ha | ha
      · exact h.moment_le a ha
      · obtain rfl := List.mem_singleton.1 ha
        exact Nat.le_refl _
  | finish i =>
    obtain heq | ⟨a, hi, hend⟩ := step_finish s i
    · rwa [heq]
    · have ha := List.mem_of_getElem? hi
      have hnil : s.pending.eraseIdx i = [] := by
        obtain ⟨b, hb⟩ := List.length_eq_one_iff.1
          (Nat.le_antisymm hone (List.length_pos_of_mem ha))
        rw [hb] at hi ⊢
        obtain ⟨rfl, -⟩ : i = 0 ∧ b = a := by simpa [List.getElem?_singleton] using hi
        rfl
      obtain ⟨f, -, heq⟩ | ⟨library, report, -, heq⟩ := hend
      · rw [heq, hnil]
        exact ⟨h.loadedAt_le, fun _ _ => nofun, nofun⟩
      · rw [heq, hnil]
        refine ⟨fun m hm => ?_, fun _ _ => nofun, nofun⟩
        obtain rfl := Option.some.inj hm
        exact h.moment_le a ha

theorem Fresh.run (h : s.Fresh) (hone : ∀ es, es <+: events → (s.run es).pending.length ≤ 1) :
    ∀ es, es <+: events → (s.run es).Fresh := by
  intro es hprefix
  induction es using List.reverseRecOn with
  | nil => exact h
  | append_singleton es e ih =>
    have hes := (List.prefix_append es [e]).trans hprefix
    rw [run_concat]
    exact (ih hes).step (hone es hes) e

theorem inOrder_of_length_le_one (h : s.Begins)
    (hone : ∀ es, es <+: events → (s.run es).pending.length ≤ 1) : s.InOrder events :=
  fun es e hprefix => (h.fresh.run hone es ((List.prefix_append es [e]).trans hprefix)).not_isLate e

/-! ### Any course of events -/

/-- What a store shows in the course of the events, and in which order. -/
structure Course (s : Session) (events : List Event) : Prop where
  /-- The library that the store was made of, or what was loaded from the folder at some moment. -/
  current : (s.loadedAt = none ∧ (s.run events).loadedAt = none ∧
      (s.run events).store.current = s.store.current) ∨
    ∃ m folder report, (s.run events).loadedAt = some m ∧
      (s.run events).folders[m]? = some folder ∧
      Library.load s.store.location folder = .ok ((s.run events).store.current, report)
  failed : ∀ i a f, (s.run events).pending[i]? = some a → a.result = .error f →
    ((s.run events).step (.finish i)).store = (s.run events).store
  staysCurrent_iff : s.StaysCurrent events ↔ s.InOrder events
  staysCurrent_of_one : (∀ es, es <+: events → (s.run es).pending.length ≤ 1) →
    s.StaysCurrent events

/-- Whatever happens to a store and its folder, the store shows what was loaded from the folder at one
moment, or what it was made of, a reload that fails changes nothing, and no earlier state of the folder
comes back unless a reload ends late. -/
theorem course_of_begins (h : s.Begins) (events : List Event) : s.Course events where
  current := by
    have hrun := h.invariant.run events
    cases hloaded : (s.run events).loadedAt with
    | none =>
      obtain ⟨hstart, hcurrent⟩ := hrun.current_eq hloaded
      exact .inl ⟨hstart, rfl, hcurrent⟩
    | some m =>
      obtain ⟨report, folder, hfolder, hload⟩ := hrun.hasLoaded m hloaded
      exact .inr ⟨m, folder, report, rfl, hfolder, hrun.location_eq ▸ hload⟩
  failed i a f hi hresult := by simp only [step, hi, settle, hresult]
  staysCurrent_iff := staysCurrent_iff_inOrder s events
  staysCurrent_of_one hone := (staysCurrent_iff_inOrder s events).2 (inOrder_of_length_le_one h hone)

/-- A folder with one recipe. -/
def teaFolder : FileTree := ⟨[(["tea.en.recipe"], .file "name Tea\nserves 1\n".toUTF8)]⟩

/-- A store that was opened on an empty folder shows the tea once a reload has loaded it. -/
theorem course_tea : ∃ store report,
    Store.openAt "recipes" (some .empty) = .ok (store, report) ∧
      Course ⟨store, some 0, [], some .empty, []⟩ [.edit (some teaFolder), .load, .finish 0] ∧
      ((run ⟨store, some 0, [], some .empty, []⟩
        [.edit (some teaFolder), .load, .finish 0]).loadedAt = some 1) :=
  ⟨_, _, rfl, course_of_begins (.opened rfl) _, rfl⟩

theorem size_load_teaFolder : (Library.loadEntries "recipes" teaFolder.walk).library.size = 1 := by
  have hwalk : teaFolder.walk =
      [.file ["tea.en.recipe"] (.bytes "name Tea\nserves 1\n".toUTF8)] := by
    rw [FileTree.walk, teaFolder, List.mergeSort_singleton]
    rfl
  rw [hwalk]
  decide +kernel

theorem size_load_empty : (Library.loadEntries "recipes" FileTree.empty.walk).library.size = 0 := by
  rw [FileTree.walk, FileTree.empty, List.mergeSort_nil]
  rfl

/-- Two reloads end in the other order than they loaded the folder in, so that the empty folder of
before comes back after the tea. A store that was made of a library shows what no folder held. -/
theorem empty_folder_comes_back :
    (∃ store report, Store.openAt "recipes" (some .empty) = .ok (store, report) ∧
      ∃ shown later, shown = run ⟨store, some 0, [], some .empty, []⟩
          [.load, .edit (some teaFolder), .load, .finish 1] ∧ later = shown.step (.finish 0) ∧
        (shown.loadedAt = some 1 ∧ shown.store.current.size = 1) ∧
        later.loadedAt = some 0 ∧ later.store.current.size = 0 ∧
        ¬ StaysCurrent ⟨store, some 0, [], some .empty, []⟩
          [.load, .edit (some teaFolder), .load, .finish 1, .finish 0]) ∧
    ∃ library, (Document.read ⟨"tea", "en", "tea.en.recipe"⟩ "name Tea\nserves 1\n").bind
        Library.empty.insert = .ok library ∧
      ∀ report, Library.load "recipes" (some .empty) ≠ .ok (library, report) := by
  constructor
  · refine ⟨_, _, rfl, _, _, rfl, rfl, ⟨rfl, size_load_teaFolder⟩, rfl, size_load_empty, fun h => ?_⟩
    obtain ⟨m, hm, hle⟩ := h [.load, .edit (some teaFolder), .load, .finish 1] [.finish 0]
      (List.prefix_refl _) 1 rfl
    obtain rfl : 0 = m := Option.some.inj hm
    exact absurd hle (by decide)
  · have hsize : ((Document.read ⟨"tea", "en", "tea.en.recipe"⟩ "name Tea\nserves 1\n").bind
        Library.empty.insert).toOption.map Library.size = some 1 := by decide +kernel
    obtain ⟨library, hlibrary, hone⟩ := Option.map_eq_some_iff.1 hsize
    refine ⟨library, toOption_eq_some.1 hlibrary, fun report hload => ?_⟩
    rw [← (Prod.mk.inj (Except.ok.inj hload)).1, size_load_empty] at hone
    cases hone

end Session
end RecipeBook
