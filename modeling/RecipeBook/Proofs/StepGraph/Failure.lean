import RecipeBook.Proofs.StepGraph.Acceptance

/-!
# How linking fails

`Fails steps e roots`: the steps are refused with the error `e`, after the steps `roots` have been
found to wait for no other. Either there is a first step that breaks a rule, for its references or
for its yields, or all steps keep the rules but a yield is not used. `fails_of_fault` says that
`build` does not fail in any other way.
-/

namespace RecipeBook.StepGraph

/-- The steps that wait for no other, where `first` is the number of the first step. -/
def starts (first : Nat) (steps : List PlacedStep) : List Nat :=
  ((steps.zipIdx first).filter fun p => p.2 = 0 || p.1.independent).map Prod.snd

inductive Fails (steps : List PlacedStep) : LoadError → List Nat → Prop
  /-- A step whose references fail is not looked at further. -/
  | references {us ws : List PlacedStep} {step : PlacedStep} {problem : Problem}
    (hsteps : steps = us ++ step :: ws) (hus : Consistent us) (hstep : ¬ Consistent (us ++ [step]))
    (hproblem : ∀ key place, problem ≠ .yieldRedeclared key place) :
    Fails steps ⟨problem, [.step step.place]⟩ (starts 0 us)
  | yields {us ws : List PlacedStep} {step : PlacedStep} {key : String} {place : Place}
    (hsteps : steps = us ++ step :: ws) (hus : Consistent us) (hstep : ¬ Consistent (us ++ [step])) :
    Fails steps ⟨.yieldRedeclared key place, [.step step.place]⟩ (starts 0 (us ++ [step]))
  | unused {step : PlacedStep} {i : Nat} {key : String}
    (hsteps : Consistent steps) (hstep : steps[i]? = some step) (hkey : key ∈ step.yieldKeys)
    (hunused : ∀ j, key ∉ referencesOf steps j) :
    Fails steps ⟨.yieldUnused key, [.step step.place]⟩ (starts 0 steps)

variable {steps us : List PlacedStep} {step : PlacedStep} {first : Nat} {e : LoadError}

theorem starts_cons (first : Nat) (step : PlacedStep) (steps : List PlacedStep) :
    starts first (step :: steps) =
      (if first = 0 ∨ step.independent then [first] else []) ++ starts (first + 1) steps := by
  rw [starts, List.zipIdx_cons, List.filter_cons, starts]
  simp only [Bool.or_eq_true, decide_eq_true_eq]
  split_ifs <;> rfl

theorem starts_concat (us : List PlacedStep) (step : PlacedStep) :
    starts 0 (us ++ [step]) =
      starts 0 us ++ if us.length = 0 ∨ step.independent then [us.length] else [] := by
  have hstep := starts_cons us.length step []
  rw [starts, List.zipIdx_append, List.filter_append, List.map_append, Nat.zero_add]
  exact congrArg (starts 0 us ++ ·) (hstep.trans (List.append_nil _))

namespace Scan

variable {s s' : Scan} {i : Nat} {problem : Problem} {rest : List PlacedStep}

/-! ### One step -/

theorem roots_of_refer {names : List String} (h : names.foldlM (refer i) s = .ok s') :
    s'.roots = s.roots := by
  induction names generalizing s with
  | nil => cases h; rfl
  | cons name names ih =>
    rw [List.foldlM_cons] at h
    cases hd : s.producer? (nameKey name) with
    | none =>
      simp only [refer, hd] at h
      cases h
    | some d =>
      rw [refer_of_producer hd] at h
      exact (ih h :)

/-- A step that is linked is a root or depends on some. -/
theorem roots_of_link {step : Step} (h : s.link i step = .ok s') :
    s'.roots = s.roots ++ if i = 0 ∨ step.independent then [i] else [] := by
  rw [link] at h
  split_ifs at h ⊢
  · cases h; rfl
  · cases h; exact (List.append_nil _).symm
  · exact (roots_of_refer h).trans (List.append_nil _).symm

theorem roots_of_declare {place : Place} {names : List String}
    (h : names.foldlM (declare i place) s = .ok s') : s'.roots = s.roots := by
  obtain ⟨-, -, rfl⟩ := (foldlM_declare_eq_ok_iff names).1 h
  rfl

/-- The references of a step are not refused for what it yields. -/
theorem problem_of_link {step : Step} (h : s.link i step = .error problem) (key : String)
    (place : Place) : problem ≠ .yieldRedeclared key place := by
  rw [link] at h
  split_ifs at h
  · cases h; exact Problem.noConfusion
  · cases h; exact Problem.noConfusion
  · obtain ⟨before, name, after, s₁, -, -, hname⟩ := foldlM_eq_error_iff.1 h
    obtain ⟨-, rfl⟩ := refer_eq_error_iff.1 hname
    exact Problem.noConfusion

theorem problem_of_declare {place : Place} {names : List String}
    (h : names.foldlM (declare i place) s = .error problem) :
    ∃ key previous, problem = .yieldRedeclared key previous := by
  obtain ⟨before, name, after, s₁, -, -, hname⟩ := foldlM_eq_error_iff.1 h
  obtain ⟨d, -, rfl⟩ := declare_eq_error_iff.1 hname
  exact ⟨_, _, rfl⟩

/-- A step is refused for its references, and then changes nothing, or for its yields. -/
theorem take_eq_error (h : s.take i step = (s', some e)) : ∃ problem,
    e = ⟨problem, [.step step.place]⟩ ∧
      ((∀ key place, problem ≠ .yieldRedeclared key place) ∧ s'.roots = s.roots ∨
        (∃ key place, problem = .yieldRedeclared key place) ∧
          s'.roots = s.roots ++ if i = 0 ∨ step.independent then [i] else []) := by
  rw [take] at h
  split at h
  · next problem hlink =>
    cases h
    exact ⟨problem, rfl, .inl ⟨problem_of_link hlink, rfl⟩⟩
  · next linked hlink =>
    split at h
    · next problem hdeclare =>
      cases h
      exact ⟨problem, rfl, .inr ⟨problem_of_declare hdeclare, roots_of_link hlink⟩⟩
    · cases h

theorem roots_of_take (h : s.take i step = (s', none)) :
    s'.roots = s.roots ++ if i = 0 ∨ step.independent then [i] else [] := by
  rw [take] at h
  split at h
  · cases h
  · next linked hlink =>
    split at h
    · cases h
    · next hdeclare =>
      cases h
      rw [roots_of_declare hdeclare, roots_of_link hlink]

/-! ### All steps -/

theorem roots_of_run (h : s.run i steps = (s', none)) : s'.roots = s.roots ++ starts i steps := by
  induction steps generalizing s i with
  | nil => cases h; exact (List.append_nil _).symm
  | cons step steps ih =>
    rw [run] at h
    split at h
    · next s₁ htake => rw [ih h, roots_of_take htake, List.append_assoc, starts_cons]
    · cases h

theorem follows_of_run (h : start.run 0 steps = (s, none)) : s.Follows steps := by
  have hrun := (run_start steps).2
  rw [h] at hrun
  exact hrun rfl

/-- A run that fails gets through the steps before some step, which it refuses. -/
theorem run_eq_error (h : s.run i steps = (s', some e)) : ∃ us step ws s₁,
    steps = us ++ step :: ws ∧ s.run i us = (s₁, none) ∧
      s₁.take (i + us.length) step = (s', some e) := by
  induction steps generalizing s i with
  | nil => cases h
  | cons step steps ih =>
    rw [run] at h
    split at h
    · next s₁ htake =>
      obtain ⟨us, step', ws, s₂, rfl, hus, hstep⟩ := ih h
      refine ⟨step :: us, step', ws, s₂, rfl, ?_, ?_⟩
      · rw [run, htake]
        exact hus
      · rwa [List.length_cons, Nat.add_comm us.length, ← Nat.add_assoc]
    · next s₁ e' htake =>
      cases h
      exact ⟨[], step, steps, s, rfl, rfl, htake⟩

end Scan

/-- Steps that are refused are so in one of three ways, and have no edges then. -/
theorem fails_of_fault (h : (build steps).fault = some e) :
    Fails steps e (build steps).graph.roots ∧ (build steps).graph.edges = [] := by
  rw [build] at h ⊢
  cases hrun : Scan.start.run 0 steps with
  | mk s fault =>
    rw [hrun] at h
    cases fault with
    | some e' =>
      obtain rfl : e' = e := Option.some.inj h
      refine ⟨?_, rfl⟩
      show Fails steps e' s.roots
      obtain ⟨us, step, ws, s₁, hsteps, hus, hstep⟩ := Scan.run_eq_error hrun
      have hfollows := Scan.follows_of_run hus
      -- a step that keeps the rules would have been taken
      have hbad : ¬ Consistent (us ++ [step]) := by
        intro hc
        obtain ⟨s₂, htake, -⟩ := hfollows.take hc.fits
        rw [Nat.zero_add] at hstep
        cases hstep.symm.trans htake
      obtain ⟨problem, rfl, ⟨hproblem, hroots⟩ | ⟨⟨key, place, rfl⟩, hroots⟩⟩ :=
        Scan.take_eq_error hstep
      · rw [hroots, Scan.roots_of_run hus]
        exact .references hsteps hfollows.consistent hbad hproblem
      · have hstarts : s.roots = starts 0 (us ++ [step]) := by
          rw [hroots, Scan.roots_of_run hus, starts_concat, Nat.zero_add]
          rfl
        rw [hstarts]
        exact .yields hsteps hfollows.consistent hbad
    | none =>
      have hfollows := Scan.follows_of_run hrun
      simp only at h ⊢
      cases hunused : s.unused? with
      | none => rw [hunused] at h; cases h
      | some d =>
        rw [hunused] at h
        cases h
        refine ⟨?_, rfl⟩
        show Fails steps _ s.roots
        have hd : d ∈ declarations steps := by
          rw [← hfollows.declared_eq]
          exact List.mem_of_find?_eq_some hunused
        obtain ⟨step, hstep, hkey, hplace⟩ := mem_declarations.1 hd
        have hnone : d.key ∉ s.consumed := by simpa using List.find?_some hunused
        rw [Scan.roots_of_run hrun, hplace]
        exact .unused hfollows.consistent hstep hkey fun j hj =>
          hnone ((hfollows.mem_consumed _).2 ⟨j, hj⟩)

/-- The error of steps that are refused notes the place of one of them. -/
theorem exists_notes_of_fault (h : (build steps).fault = some e) :
    ∃ step ∈ steps, e.notes = [.step step.place] := by
  have hfails := (fails_of_fault h).1
  generalize (build steps).graph.roots = roots at hfails
  cases hfails with
  | @references us ws step problem hsteps => exact ⟨step, by simp [hsteps], rfl⟩
  | @yields us ws step key place hsteps => exact ⟨step, by simp [hsteps], rfl⟩
  | @unused step i key _ hstep => exact ⟨step, List.mem_of_getElem? hstep, rfl⟩

end RecipeBook.StepGraph
