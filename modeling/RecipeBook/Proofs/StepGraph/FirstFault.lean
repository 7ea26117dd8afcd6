import RecipeBook.Proofs.Similarity
import RecipeBook.Proofs.StepGraph.Failure

/-!
# The first step that breaks a rule

`Refuses us step problem`: after the steps `us`, which keep the rules, `step` breaks one, and the
problem is what comes first in it, its references before its yields. `Faults` says which step an
error is about: the first that breaks a rule, or, if none does, the one that declares the first
yield without use. Linking fails in these ways and in no other (`exists_reportsFirst_iff`); what
comes behind a refused step makes no difference, nor does the order in which the yields of earlier
steps are looked through for suggestions.
-/

namespace RecipeBook.StepGraph

/-- A reference of the step is not allowed, or not to a yield of the steps `us`. -/
inductive BadReference (us : List PlacedStep) (step : PlacedStep) : Problem → Prop
  | first (hus : us.length = 0) (hreferences : step.internal ++ step.hidden ≠ []) :
      BadReference us step (.firstStepRefers (step.internal ++ step.hidden))
  | independent (hus : us.length ≠ 0) (hstep : step.independent)
      (hreferences : step.internal ++ step.hidden ≠ []) :
      BadReference us step (.independentStepRefers (step.internal ++ step.hidden))
  /-- The suggestions are the same in whatever order the yields come. -/
  | unresolved {before after candidates : List String} {name : String} (hus : us.length ≠ 0)
      (hstep : step.independent = false)
      (hreferences : step.internal ++ step.hidden = before ++ name :: after)
      (hbefore : ∀ earlier ∈ before, ∃ i, lowered (trimmed earlier) ∈ yieldsOf us i)
      (hname : ∀ i, lowered (trimmed name) ∉ yieldsOf us i)
      (hcandidates : ∀ keys : List String, keys.Perm (us.flatMap fun s => s.yieldKeys) →
        candidates = Similarity.closeMatches (lowered (trimmed name)) keys) :
      BadReference us step (.unknownReference name candidates)

/-- A yield of the step is declared already, by one of the steps `us` or by the step itself. -/
inductive BadYield (us : List PlacedStep) (step : PlacedStep) : Problem → Prop
  | redeclared {before after : List String} {name : String} {place : Place}
      (hyields : step.yields = before ++ name :: after)
      (hnodup : (before.map fun earlier => lowered (trimmed earlier)).Nodup)
      (hbefore : ∀ earlier ∈ before, ∀ i, lowered (trimmed earlier) ∉ yieldsOf us i)
      (hname : (∃ other ∈ us, lowered (trimmed name) ∈ other.yieldKeys ∧ other.place = place) ∨
        (∃ earlier ∈ before, lowered (trimmed earlier) = lowered (trimmed name)) ∧
          step.place = place) :
      BadYield us step (.yieldRedeclared (lowered (trimmed name)) place)

/-- The problem of a step behind the steps `us`. -/
inductive Refuses (us : List PlacedStep) (step : PlacedStep) : Problem → Prop
  | references {problem : Problem} (h : BadReference us step problem) : Refuses us step problem
  | yields {problem : Problem} (hreferences : ∀ problem, ¬ BadReference us step problem)
      (h : BadYield us step problem) : Refuses us step problem

/-- The step is the one to blame, and the problem is what is wrong with it. -/
inductive Faults (steps : List PlacedStep) : PlacedStep → Problem → Prop
  | refused {us ws : List PlacedStep} {step : PlacedStep} {problem : Problem}
      (hsteps : steps = us ++ step :: ws) (hus : Consistent us) (hstep : ¬ Consistent (us ++ [step]))
      (h : Refuses us step problem) : Faults steps step problem
  | unused {before after : List Declared} {d : Declared} {step : PlacedStep}
      (hsteps : Consistent steps) (hdeclarations : declarations steps = before ++ d :: after)
      (hbefore : ∀ d' ∈ before, ∃ j, d'.key ∈ referencesOf steps j)
      (hunused : ∀ j, d.key ∉ referencesOf steps j) (hstep : steps[d.producer]? = some step) :
      Faults steps step (.yieldUnused d.key)

variable {us ws steps : List PlacedStep} {step : PlacedStep} {problem : Problem} {e : LoadError}
  {key : String}

theorem map_key_declarations (us : List PlacedStep) :
    (declarations us).map Declared.key = us.flatMap fun s => s.yieldKeys := by
  induction us using List.reverseRecOn with
  | nil => rfl
  | append_singleton us step ih => simp [declarations_concat, ih, Function.comp_def]

namespace Scan

variable {s s' : Scan} {d : Declared}

/-! ### References -/

theorem Follows.exists_place_iff (h : Follows us s) {place : Place} :
    (∃ d, s.producer? key = some d ∧ d.place = place) ↔
      ∃ earlier ∈ us, key ∈ earlier.yieldKeys ∧ earlier.place = place := by
  constructor
  · rintro ⟨d, hd, rfl⟩
    obtain ⟨hmem, rfl⟩ := h.producer?_eq_some_iff.1 hd
    obtain ⟨earlier, hearlier, hkey, hplace⟩ := mem_declarations.1 hmem
    exact ⟨earlier, List.mem_of_getElem? hearlier, hkey, hplace.symm⟩
  · rintro ⟨earlier, hearlier, hkey, rfl⟩
    obtain ⟨i, hi⟩ := List.mem_iff_getElem?.1 hearlier
    exact ⟨⟨key, i, earlier.place⟩,
      h.producer?_eq_some_iff.2 ⟨mem_declarations.2 ⟨earlier, hi, hkey, rfl⟩, rfl⟩, rfl⟩

theorem Follows.foldlM_refer_eq_error_iff (h : Follows us s) (names : List String) :
    names.foldlM (refer us.length) s = .error problem ↔ ∃ before name after,
      names = before ++ name :: after ∧ (∀ earlier ∈ before, ∃ i, nameKey earlier ∈ yieldsOf us i) ∧
        (∀ i, nameKey name ∉ yieldsOf us i) ∧ .unknownReference name
          (Similarity.closeMatches (nameKey name) (us.flatMap fun s => s.yieldKeys)) = problem := by
  have hone : ∀ keys name, refer us.length (s.referred us.length keys) name = .error problem ↔
      (∀ i, nameKey name ∉ yieldsOf us i) ∧ .unknownReference name
        (Similarity.closeMatches (nameKey name) (us.flatMap fun s => s.yieldKeys)) = problem := by
    intro keys name
    rw [← h.producer?_eq_none_iff, ← map_key_declarations, ← h.declared_eq]
    exact refer_eq_error_iff
  rw [foldlM_eq_error_iff]
  constructor
  · rintro ⟨before, name, after, s', hnames, hbefore, hname⟩
    obtain ⟨hall, rfl⟩ := (foldlM_refer_eq_ok_iff h.edge_ne before).1 hbefore
    refine ⟨before, name, after, hnames, ?_, (hone _ name).1 hname⟩
    exact fun earlier hearlier => h.producer?_isSome_iff.1 (hall earlier hearlier)
  · rintro ⟨before, name, after, hnames, hbefore, hname⟩
    refine ⟨before, name, after, _, hnames, (foldlM_refer_eq_ok_iff h.edge_ne before).2 ⟨?_, rfl⟩,
      (hone _ name).2 hname⟩
    exact fun earlier hearlier => h.producer?_isSome_iff.2 (hbefore earlier hearlier)

theorem Follows.link_eq_error_iff (h : Follows us s) :
    s.link us.length step.toStep = .error problem ↔ BadReference us step problem := by
  constructor
  · intro hlink
    rw [Scan.link] at hlink
    split_ifs at hlink with hstart hreferences hfirst hreferences
    · obtain rfl := Except.error.inj hlink
      exact .first hfirst hreferences
    · obtain rfl := Except.error.inj hlink
      exact .independent hfirst (hstart.resolve_left hfirst) hreferences
    · obtain ⟨before, name, after, hnames, hbefore, hname, rfl⟩ :=
        (h.foldlM_refer_eq_error_iff _).1 hlink
      refine .unresolved (fun h0 => hstart (.inl h0))
        (Bool.eq_false_iff.2 fun hi => hstart (.inr hi)) hnames hbefore hname fun keys hkeys => ?_
      exact (Similarity.closeMatches_eq_of_perm _ hkeys).symm
  · intro hbad
    rw [Scan.link, Step.references]
    cases hbad with
    | first hus hreferences => rw [if_pos (.inl hus), if_neg hreferences, if_pos hus]
    | independent hus hstep hreferences => rw [if_pos (.inr hstep), if_neg hreferences, if_neg hus]
    | unresolved hus hstep hreferences hbefore hname hcandidates =>
      have hstart : ¬ (us.length = 0 ∨ step.independent) := by simp [hus, hstep]
      have hne : step.internal ++ step.hidden ≠ [] := by simp [hreferences]
      rw [if_neg hstart, if_neg hne]
      refine (h.foldlM_refer_eq_error_iff _).2 ⟨_, _, _, hreferences, hbefore, hname, ?_⟩
      rw [hcandidates _ (.refl _)]
      rfl

/-! ### Yields -/

theorem producer?_declaring (s : Scan) (i : Nat) (place : Place) (keys : List String) (key : String) :
    (s.declaring i place keys).producer? key =
      (s.producer? key).or (if key ∈ keys then some ⟨key, i, place⟩ else none) := by
  have hkeys : (keys.map fun key => (⟨key, i, place⟩ : Declared)).find? (·.key = key) =
      if key ∈ keys then some ⟨key, i, place⟩ else none := by
    induction keys with
    | nil => rfl
    | cons k keys ih =>
      by_cases hk : k = key
      · simp [hk]
      · simp [hk, ih, Ne.symm hk]
  rw [producer?, declaring, List.find?_append, hkeys]
  rfl

theorem Follows.foldlM_declare_eq_error_iff (h : Follows us s) (hs' : s'.declared = s.declared) :
    step.yields.foldlM (declare us.length step.place) s' = .error problem ↔
      BadYield us step problem := by
  have hproducer : ∀ key, s'.producer? key = s.producer? key := fun key => by
    rw [producer?, producer?, hs']
  rw [foldlM_eq_error_iff]
  constructor
  · rintro ⟨before, name, after, s₁, hyields, hbefore, hname⟩
    obtain ⟨⟨hnodup, hnew⟩, rfl⟩ := (foldlM_declare_eq_ok_iff before).1 hbefore
    obtain ⟨d, hd, rfl⟩ := declare_eq_error_iff.1 hname
    refine .redeclared hyields hnodup (fun earlier hearlier =>
      (h.producer?_of_declared_eq hs').1 (hnew _ (List.mem_map_of_mem hearlier))) ?_
    rw [producer?_declaring, hproducer, Option.or_eq_some_iff] at hd
    rcases hd with hd | ⟨-, hd⟩
    · exact .inl (h.exists_place_iff.1 ⟨d, hd, rfl⟩)
    · split at hd
      · next hmem =>
        obtain rfl := Option.some.inj hd
        exact .inr ⟨List.mem_map.1 hmem, rfl⟩
      · cases hd
  · rintro @⟨before, after, name, place, hyields, hnodup, hbefore, hname⟩
    refine ⟨before, name, after, _, hyields, (foldlM_declare_eq_ok_iff before).2 ⟨⟨hnodup, ?_⟩, rfl⟩, ?_⟩
    · exact List.forall_mem_map.2 fun earlier hearlier =>
        (h.producer?_of_declared_eq hs').2 (hbefore earlier hearlier)
    · refine declare_eq_error_iff.2 ?_
      simp only [producer?_declaring, hproducer]
      rcases hname with hother | ⟨⟨earlier, hearlier, hkey⟩, rfl⟩
      · obtain ⟨d, hd, rfl⟩ := h.exists_place_iff.2 hother
        exact ⟨d, by rw [nameKey, hd, Option.some_or], rfl⟩
      · have hnone := h.producer?_eq_none_iff.2 (hbefore earlier hearlier)
        rw [hkey] at hnone
        have hmem : nameKey name ∈ before.map nameKey := List.mem_map.2 ⟨earlier, hearlier, hkey⟩
        exact ⟨_, by rw [if_pos hmem, nameKey, hnone, Option.none_or], rfl⟩

/-! ### Steps -/

/-- A step is refused for its first bad reference or else for its first bad yield. -/
theorem Follows.take_eq_some_iff (h : Follows us s) : (s.take us.length step).2 = some e ↔
    Refuses us step e.problem ∧ e.notes = [.step step.place] := by
  have hfailed : ∀ problem, some (⟨problem, [.step step.place]⟩ : LoadError) = some e ↔
      e.problem = problem ∧ e.notes = [.step step.place] := fun problem => by
    obtain ⟨p, notes⟩ := e
    simp [eq_comm]
  rw [Scan.take]
  cases hlink : s.link us.length step.toStep with
  | error problem =>
    simp only [hfailed]
    have hbad := h.link_eq_error_iff.1 hlink
    refine and_congr_left fun _ => ⟨fun he => he ▸ .references hbad, fun hrefuses => ?_⟩
    cases hrefuses with
    | references hbad' =>
      exact Except.error.inj ((h.link_eq_error_iff.2 hbad').symm.trans hlink)
    | yields hreferences => exact absurd hbad (hreferences problem)
  | ok linked =>
    have hdeclared := (h.of_link hlink).1
    have hgood : ∀ problem, ¬ BadReference us step problem := by
      intro problem hbad
      rw [h.link_eq_error_iff.2 hbad] at hlink
      cases hlink
    have hyields : Refuses us step e.problem ↔ BadYield us step e.problem := by
      constructor
      · intro hrefuses
        cases hrefuses with
        | references hbad => exact absurd hbad (hgood _)
        | yields _ hbad => exact hbad
      · exact .yields hgood
    rw [hyields, ← h.foldlM_declare_eq_error_iff hdeclared]
    cases hdeclare : step.yields.foldlM (declare us.length step.place) linked with
    | error problem =>
      simp only [hdeclare, hfailed, Except.error.injEq]
      exact and_congr_left fun _ => eq_comm
    | ok s' => simp [hdeclare]

/-! ### Runs -/

theorem run_append {i : Nat} (h : s.run i us = (s', none)) (ws : List PlacedStep) :
    s.run i (us ++ ws) = s'.run (i + us.length) ws := by
  induction us generalizing s i with
  | nil =>
    obtain ⟨rfl, -⟩ := Prod.mk.inj h
    rfl
  | cons step us ih =>
    rw [run] at h
    rw [List.cons_append, run]
    split at h
    · rw [ih h, List.length_cons, Nat.add_assoc, Nat.add_comm 1]
    · cases h

/-- What comes behind a step that fails is not looked at. -/
theorem run_append_of_fault {i : Nat} (h : s.run i us = (s', some e)) (ws : List PlacedStep) :
    s.run i (us ++ ws) = (s', some e) := by
  obtain ⟨vs, step, rest, s₁, rfl, hvs, hstep⟩ := run_eq_error h
  rw [List.append_assoc, run_append hvs, List.cons_append, run, hstep]

theorem follows_of_consistent (h : Consistent us) : ∃ s, start.run 0 us = (s, none) ∧ Follows us s := by
  obtain ⟨hnone, hfollows⟩ := run_start us
  have hnone := hnone.2 h
  exact ⟨_, Prod.ext rfl hnone, hfollows hnone⟩

theorem run_start_eq_some_iff : (start.run 0 steps).2 = some e ↔ ∃ us step ws,
    steps = us ++ step :: ws ∧ Consistent us ∧ Refuses us step e.problem ∧
      e.notes = [.step step.place] := by
  constructor
  · intro h
    obtain ⟨us, step, ws, s₁, hsteps, hus, htake⟩ := run_eq_error (Prod.ext rfl h)
    have hfollows := follows_of_run hus
    rw [Nat.zero_add] at htake
    exact ⟨us, step, ws, hsteps, hfollows.consistent, hfollows.take_eq_some_iff.1 (by rw [htake])⟩
  · rintro ⟨us, step, ws, rfl, hus, hrefuses⟩
    obtain ⟨s, hrun, hfollows⟩ := follows_of_consistent hus
    have htake := hfollows.take_eq_some_iff.2 hrefuses
    rw [run_append hrun, Nat.zero_add, run]
    split
    · next heq => rw [heq] at htake; cases htake
    · next heq => rw [heq] at htake; exact htake

end Scan

/-- A step is refused exactly if it breaks a rule. -/
theorem exists_refuses_iff (h : Consistent us) :
    (∃ problem, Refuses us step problem) ↔ ¬ Consistent (us ++ [step]) := by
  obtain ⟨s, -, hfollows⟩ := Scan.follows_of_consistent h
  constructor
  · rintro ⟨problem, hrefuses⟩ hconsistent
    have htake : (s.take us.length step).2 = some ⟨problem, [.step step.place]⟩ :=
      hfollows.take_eq_some_iff.2 ⟨hrefuses, rfl⟩
    obtain ⟨s', hnone, -⟩ := hfollows.take hconsistent.fits
    rw [hnone] at htake
    cases htake
  · intro hbad
    cases htake : (s.take us.length step).2 with
    | none => exact absurd (h.concat (hfollows.fits htake)) hbad
    | some e => exact ⟨e.problem, (hfollows.take_eq_some_iff.1 htake).1⟩

/-- Linking fails in a run, or after it for a yield that is left over. -/
theorem fault_eq_some_iff : (build steps).fault = some e ↔ (Scan.start.run 0 steps).2 = some e ∨
    (Scan.start.run 0 steps).2 = none ∧ ∃ d, (Scan.start.run 0 steps).1.unused? = some d ∧
      (⟨.yieldUnused d.key, [.step d.place]⟩ : LoadError) = e := by
  rw [build]
  obtain ⟨s, fault⟩ := Scan.start.run 0 steps
  cases fault with
  | some e' => simp
  | none => cases hunused : s.unused? <;> simp [hunused]

/-- The yields before the one that is left over are used. -/
theorem Scan.Follows.unused?_eq_some_iff {s : Scan} (h : s.Follows steps) {d : Declared} :
    s.unused? = some d ↔ (∀ j, d.key ∉ referencesOf steps j) ∧ ∃ before after,
      declarations steps = before ++ d :: after ∧
        ∀ d' ∈ before, ∃ j, d'.key ∈ referencesOf steps j := by
  simp only [unused?, List.find?_eq_some_iff_append, h.declared_eq, h.mem_consumed,
    decide_eq_true_eq, not_exists, Bool.not_eq_true', decide_eq_false_iff_not, not_forall, not_not]

/-- An error is about the first step that breaks a rule, or about the first yield without use. -/
structure ReportsFirst (steps : List PlacedStep) (e : LoadError) (step : PlacedStep) : Prop where
  mem : step ∈ steps
  faults : Faults steps step e.problem
  notes : e.notes = [.step step.place]
  described : e.notes.map Note.describe = ["in step #" ++ toString (step.place.ordinal + 1) ++
    " of section #" ++ toString (step.place.sectionIndex + 1)]
  /-- Behind steps that break a rule there can be any others. -/
  stable : ∀ us ws, steps = us ++ ws → ¬ Consistent us → ∀ ws', (build (us ++ ws')).fault = some e

theorem fault_append_of_not_consistent (h : ¬ Consistent us) (ws ws' : List PlacedStep) :
    (build (us ++ ws)).fault = (build (us ++ ws')).fault := by
  have hfault : (Scan.start.run 0 us).2 ≠ none := mt (Scan.run_start us).1.1 h
  obtain ⟨e, he⟩ := Option.ne_none_iff_exists'.1 hfault
  have hrun : Scan.start.run 0 us = ((Scan.start.run 0 us).1, some e) := Prod.ext rfl he
  have hall : ∀ ws, (build (us ++ ws)).fault = some e := fun ws =>
    fault_eq_some_iff.2 (.inl (by rw [Scan.run_append_of_fault hrun ws]))
  rw [hall, hall]

theorem exists_faults_iff : (build steps).fault = some e ↔
    ∃ step ∈ steps, Faults steps step e.problem ∧ e.notes = [.step step.place] := by
  rw [fault_eq_some_iff]
  constructor
  · rintro (hrun | ⟨hrun, d, hunused, rfl⟩)
    · obtain ⟨us, step, ws, rfl, hus, hrefuses, hnotes⟩ := Scan.run_start_eq_some_iff.1 hrun
      exact ⟨step, by simp, .refused rfl hus ((exists_refuses_iff hus).1 ⟨_, hrefuses⟩) hrefuses, hnotes⟩
    · have hfollows := (Scan.run_start steps).2 hrun
      obtain ⟨hnone, before, after, hdeclarations, hbefore⟩ := hfollows.unused?_eq_some_iff.1 hunused
      have hd : d ∈ declarations steps := by simp [hdeclarations]
      obtain ⟨step, hstep, -, hplace⟩ := mem_declarations.1 hd
      refine ⟨step, List.mem_of_getElem? hstep,
        .unused hfollows.consistent hdeclarations hbefore hnone hstep, ?_⟩
      rw [hplace]
  · obtain ⟨problem, notes⟩ := e
    rintro ⟨step, -, hfaults, hnotes⟩
    cases hfaults with
    | refused hsteps hus _ hrefuses =>
      exact .inl (Scan.run_start_eq_some_iff.2 ⟨_, _, _, hsteps, hus, hrefuses, hnotes⟩)
    | @unused before after d step hsteps hdeclarations hbefore hnone hstep =>
      have hrun := (Scan.run_start steps).1.2 hsteps
      have hd : d ∈ declarations steps := by simp [hdeclarations]
      obtain ⟨step', hstep', -, hplace⟩ := mem_declarations.1 hd
      obtain rfl : step = step' := Option.some.inj (hstep.symm.trans hstep')
      refine .inr ⟨hrun, d, ?_, ?_⟩
      · exact ((Scan.run_start steps).2 hrun).unused?_eq_some_iff.2
          ⟨hnone, before, after, hdeclarations, hbefore⟩
      · rw [hplace, ← hnotes]

/-- Linking fails with an error exactly if it reports what is broken first. -/
theorem exists_reportsFirst_iff (steps : List PlacedStep) (e : LoadError) :
    (build steps).fault = some e ↔ ∃ step, ReportsFirst steps e step := by
  constructor
  · intro h
    obtain ⟨step, hstep, hfaults, hnotes⟩ := exists_faults_iff.1 h
    refine ⟨step, hstep, hfaults, hnotes, by rw [hnotes]; rfl, ?_⟩
    rintro us ws rfl hus ws'
    rw [fault_append_of_not_consistent hus ws' ws, h]
  · rintro ⟨step, h⟩
    exact exists_faults_iff.2 ⟨step, h.mem, h.faults, h.notes⟩

end RecipeBook.StepGraph
