import RecipeBook.Proofs.FirstOccurrence
import RecipeBook.Proofs.StepGraph.Depends

/-!
# What the names of one step do to a scan

The references of a step are taken one by one, and so are its yields. `foldlM_refer_eq_ok_iff` and
`foldlM_declare_eq_ok_iff` say when all of them are accepted, and what they add up to: `referred`
and `declaring`. `declarations` is what the yields of all steps add up to.
-/

namespace RecipeBook.StepGraph

/-- Every yield of some steps with the step that declares it, in the order of declaration. -/
def declarations (steps : List PlacedStep) : List Declared :=
  steps.zipIdx.flatMap fun (step, i) => step.yieldKeys.map fun key => ⟨key, i, step.place⟩

variable {ps : List PlacedStep} {step : PlacedStep} {key : String}

theorem declarations_concat : declarations (ps ++ [step]) =
    declarations ps ++ step.yieldKeys.map fun key => ⟨key, ps.length, step.place⟩ := by
  simp [declarations, List.zipIdx_append]

theorem mem_declarations {d : Declared} : d ∈ declarations ps ↔
    ∃ step, ps[d.producer]? = some step ∧ d.key ∈ step.yieldKeys ∧ d.place = step.place := by
  simp only [declarations, List.mem_flatMap, List.mem_map, Prod.exists, List.mem_zipIdx_iff_getElem?]
  constructor
  · rintro ⟨step, i, hs, key, hkey, rfl⟩
    exact ⟨step, hs, hkey, rfl⟩
  · rintro ⟨step, hs, hkey, hp⟩
    exact ⟨step, d.producer, hs, d.key, hkey, by rw [← hp]⟩

theorem key_mem_yieldsOf {d : Declared} (h : d ∈ declarations ps) : d.key ∈ yieldsOf ps d.producer := by
  obtain ⟨step, hs, hkey, -⟩ := mem_declarations.1 h
  rwa [yieldsOf, hs]

theorem exists_mem_declarations {i : Nat} (h : key ∈ yieldsOf ps i) :
    ∃ d ∈ declarations ps, d.key = key ∧ d.producer = i := by
  have hi := List.getElem?_eq_getElem (lt_of_mem_yieldsOf h)
  rw [yieldsOf, hi] at h
  exact ⟨⟨key, i, _⟩, mem_declarations.2 ⟨_, hi, h, rfl⟩, rfl, rfl⟩

/-- A yield has one producer, and that has one place. -/
theorem eq_of_mem_declarations {d d' : Declared} (hc : Consistent ps) (hd : d ∈ declarations ps)
    (hd' : d' ∈ declarations ps) (hkey : d.key = d'.key) : d = d' := by
  have hproducer : d.producer = d'.producer :=
    hc.unique _ _ d.key (key_mem_yieldsOf hd) (hkey ▸ key_mem_yieldsOf hd')
  obtain ⟨step, hstep, -, hplace⟩ := mem_declarations.1 hd
  obtain ⟨step', hstep', -, hplace'⟩ := mem_declarations.1 hd'
  rw [hproducer, hstep'] at hstep
  obtain rfl := Option.some.inj hstep
  cases d
  cases d'
  simp only at hkey hproducer hplace hplace'
  rw [hkey, hproducer, hplace, hplace']

namespace Scan

variable {s s' : Scan} {i : Nat} {place : Place} {problem : Problem}

theorem foldlM_concat_eq_ok_iff {α β ε : Type} {f : β → α → Except ε β} {l : List α} {a : α}
    {b c : β} : (l ++ [a]).foldlM f b = .ok c ↔ ∃ b', l.foldlM f b = .ok b' ∧ f b' a = .ok c := by
  simp only [List.foldlM_append, List.foldlM_cons, List.foldlM_nil, bind_pure]
  cases l.foldlM f b <;> simp [bind, Except.bind]

/-- The first element that fails is behind some that do not. -/
theorem foldlM_eq_error_iff {α β ε : Type} {f : β → α → Except ε β} {l : List α} {b : β}
    {e : ε} : l.foldlM f b = .error e ↔ ∃ before a after b', l = before ++ a :: after ∧
      before.foldlM f b = .ok b' ∧ f b' a = .error e := by
  constructor
  · intro h
    induction l generalizing b with
    | nil => cases h
    | cons x l ih =>
      rw [List.foldlM_cons] at h
      cases hx : f b x with
      | error e' =>
        rw [hx] at h
        obtain rfl : e' = e := Except.error.inj h
        exact ⟨[], x, l, b, rfl, rfl, hx⟩
      | ok b₁ =>
        rw [hx] at h
        obtain ⟨before, a, after, b', rfl, hbefore, ha⟩ := ih h
        refine ⟨x :: before, a, after, b', rfl, ?_, ha⟩
        rw [List.foldlM_cons, hx]
        exact hbefore
  · rintro ⟨before, a, after, b', rfl, hbefore, ha⟩
    rw [List.foldlM_append, hbefore]
    show List.foldlM f b' (a :: after) = _
    rw [List.foldlM_cons, ha]
    rfl

/-! ### The references of one step -/

/-- The step that declares a name. -/
def sourceOf (s : Scan) (key : String) : Nat := ((s.producer? key).map Declared.producer).getD 0

/-- The scan after step `i` has referred to the names `keys`. -/
def referred (s : Scan) (i : Nat) (keys : List String) : Scan :=
  { s with
    consumed := keys.reverse ++ s.consumed
    edges := s.edges ++ (keys.map s.sourceOf).eraseDups.map (·, i) }

theorem refer_of_producer {d : Declared} {name : String} (h : s.producer? (nameKey name) = some d) :
    refer i s name = .ok { s with
      consumed := nameKey name :: s.consumed
      edges := if (d.producer, i) ∈ s.edges then s.edges else s.edges ++ [(d.producer, i)] } := by
  simp only [refer, h]

theorem refer_eq_error_iff {name : String} : refer i s name = .error problem ↔
    s.producer? (nameKey name) = none ∧ .unknownReference name
      (Similarity.closeMatches (nameKey name) (s.declared.map Declared.key)) = problem := by
  cases h : s.producer? (nameKey name) <;> simp [refer, h]

theorem refer_referred (hi : ∀ e ∈ s.edges, e.2 ≠ i) (keys : List String) (name : String) :
    refer i (s.referred i keys) name = .ok s' ↔
      (s.producer? (nameKey name)).isSome ∧ s.referred i (keys ++ [nameKey name]) = s' := by
  have hp : (s.referred i keys).producer? (nameKey name) = s.producer? (nameKey name) := rfl
  cases hd : s.producer? (nameKey name) with
  | none => simp [refer, hp.trans hd]
  | some d =>
    have hsrc : s.sourceOf (nameKey name) = d.producer := by rw [sourceOf, hd]; rfl
    have hmem : (d.producer, i) ∈ (s.referred i keys).edges ↔ d.producer ∈ keys.map s.sourceOf := by
      simp only [referred, List.mem_append, List.mem_map, Prod.mk.injEq, and_true, exists_eq_right,
        List.mem_eraseDups]
      exact or_iff_right fun h => hi _ h rfl
    rw [refer_of_producer (hp.trans hd), Except.ok.injEq]
    by_cases hold : d.producer ∈ keys.map s.sourceOf
    · rw [if_pos (hmem.2 hold)]
      simp [referred, hsrc, eraseDups_concat_of_mem hold]
    · rw [if_neg (mt hmem.1 hold)]
      simp [referred, hsrc, eraseDups_concat_of_not_mem hold]

theorem foldlM_refer_eq_ok_iff (hi : ∀ e ∈ s.edges, e.2 ≠ i) (names : List String) :
    names.foldlM (refer i) s = .ok s' ↔
      (∀ name ∈ names, (s.producer? (nameKey name)).isSome) ∧
        s.referred i (names.map nameKey) = s' := by
  induction names using List.reverseRecOn generalizing s' with
  | nil => simp [referred, pure, Except.pure]
  | append_singleton names name ih =>
    simp only [foldlM_concat_eq_ok_iff, ih, List.forall_mem_append, List.forall_mem_singleton,
      List.map_append, List.map_singleton]
    constructor
    · rintro ⟨_, ⟨hall, rfl⟩, h⟩
      obtain ⟨hname, rfl⟩ := (refer_referred hi _ name).1 h
      exact ⟨⟨hall, hname⟩, rfl⟩
    · rintro ⟨⟨hall, hname⟩, rfl⟩
      exact ⟨_, ⟨hall, rfl⟩, (refer_referred hi _ name).2 ⟨hname, rfl⟩⟩

/-! ### The yields of one step -/

/-- The scan after step `i` has declared the names `keys`. -/
def declaring (s : Scan) (i : Nat) (place : Place) (keys : List String) : Scan :=
  { s with declared := s.declared ++ keys.map fun key => ⟨key, i, place⟩ }

theorem producer?_declaring_eq_none {keys : List String} :
    (s.declaring i place keys).producer? key = none ↔ s.producer? key = none ∧ key ∉ keys := by
  simp only [producer?, declaring, List.find?_eq_none, List.forall_mem_append, List.forall_mem_map,
    decide_eq_true_eq]
  exact and_congr_right fun _ => ⟨fun h hkey => h key hkey rfl, fun h k hk he => h (he ▸ hk)⟩

theorem declare_eq_ok_iff {name : String} : declare i place s name = .ok s' ↔
    s.producer? (nameKey name) = none ∧ s.declaring i place [nameKey name] = s' := by
  cases h : s.producer? (nameKey name) with
  | none => simp only [declare, h, declaring, List.map_singleton, Except.ok.injEq, true_and]
  | some d => simp only [declare, h, reduceCtorEq, false_and]

theorem declare_eq_error_iff {name : String} :
    declare i place s name = .error problem ↔
      ∃ d, s.producer? (nameKey name) = some d ∧ .yieldRedeclared (nameKey name) d.place = problem := by
  cases h : s.producer? (nameKey name) <;> simp [declare, h]

theorem foldlM_declare_eq_ok_iff (names : List String) :
    names.foldlM (declare i place) s = .ok s' ↔
      ((names.map nameKey).Nodup ∧ ∀ key ∈ names.map nameKey, s.producer? key = none) ∧
        s.declaring i place (names.map nameKey) = s' := by
  induction names using List.reverseRecOn generalizing s' with
  | nil => simp [declaring, pure, Except.pure]
  | append_singleton names name ih =>
    have hmore : (s.declaring i place (names.map nameKey)).declaring i place [nameKey name] =
        s.declaring i place (names.map nameKey ++ [nameKey name]) := by
      simp [declaring]
    simp only [foldlM_concat_eq_ok_iff, ih, declare_eq_ok_iff, List.map_append, List.map_singleton,
      nodup_concat_iff, List.forall_mem_append, List.forall_mem_singleton]
    constructor
    · rintro ⟨_, ⟨⟨hnd, hall⟩, rfl⟩, hname, rfl⟩
      obtain ⟨hname, hnew⟩ := producer?_declaring_eq_none.1 hname
      exact ⟨⟨⟨hnew, hnd⟩, hall, hname⟩, hmore.symm⟩
    · rintro ⟨⟨⟨hnew, hnd⟩, hall, hname⟩, rfl⟩
      exact ⟨_, ⟨⟨hnd, hall⟩, rfl⟩, producer?_declaring_eq_none.2 ⟨hname, hnew⟩, hmore⟩

end Scan
end RecipeBook.StepGraph
