import RecipeBook.Proofs.StepGraph.Scan

/-!
# What a scan of the steps knows

`Scan.Follows ps s`: after the steps `ps`, which are consistent, the scan `s` holds their starts,
their declarations, the names they refer to and their dependencies, each in the order of the
document. `Follows.take` says that a step that fits is taken and keeps this, and `Follows.fits` that
no other step is taken, so a run gets through exactly if all steps are consistent (`Follows.run`).
-/

namespace RecipeBook.StepGraph.Scan

/-- The scan holds the starts, the names referred to and the dependencies of the steps. -/
structure Links (steps : List PlacedStep) (s : Scan) : Prop where
  mem_roots : ∀ j, j ∈ s.roots ↔ IsStart steps j
  roots_sorted : s.roots.Pairwise (· < ·)
  mem_consumed : ∀ key, key ∈ s.consumed ↔ ∃ j, key ∈ referencesOf steps j
  mem_edges : ∀ i j, (i, j) ∈ s.edges ↔ Depends steps i j
  edges_sorted : s.edges.Pairwise (Before steps)

/-- The scan knows all there is to know about the steps, which are consistent. -/
structure Follows (steps : List PlacedStep) (s : Scan) : Prop extends Links steps s where
  consistent : Consistent steps
  declared_eq : s.declared = declarations steps

variable {ps : List PlacedStep} {step : PlacedStep} {s s' : Scan} {key : String} {i : Nat}

theorem Follows.start : Follows [] Scan.start where
  mem_roots _ := ⟨fun h => absurd h List.not_mem_nil, fun h => absurd h.lt (Nat.not_lt_zero _)⟩
  roots_sorted := .nil
  mem_consumed _ := ⟨fun h => absurd h List.not_mem_nil,
    fun ⟨_, h⟩ => absurd (lt_of_mem_referencesOf h) (Nat.not_lt_zero _)⟩
  mem_edges _ _ := ⟨fun h => absurd h List.not_mem_nil,
    fun h => absurd h.lt_length (Nat.not_lt_zero _)⟩
  edges_sorted := .nil
  consistent := .nil
  declared_eq := rfl

/-! ### Looking up a name -/

namespace Follows

theorem producer?_isSome_iff (h : Follows ps s) :
    (s.producer? key).isSome ↔ ∃ i, key ∈ yieldsOf ps i := by
  simp only [producer?, h.declared_eq, List.find?_isSome, decide_eq_true_eq]
  constructor
  · rintro ⟨d, hd, rfl⟩
    exact ⟨d.producer, key_mem_yieldsOf hd⟩
  · rintro ⟨i, hi⟩
    obtain ⟨d, hd, rfl, -⟩ := exists_mem_declarations hi
    exact ⟨d, hd, rfl⟩

theorem producer?_eq_none_iff (h : Follows ps s) :
    s.producer? key = none ↔ ∀ i, key ∉ yieldsOf ps i := by
  rw [← Option.not_isSome_iff_eq_none, h.producer?_isSome_iff, not_exists]

theorem producer?_eq_some_iff (h : Follows ps s) {d : Declared} :
    s.producer? key = some d ↔ d ∈ declarations ps ∧ d.key = key := by
  constructor
  · intro hd
    rw [producer?, h.declared_eq] at hd
    exact ⟨List.mem_of_find?_eq_some hd, by simpa using List.find?_some hd⟩
  · rintro ⟨hd, rfl⟩
    obtain ⟨d', hd'⟩ := Option.isSome_iff_exists.1
      (h.producer?_isSome_iff.2 ⟨d.producer, key_mem_yieldsOf hd⟩)
    have hkey : d'.key = d.key := by simpa using List.find?_some hd'
    have hmem : d' ∈ declarations ps := h.declared_eq ▸ List.mem_of_find?_eq_some hd'
    rw [hd', eq_of_mem_declarations h.consistent hmem hd hkey]

theorem sourceOf_eq_iff (h : Follows ps s) (hk : ∃ i, key ∈ yieldsOf ps i) :
    s.sourceOf key = i ↔ key ∈ yieldsOf ps i := by
  obtain ⟨d, hd⟩ := Option.isSome_iff_exists.1 (h.producer?_isSome_iff.2 hk)
  obtain ⟨hd', hkey⟩ := h.producer?_eq_some_iff.1 hd
  have hmem : key ∈ yieldsOf ps d.producer := hkey ▸ key_mem_yieldsOf hd'
  rw [sourceOf, hd, Option.map_some, Option.getD_some]
  exact ⟨fun he => he ▸ hmem, fun hi => h.consistent.unique _ _ key hmem hi⟩

end Follows

/-! ### One more step -/

/-- What a step adds when it is linked: whether it is a root, the names it refers to, and the steps it
depends on in the order of first use. -/
theorem Links.concat (h : Links ps s) (hc : Consistent (ps ++ [step]))
    (roots sources : List Nat) (keys : List String) (hroots : roots.Pairwise (· < ·))
    (hmem : ∀ j, j ∈ roots ↔ j = ps.length ∧ (ps.length = 0 ∨ step.independent))
    (hkeys : ∀ key, key ∈ keys ↔ key ∈ step.referenceKeys)
    (hsources : ∀ i, i ∈ sources ↔ Depends (ps ++ [step]) i ps.length)
    (hsorted : sources.Pairwise fun a b =>
      firstUse (ps ++ [step]) a ps.length < firstUse (ps ++ [step]) b ps.length) :
    Links (ps ++ [step]) { s with
      roots := s.roots ++ roots
      consumed := keys ++ s.consumed
      edges := s.edges ++ sources.map (·, ps.length) } where
  mem_roots j := by
    rw [List.mem_append, h.mem_roots, hmem, isStart_concat]
  roots_sorted := by
    refine List.pairwise_append.2 ⟨h.roots_sorted, hroots, fun i hi j hj => ?_⟩
    rw [((hmem j).1 hj).1]
    exact ((h.mem_roots i).1 hi).lt
  mem_consumed key := by
    rw [List.mem_append, h.mem_consumed, hkeys]
    simp only [mem_referencesOf_concat, exists_or, exists_eq_left, or_comm]
  mem_edges i j := by
    rw [List.mem_append, h.mem_edges, List.mem_map]
    constructor
    · rintro (hij | ⟨i, hi, he⟩)
      · exact (depends_concat_of_lt hc hij.lt_length).2 hij
      · cases he; exact (hsources i).1 hi
    · intro hij
      rcases lt_or_eq_of_lt_concat hij.lt_length with hj | rfl
      · exact .inl ((depends_concat_of_lt hc hj).1 hij)
      · exact .inr ⟨i, (hsources i).2 hij, rfl⟩
  edges_sorted := by
    refine List.pairwise_append.2 ⟨?_, ?_, ?_⟩
    · refine h.edges_sorted.imp_of_mem fun he he' hb => ?_
      exact (before_concat ((h.mem_edges _ _).1 he) ((h.mem_edges _ _).1 he') hc.of_append).2 hb
    · exact List.pairwise_map.2 (hsorted.imp fun hab => .inr ⟨rfl, hab⟩)
    · rintro ⟨i, j⟩ he e' he'
      obtain ⟨i', -, rfl⟩ := List.mem_map.1 he'
      exact .inl ((h.mem_edges i j).1 he).lt_length

namespace Follows

/-- Steps are compared by first use as their places in the list of sources. -/
theorem firstUse_eq_idxOf (h : Follows ps s) (hf : Fits ps step) (hi : i < ps.length) :
    firstUse (ps ++ [step]) i ps.length = (step.referenceKeys.map s.sourceOf).idxOf i := by
  rw [firstUse, referencesOf_concat_length, yieldsOf_append _ hi, List.idxOf, List.findIdx_map]
  have hkey : ∀ key ∈ step.referenceKeys, s.sourceOf key = i ↔ key ∈ yieldsOf ps i :=
    fun key hk => h.sourceOf_eq_iff (hf.resolved key hk)
  refine Nat.le_antisymm (List.findIdx_le_findIdx fun key hk he => ?_)
    (List.findIdx_le_findIdx fun key hk he => ?_)
  · simpa using (hkey key hk).1 (by simpa using he)
  · simpa using (hkey key hk).2 (by simpa using he)

theorem mem_sources_iff (h : Follows ps s) (hf : Fits ps step) (hr : step.references ≠ []) :
    i ∈ step.referenceKeys.map s.sourceOf ↔ Depends (ps ++ [step]) i ps.length := by
  have hne : referencesOf (ps ++ [step]) ps.length ≠ [] := by
    rw [referencesOf_concat_length]; exact mt referenceKeys_eq_nil.1 hr
  rw [List.mem_map, Depends, referencesOf_concat_length] at *
  constructor
  · rintro ⟨key, hkey, he⟩
    have hi := (h.sourceOf_eq_iff (hf.resolved key hkey)).1 he
    exact .inr ⟨key, hkey, mem_yieldsOf_concat.2 (.inl hi)⟩
  · rintro (⟨-, -, -, hnil⟩ | ⟨key, hkey, hi⟩)
    · exact absurd hnil hne
    · -- a step that fits yields nothing that it refers to
      rcases mem_yieldsOf_concat.1 hi with hold | ⟨-, hnew⟩
      · exact ⟨key, hkey, (h.sourceOf_eq_iff (hf.resolved key hkey)).2 hold⟩
      · obtain ⟨i', hi'⟩ := hf.resolved key hkey
        exact absurd hi' (hf.fresh key hnew i')

/-- A start becomes a root. -/
theorem links_start (h : Follows ps s) (hf : Fits ps step)
    (hstart : ps.length = 0 ∨ step.independent) :
    Links (ps ++ [step]) { s with roots := s.roots ++ [ps.length] } := by
  have hc := h.consistent.concat hf
  have hnone := (isStart_iff_forall_not_depends hc (by simp)).1 (isStart_concat_length.2 hstart)
  have := h.toLinks.concat hc [ps.length] [] [] (List.pairwise_singleton _ _)
    (fun j => List.mem_singleton.trans (and_iff_left hstart).symm)
    (fun key => by rw [referenceKeys_eq_nil.2 (hf.start hstart)])
    (fun i => iff_of_false List.not_mem_nil (hnone i)) .nil
  simpa using this

/-- A step that refers to nothing follows the step before it. -/
theorem links_next (h : Follows ps s) (hf : Fits ps step)
    (hstart : ¬ (ps.length = 0 ∨ step.independent)) (hr : step.references = []) :
    Links (ps ++ [step]) { s with edges := s.edges ++ [(ps.length - 1, ps.length)] } := by
  have hc := h.consistent.concat hf
  have hpos : ps.length ≠ 0 := fun h0 => hstart (.inl h0)
  have hkeys := referenceKeys_eq_nil.2 hr
  have hmem : ∀ i, i ∈ [ps.length - 1] ↔ Depends (ps ++ [step]) i ps.length := by
    intro i
    rw [Depends, isStart_concat_length, referencesOf_concat_length, hkeys, List.mem_singleton]
    constructor
    · rintro rfl
      exact .inl ⟨by omega, by simp, hstart, rfl⟩
    · rintro (⟨hi, -⟩ | ⟨key, hkey, -⟩)
      · omega
      · exact absurd hkey List.not_mem_nil
  have := h.toLinks.concat hc [] [ps.length - 1] [] .nil
    (fun j => iff_of_false List.not_mem_nil fun hj => hstart hj.2) (fun key => by rw [hkeys]) hmem
    (List.pairwise_singleton _ _)
  simpa using this

/-- A step that refers to yields depends on the steps that declare them. -/
theorem links_referred (h : Follows ps s) (hf : Fits ps step)
    (hstart : ¬ (ps.length = 0 ∨ step.independent)) (hr : step.references ≠ []) :
    Links (ps ++ [step]) (s.referred ps.length step.referenceKeys) := by
  have hc := h.consistent.concat hf
  have hmem : ∀ i, i ∈ (step.referenceKeys.map s.sourceOf).eraseDups ↔
      Depends (ps ++ [step]) i ps.length :=
    fun i => List.mem_eraseDups.trans (h.mem_sources_iff hf hr)
  have hsorted : (step.referenceKeys.map s.sourceOf).eraseDups.Pairwise fun a b =>
      firstUse (ps ++ [step]) a ps.length < firstUse (ps ++ [step]) b ps.length := by
    refine (pairwise_idxOf_eraseDups _).imp_of_mem fun ha hb hab => ?_
    rw [h.firstUse_eq_idxOf hf (((hmem _).1 ha).lt hc),
      h.firstUse_eq_idxOf hf (((hmem _).1 hb).lt hc)]
    exact hab
  have := h.toLinks.concat hc [] _ step.referenceKeys.reverse .nil
    (fun j => iff_of_false List.not_mem_nil fun hj => hstart hj.2) (fun key => List.mem_reverse) hmem
    hsorted
  rwa [List.append_nil] at this

/-- Edges found so far lead to earlier steps. -/
theorem edge_ne (h : Follows ps s) : ∀ e ∈ s.edges, e.2 ≠ ps.length := by
  rintro ⟨i, j⟩ he
  exact Nat.ne_of_lt ((h.mem_edges i j).1 he).lt_length

/-- A step that fits is linked. -/
theorem link (h : Follows ps s) (hf : Fits ps step) : ∃ s', s.link ps.length step.toStep = .ok s' ∧
    Links (ps ++ [step]) s' ∧ s'.declared = s.declared := by
  by_cases hstart : ps.length = 0 ∨ step.independent
  · refine ⟨_, ?_, h.links_start hf hstart, rfl⟩
    rw [Scan.link, if_pos hstart, if_pos (hf.start hstart)]
  by_cases hr : step.references = []
  · refine ⟨_, ?_, h.links_next hf hstart hr, rfl⟩
    rw [Scan.link, if_neg hstart, if_pos hr]
  · refine ⟨_, ?_, h.links_referred hf hstart hr, rfl⟩
    rw [Scan.link, if_neg hstart, if_neg hr]
    refine (foldlM_refer_eq_ok_iff h.edge_ne _).2 ⟨fun name hname => ?_, rfl⟩
    exact h.producer?_isSome_iff.2 (hf.resolved _ (List.mem_map_of_mem hname))

/-- What is linked keeps the rules about references. -/
theorem of_link (h : Follows ps s) (hl : s.link ps.length step.toStep = .ok s') :
    s'.declared = s.declared ∧ (ps.length = 0 ∨ step.independent → step.references = []) ∧
      ∀ key ∈ step.referenceKeys, ∃ i, key ∈ yieldsOf ps i := by
  have hnone (hr : step.references = []) : ∀ key ∈ step.referenceKeys, ∃ i, key ∈ yieldsOf ps i := by
    rw [referenceKeys_eq_nil.2 hr]
    exact fun key hkey => absurd hkey List.not_mem_nil
  rw [Scan.link] at hl
  split at hl
  · split at hl
    · next hr =>
      cases hl
      exact ⟨rfl, fun _ => hr, hnone hr⟩
    · split at hl <;> cases hl
  · next hstart =>
    split at hl
    · next hr =>
      cases hl
      exact ⟨rfl, fun _ => hr, hnone hr⟩
    · obtain ⟨hall, rfl⟩ := (foldlM_refer_eq_ok_iff h.edge_ne _).1 hl
      refine ⟨rfl, fun h0 => absurd h0 hstart, fun key hkey => ?_⟩
      obtain ⟨name, hname, rfl⟩ := List.mem_map.1 hkey
      exact h.producer?_isSome_iff.1 (hall name hname)

/-! ### Taking steps -/

theorem producer?_of_declared_eq (h : Follows ps s) (hd : s'.declared = s.declared) :
    s'.producer? key = none ↔ ∀ i, key ∉ yieldsOf ps i := by
  rw [← h.producer?_eq_none_iff, producer?, hd, producer?]

/-- A step that fits is taken. -/
theorem take (h : Follows ps s) (hf : Fits ps step) :
    ∃ s', s.take ps.length step = (s', none) ∧ Follows (ps ++ [step]) s' := by
  obtain ⟨s₁, hl, hlinks, hd⟩ := h.link hf
  have hfold : step.yields.foldlM (declare ps.length step.place) s₁ =
      .ok (s₁.declaring ps.length step.place step.yieldKeys) :=
    (foldlM_declare_eq_ok_iff _).2
      ⟨⟨hf.distinct, fun key hkey => (h.producer?_of_declared_eq hd).2 (hf.fresh key hkey)⟩, rfl⟩
  refine ⟨s₁.declaring ps.length step.place step.yieldKeys, ?_, ?_⟩
  · simp only [Scan.take, hl, hfold]
  · exact {
      toLinks := ⟨hlinks.mem_roots, hlinks.roots_sorted, hlinks.mem_consumed, hlinks.mem_edges,
        hlinks.edges_sorted⟩
      consistent := h.consistent.concat hf
      declared_eq := by rw [declarations_concat, declaring, hd, h.declared_eq] }

/-- A step that is taken fits. -/
theorem fits (h : Follows ps s) (ht : (s.take ps.length step).2 = none) : Fits ps step := by
  rw [Scan.take] at ht
  split at ht
  · cases ht
  · next s₁ hl =>
    obtain ⟨hd, hstart, hres⟩ := h.of_link hl
    split at ht
    · cases ht
    · next s₂ hfold =>
      obtain ⟨⟨hnd, hall⟩, -⟩ := (foldlM_declare_eq_ok_iff _).1 hfold
      exact ⟨hstart, hres, hnd, fun key hkey => (h.producer?_of_declared_eq hd).1 (hall key hkey)⟩

/-- A run gets through exactly if all steps are consistent, and then knows all of them. -/
theorem run (h : Follows ps s) (rest : List PlacedStep) :
    ((s.run ps.length rest).2 = none ↔ Consistent (ps ++ rest)) ∧
      ((s.run ps.length rest).2 = none → Follows (ps ++ rest) (s.run ps.length rest).1) := by
  induction rest generalizing ps s with
  | nil =>
    rw [List.append_nil]
    exact ⟨iff_of_true rfl h.consistent, fun _ => h⟩
  | cons step rest ih =>
    have happ : ps ++ step :: rest = (ps ++ [step]) ++ rest := by simp
    rw [Scan.run, happ]
    cases ht : s.take ps.length step with
    | mk s₁ fault =>
      cases fault with
      | none =>
        obtain ⟨s₂, ht', hs⟩ := h.take (h.fits (by rw [ht]))
        cases ht.symm.trans ht'
        simpa using ih hs
      | some e =>
        -- if all steps were consistent, this one would fit and be taken
        have hbad : ¬ Consistent ((ps ++ [step]) ++ rest) := fun hc => by
          obtain ⟨s₂, ht', -⟩ := h.take hc.of_append.fits
          cases ht.symm.trans ht'
        exact ⟨iff_of_false (by simp) hbad, fun hn => by cases hn⟩

end Follows

end RecipeBook.StepGraph.Scan
