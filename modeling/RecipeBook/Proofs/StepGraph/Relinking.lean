import RecipeBook.Proofs.StepGraph.Failure
import RecipeBook.Proofs.StepGraph.Linked

/-!
# Linking steps again

A `LiveRecipe` keeps with each step what it depends on and what depends on it, and is linked in
place: the lists of an earlier attempt are cleared, roots are added while the steps are looked at,
and the other lists grow edge by edge once all steps are through. `relink_eq` says that this comes to
the graph that `StepGraph.build` computes from the steps, whatever was there before. So neither
earlier attempts nor edits in between leave anything behind.
-/

namespace RecipeBook

/-- A step with its links. -/
structure LinkedStep extends PlacedStep where
  /-- The steps that it depends on. -/
  inputs : List Nat
  /-- The steps that depend on it. -/
  outputs : List Nat

def LinkedStep.withLinks (s : LinkedStep) (inputs outputs : List Nat) : LinkedStep :=
  { s with inputs, outputs }

structure LiveRecipe where
  metadata : Metadata
  sections : List Section
  steps : List LinkedStep
  totals : Totals
  roots : List Nat

namespace LiveRecipe

/-- The steps, less their links. -/
def plain (r : LiveRecipe) : List PlacedStep := r.steps.map LinkedStep.toPlacedStep

def clear (r : LiveRecipe) : LiveRecipe :=
  { r with
    steps := r.steps.map fun s => s.withLinks [] []
    roots := [] }

/-- Adds an edge to the lists at both ends. -/
def connect (r : LiveRecipe) (edge : Nat × Nat) : LiveRecipe :=
  { r with
    steps := (r.steps.modify edge.1 fun s => s.withLinks s.inputs (s.outputs ++ [edge.2])).modify
      edge.2 fun s => s.withLinks (s.inputs ++ [edge.1]) s.outputs }

/-- Links the steps in place. A failed attempt leaves the roots that it has found. -/
def relink (r : LiveRecipe) : LiveRecipe × Option LoadError :=
  let r := r.clear
  match StepGraph.Scan.run { StepGraph.Scan.start with roots := r.roots } 0 r.plain with
  | (s, some e) => ({ r with roots := s.roots }, some e)
  | (s, none) =>
    match s.unused? with
    | some d => ({ r with roots := s.roots }, some ⟨.yieldUnused d.key, [.step d.place]⟩)
    | none => (s.edges.foldl connect { r with roots := s.roots }, none)

/-- The recipe with the links of a graph. -/
def showing (r : LiveRecipe) (g : StepGraph) : LiveRecipe :=
  { r with
    steps := r.steps.mapIdx fun i s => s.withLinks (g.inputs i) (g.outputs i)
    roots := g.roots }

/-- What can be changed about a step between two attempts. -/
inductive Edit
  | independent (value : Bool)
  | internal (names : List String)
  | hidden (names : List String)
  | yields (names : List String)

def Edit.apply (e : Edit) (s : PlacedStep) : PlacedStep :=
  match e with
  | independent value => { s with independent := value }
  | internal names => { s with internal := names }
  | hidden names => { s with hidden := names }
  | yields names => { s with yields := names }

inductive Action
  | edit (i : Nat) (e : Edit)
  | link

def act (r : LiveRecipe) : Action → LiveRecipe
  | .edit i e =>
    { r with steps := r.steps.modify i fun s => { s with toPlacedStep := e.apply s.toPlacedStep } }
  | .link => r.relink.1

/-- The recipe after some edits and attempts to link its steps. -/
def after (r : LiveRecipe) (actions : List Action) : LiveRecipe := actions.foldl act r

def editPlain (steps : List PlacedStep) : Action → List PlacedStep
  | .edit i e => steps.modify i e.apply
  | .link => steps

variable {r : LiveRecipe} {edges : List (Nat × Nat)} {i : Nat}

/-! ### Edge by edge -/

theorem getElem?_connect (r : LiveRecipe) (edge : Nat × Nat) (i : Nat) :
    (r.connect edge).steps[i]? = r.steps[i]?.map fun s =>
      s.withLinks (s.inputs ++ if edge.2 = i then [edge.1] else [])
        (s.outputs ++ if edge.1 = i then [edge.2] else []) := by
  rw [connect, List.getElem?_modify, List.getElem?_modify]
  cases r.steps[i]? with
  | none => rfl
  | some s =>
    show some _ = some _
    by_cases hfrom : edge.1 = i <;> by_cases hto : edge.2 = i <;>
      simp [hfrom, hto, LinkedStep.withLinks]

theorem getElem?_foldl_connect (r : LiveRecipe) (edges : List (Nat × Nat)) (i : Nat) :
    (edges.foldl connect r).steps[i]? = r.steps[i]?.map fun s =>
      s.withLinks (s.inputs ++ (edges.filter (·.2 = i)).map Prod.fst)
        (s.outputs ++ (edges.filter (·.1 = i)).map Prod.snd) := by
  induction edges generalizing r with
  | nil =>
    cases h : r.steps[i]? <;> simp [h, LinkedStep.withLinks]
  | cons edge edges ih =>
    rw [List.foldl_cons, ih, getElem?_connect]
    cases r.steps[i]? with
    | none => rfl
    | some s =>
      by_cases hfrom : edge.1 = i <;> by_cases hto : edge.2 = i <;>
        simp [hfrom, hto, LinkedStep.withLinks]

theorem foldl_connect_eq (r : LiveRecipe) (edges : List (Nat × Nat)) :
    edges.foldl connect r = { r with steps := (edges.foldl connect r).steps } := by
  induction edges generalizing r with
  | nil => rfl
  | cons edge edges ih =>
    rw [List.foldl_cons, ih]
    rfl

/-- Edges that are added to a recipe without any make up the links of their graph. -/
theorem foldl_connect_clear (r : LiveRecipe) (edges : List (Nat × Nat)) (roots : List Nat) :
    edges.foldl connect { r.clear with roots } = r.showing ⟨edges, roots⟩ := by
  rw [foldl_connect_eq]
  have hsteps : (edges.foldl connect { r.clear with roots }).steps =
      (r.showing ⟨edges, roots⟩).steps := by
    refine List.ext_getElem? fun i => ?_
    rw [getElem?_foldl_connect, showing, List.getElem?_mapIdx]
    show (r.steps.map _)[i]?.map _ = _
    rw [List.getElem?_map]
    cases r.steps[i]? <;> rfl
  rw [hsteps]
  rfl

/-! ### One attempt -/

theorem plain_clear (r : LiveRecipe) : r.clear.plain = r.plain := by
  rw [plain, clear, List.map_map]
  rfl

theorem plain_showing (r : LiveRecipe) (g : StepGraph) : (r.showing g).plain = r.plain := by
  refine List.ext_getElem? fun i => ?_
  rw [plain, plain, List.getElem?_map, List.getElem?_map, showing, List.getElem?_mapIdx]
  cases r.steps[i]? <;> rfl

/-- Linking in place gives each step the links that the graph of the steps has for it, whatever
links there were. -/
theorem relink_eq (r : LiveRecipe) :
    r.relink = (r.showing (StepGraph.build r.plain).graph, (StepGraph.build r.plain).fault) := by
  have hcleared : ∀ roots, { r.clear with roots } = r.showing ⟨[], roots⟩ :=
    fun roots => foldl_connect_clear r [] roots
  -- the scan begins without roots, as they have been cleared, and looks at the steps only
  rw [relink, StepGraph.build]
  show (match StepGraph.Scan.start.run 0 r.clear.plain with | (s, some e) => _ | (s, none) => _) = _
  rw [plain_clear]
  cases StepGraph.Scan.start.run 0 r.plain with
  | mk s fault =>
    cases fault with
    | some e => exact Prod.ext (hcleared s.roots) rfl
    | none =>
      simp only
      cases s.unused? with
      | some d => exact Prod.ext (hcleared s.roots) rfl
      | none => exact Prod.ext (foldl_connect_clear r s.edges s.roots) rfl

def links (r : LiveRecipe) : List (List Nat × List Nat) × List Nat :=
  (r.steps.map fun s => (s.inputs, s.outputs), r.roots)

theorem links_showing (r : LiveRecipe) (g : StepGraph) : (r.showing g).links =
    (r.plain.mapIdx fun i _ => (g.inputs i, g.outputs i), g.roots) := by
  refine Prod.ext (List.ext_getElem? fun i => ?_) rfl
  rw [links, showing, plain, List.getElem?_map, List.getElem?_mapIdx, List.getElem?_mapIdx,
    List.getElem?_map]
  cases r.steps[i]? <;> rfl

theorem showing_showing (r : LiveRecipe) (g g' : StepGraph) : (r.showing g).showing g' = r.showing g' := by
  have hsteps : ((r.showing g).showing g').steps = (r.showing g').steps := by
    refine List.ext_getElem? fun i => ?_
    rw [showing, showing, showing, List.getElem?_mapIdx, List.getElem?_mapIdx, List.getElem?_mapIdx]
    cases r.steps[i]? <;> rfl
  show { r.showing g' with steps := ((r.showing g).showing g').steps } = r.showing g'
  rw [hsteps]

/-- An attempt to link the steps depends on the steps alone, and changes nothing but links. -/
structure LinksAfresh (r : LiveRecipe) : Prop where
  graph_eq : r.relink =
    (r.showing (StepGraph.build r.plain).graph, (StepGraph.build r.plain).fault)
  clear_eq : r.relink = r.clear.relink
  links_eq : ∀ r' : LiveRecipe, r'.plain = r.plain →
    r'.relink.1.links = r.relink.1.links ∧ r'.relink.2 = r.relink.2
  /-- A failed attempt leaves no links, and the roots found before the step that fails. -/
  failed : ∀ e, r.relink.2 = some e →
    (∀ s ∈ r.relink.1.steps, s.inputs = [] ∧ s.outputs = []) ∧
      StepGraph.Fails r.plain e r.relink.1.roots
  plain_eq : r.relink.1.plain = r.plain
  metadata_eq : r.relink.1.metadata = r.metadata
  sections_eq : r.relink.1.sections = r.sections
  totals_eq : r.relink.1.totals = r.totals

theorem linksAfresh (r : LiveRecipe) : r.LinksAfresh where
  graph_eq := relink_eq r
  clear_eq := by
    have hclear : r.clear = r.showing .empty := foldl_connect_clear r [] []
    rw [relink_eq, relink_eq, plain_clear, hclear, showing_showing]
  links_eq r' h := by
    rw [relink_eq, relink_eq, h]
    exact ⟨by rw [links_showing, links_showing, h], rfl⟩
  failed e h := by
    rw [relink_eq] at h ⊢
    obtain ⟨hfails, hedges⟩ := StepGraph.fails_of_fault h
    refine ⟨fun s hs => ?_, hfails⟩
    obtain ⟨i, hi, rfl⟩ := List.mem_mapIdx.1 hs
    simp [LinkedStep.withLinks, StepGraph.inputs, StepGraph.outputs, hedges]
  plain_eq := by rw [relink_eq, plain_showing]
  metadata_eq := by rw [relink_eq]; rfl
  sections_eq := by rw [relink_eq]; rfl
  totals_eq := by rw [relink_eq]; rfl

/-! ### Attempts and edits -/

/-- The recipe with the links that its graph has for each step. -/
def ofRecipe (r : Recipe) : LiveRecipe :=
  let bare : LiveRecipe :=
    ⟨r.metadata, r.sections, r.steps.map fun s => ⟨s, [], []⟩, r.totals, []⟩
  bare.showing r.graph

theorem plain_ofRecipe (r : Recipe) : (ofRecipe r).plain = r.steps := by
  rw [ofRecipe, plain_showing, plain, List.map_map]
  exact List.map_id _

theorem relink_ofRecipe (r : Recipe) :
    (ofRecipe r).relink = (ofRecipe r.relink.1, r.relink.2) := by
  rw [relink_eq, plain_ofRecipe]
  exact Prod.ext (showing_showing _ r.graph (StepGraph.build r.steps).graph) rfl

theorem plain_act (r : LiveRecipe) (a : Action) : (r.act a).plain = editPlain r.plain a := by
  cases a with
  | edit i e =>
    refine List.ext_getElem? fun j => ?_
    rw [editPlain, List.getElem?_modify, plain, act, plain, List.getElem?_map, List.getElem?_map,
      List.getElem?_modify]
    cases r.steps[j]? with
    | none => rfl
    | some s => by_cases h : i = j <;> simp [h]
  | link => exact (linksAfresh r).plain_eq

theorem plain_after (r : LiveRecipe) (actions : List Action) :
    (r.after actions).plain = actions.foldl editPlain r.plain := by
  induction actions generalizing r with
  | nil => rfl
  | cons a actions ih => exact (ih (r.act a)).trans (by rw [plain_act]; rfl)

theorem frame_after (r : LiveRecipe) (actions : List Action) :
    (r.after actions).metadata = r.metadata ∧ (r.after actions).sections = r.sections ∧
      (r.after actions).totals = r.totals := by
  induction actions generalizing r with
  | nil => exact ⟨rfl, rfl, rfl⟩
  | cons a actions ih =>
    obtain ⟨hmetadata, hsections, htotals⟩ := ih (r.act a)
    have hact : (r.act a).metadata = r.metadata ∧ (r.act a).sections = r.sections ∧
        (r.act a).totals = r.totals := by
      cases a with
      | edit i e => exact ⟨rfl, rfl, rfl⟩
      | link =>
        have h := linksAfresh r
        exact ⟨h.metadata_eq, h.sections_eq, h.totals_eq⟩
    exact ⟨hmetadata.trans hact.1, hsections.trans hact.2.1, htotals.trans hact.2.2⟩

/-- After whatever edits and attempts, the next attempt depends on the steps as they are now, and the
steps are as the edits have made them. -/
theorem after_links_afresh :
    (∀ r : Recipe, (ofRecipe r).relink = (ofRecipe r.relink.1, r.relink.2)) ∧
      ∀ (r : LiveRecipe) (actions : List Action), (r.after actions).LinksAfresh ∧
        (r.after actions).plain = actions.foldl editPlain r.plain ∧
        (r.after actions).metadata = r.metadata ∧ (r.after actions).sections = r.sections ∧
        (r.after actions).totals = r.totals :=
  ⟨relink_ofRecipe, fun r actions =>
    ⟨linksAfresh _, plain_after r actions, frame_after r actions⟩⟩

/-- The soup cannot be linked while it does not use the roots. -/
example :
    ((ofRecipe Recipe.soup).after [.edit 2 (.hidden []), .link]).links =
        ([([], []), ([], []), ([], []), ([], [])], [0, 1]) ∧
      ((ofRecipe Recipe.soup).after [.edit 2 (.hidden []), .link, .edit 2 (.hidden ["Roots"]),
          .link]).links =
        ([([], [2]), ([], [2]), ([1, 0], [3]), ([2], [])], [0, 1]) := by
  decide +kernel

end LiveRecipe
end RecipeBook
