import RecipeBook.Metadata
import RecipeBook.Similarity
import RecipeBook.Step

/-!
# The order of the steps

A step that names yields depends on the steps that declare them. Any other step depends on the step
right before it, unless it is the first or independent: such a step is a root. `StepGraph.build`
goes through the steps once, in order, and stops at the first that breaks a rule: roots name no
yields, a yield is named only after it has been declared, and is declared once. When all steps are
through, every yield must have been named.
-/

namespace RecipeBook

structure StepGraph where
  /-- From a step to a step that depends on it, in the order in which they were found. -/
  edges : List (Nat × Nat)
  roots : List Nat
  deriving DecidableEq, Repr

namespace StepGraph

def empty : StepGraph := ⟨[], []⟩

/-- The steps that a step depends on. -/
def inputs (g : StepGraph) (i : Nat) : List Nat := (g.edges.filter (·.2 = i)).map Prod.fst

/-- The steps that depend on a step. -/
def outputs (g : StepGraph) (i : Nat) : List Nat := (g.edges.filter (·.1 = i)).map Prod.snd

/-- All edges between the first `count` steps, by the step they start from. -/
def allEdges (g : StepGraph) (count : Nat) : List (Nat × Nat) :=
  (List.range count).flatMap fun i => (g.outputs i).map fun j => (i, j)

/-- A declared yield: its name as names are compared, and the step that declares it. -/
structure Declared where
  key : String
  producer : Nat
  place : Place
  deriving DecidableEq, Repr

/-- What is known after some steps. -/
structure Scan where
  roots : List Nat
  /-- In the order of declaration. -/
  declared : List Declared
  consumed : List String
  edges : List (Nat × Nat)

namespace Scan

def start : Scan := ⟨[], [], [], []⟩

def producer? (s : Scan) (key : String) : Option Declared := s.declared.find? (·.key = key)

/-- Links step `i` to the step that declares what `reference` names. -/
def refer (i : Nat) (s : Scan) (reference : String) : Except Problem Scan :=
  let key := nameKey reference
  match s.producer? key with
  | some d =>
    let edge := (d.producer, i)
    .ok { s with
      consumed := key :: s.consumed
      edges := if edge ∈ s.edges then s.edges else s.edges ++ [edge] }
  | none =>
    .error (.unknownReference reference
      (Similarity.closeMatches key (s.declared.map Declared.key)))

/-- Links step `i` to what it depends on. -/
def link (s : Scan) (i : Nat) (step : Step) : Except Problem Scan :=
  if i = 0 ∨ step.independent then
    if step.references = [] then .ok { s with roots := s.roots ++ [i] }
    else if i = 0 then .error (.firstStepRefers step.references)
    else .error (.independentStepRefers step.references)
  else if step.references = [] then .ok { s with edges := s.edges ++ [(i - 1, i)] }
  else step.references.foldlM (refer i) s

def declare (i : Nat) (place : Place) (s : Scan) (name : String) : Except Problem Scan :=
  let key := nameKey name
  match s.producer? key with
  | some d => .error (.yieldRedeclared key d.place)
  | none => .ok { s with declared := s.declared ++ [⟨key, i, place⟩] }

/-- Takes step `i`. A step that fails is not taken, except that a root whose yields fail is one. -/
def take (s : Scan) (i : Nat) (step : PlacedStep) : Scan × Option LoadError :=
  let failed (p : Problem) : Option LoadError := some ⟨p, [.step step.place]⟩
  match s.link i step.toStep with
  | .error p => (s, failed p)
  | .ok linked =>
    match step.yields.foldlM (declare i step.place) linked with
    | .error p => (linked, failed p)
    | .ok s => (s, none)

/-- Takes the steps from step `i` on, up to the first that fails. -/
def run (s : Scan) (i : Nat) : List PlacedStep → Scan × Option LoadError
  | [] => (s, none)
  | step :: steps =>
    match s.take i step with
    | (s, none) => s.run (i + 1) steps
    | (s, some e) => (s, some e)

/-- The first yield that no step names. -/
def unused? (s : Scan) : Option Declared := s.declared.find? fun d => d.key ∉ s.consumed

end Scan

/-- The graph of the steps, and the error if they break a rule. The graph of a failed attempt has no
edges, and the roots found before the failure. -/
structure Build where
  graph : StepGraph
  fault : Option LoadError

def build (steps : List PlacedStep) : Build :=
  match Scan.start.run 0 steps with
  | (s, some e) => ⟨⟨[], s.roots⟩, some e⟩
  | (s, none) =>
    match s.unused? with
    | some d => ⟨⟨[], s.roots⟩, some ⟨.yieldUnused d.key, [.step d.place]⟩⟩
    | none => ⟨⟨s.edges, s.roots⟩, none⟩

end StepGraph
end RecipeBook
